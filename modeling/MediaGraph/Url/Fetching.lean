import MediaGraph.Files.Path
import MediaGraph.Text.Numeral
import MediaGraph.Text.Utf8
import MediaGraph.Url.Authority

namespace MediaGraph.Url

/-!
# Fetching a URL

Only files of this host can be reached.  For everything else it is still said in which way the
attempt fails: a server may not even be asked, because its name or the path cannot be sent.

* `reach` — the path of the file at a URL.
-/

/-! ### Reading a URL -/

/-- The URL without the brackets and the mark that may stand around it, and what follows its last
    hash sign. -/
def unwrap (url : String) : String × Option String :=
  let cs := Text.trimChars url.toList
  let cs :=
    if cs.head? = some '<' && cs.getLast? = some '>' then Text.trimChars (cs.drop 1).dropLast
    else cs
  let cs := if "URL:".toList.isPrefixOf cs then Text.trimChars (cs.drop 4) else cs
  match Text.cutLast? '#' cs with
  | some (front, mark) => (String.ofList front, some (String.ofList mark))
  | none => (String.ofList cs, none)

/-- The type of a URL in lower case, and what follows it. -/
def splitType? (url : List Char) : Option (String × List Char) :=
  match Text.cutFirst? ':' url with
  | some (type, rest) =>
    if type.isEmpty || type.contains '/' then none
    else some (Text.lower (String.ofList type), rest)
  | none => none

/-- The server of an address behind two slashes, if it names one, and the rest. -/
def splitServer (address : List Char) : List Char × List Char :=
  match address with
  | '/' :: '/' :: rest =>
    let path := rest.dropWhile fun c => !endsAuthority c
    (rest.takeWhile fun c => !endsAuthority c,
      if path.isEmpty || path.head? = some '/' then path else '/' :: path)
  | _ => ([], address)

/-- The value of two hexadecimal digits. -/
def hexByte? (a b : Char) : Option UInt8 := do
  let high ← Xml.digit? a
  let low ← Xml.digit? b
  return (16 * high + low).toUInt8

/-- The bytes that a text with percent signs stands for. -/
def percentBytes : List Char → Text.Utf8.Bytes
  | '%' :: a :: b :: rest =>
    match hexByte? a b with
    | some byte => byte :: percentBytes rest
    | none => Text.Utf8.encodeChar '%' ++ percentBytes (a :: b :: rest)
  | c :: rest => Text.Utf8.encodeChar c ++ percentBytes rest
  | [] => []

/-- The text that a text with percent signs stands for. -/
def percentText (cs : List Char) : String := Text.Utf8.decode (percentBytes cs)

/-! ### Servers -/

/-- Whether a character may not be sent. -/
def isUnsendable (c : Char) : Bool := c.toNat ≤ 0x20 || c.toNat = 0x7f

/-- The name of a server and the number behind its last colon. -/
def splitNumber (server : List Char) : Except Failure (List Char × Option Int) :=
  match Text.cutLast? ':' server with
  | none => .ok (server, none)
  | some (name, digits) =>
    if digits.contains ']' then .ok (server, none)
    else if digits.isEmpty then .ok (name, none)
    else
      match Text.readNumeral? 10 digits with
      | some number => .ok (name, some number)
      | none => .error .invalidAddress

/-- Whether a character separates the labels of a name: a dot, and in a name with other than plain
    letters also a dot of other scripts. -/
def isLabelEnd (plain : Bool) (c : Char) : Bool :=
  c = '.' || !plain && (c = '\u3002' || c = '\uff0e' || c = '\uff61')

/-- Whether a label can be looked up: it has letters but not too many, and no control of the upper
    half.  A soft hyphen does not count; other than plain letters need a mark in front. -/
def isLabel (label : List Char) : Bool :=
  let label := label.filter (· ≠ '\u00ad')
  let plain := label.all (·.toNat < 0x80)
  !label.isEmpty && label.length < (if plain then 64 else 60) &&
    label.all fun c => !(0x80 ≤ c.toNat && c.toNat < 0xa0)

/-- Whether a name can be looked up: its labels can, and the last one may be missing. -/
def isNameable (name : List Char) : Bool :=
  let plain := name.all (·.toNat < 0x80)
  let labels := Text.splitChars '.' (name.map fun c => if isLabelEnd plain c then '.' else c)
  labels.dropLast.all isLabel && labels.getLast?.all fun l => l.isEmpty || isLabel l

/-- Whether a number fits into a word. -/
def fitsWord (n : Int) : Bool := -9223372036854775808 ≤ n && n < 9223372036854775808

/-- In which way asking a server for a path fails. -/
def askingFailure (server path : List Char) : Failure :=
  if server.isEmpty then .inaccessible
  else
    match splitNumber server with
    | .error f => f
    | .ok (name, number) =>
      if name.any isUnsendable || path.any isUnsendable then .invalidAddress
      else if path.any (0x7f < ·.toNat) || server.any (0xff < ·.toNat) then .unencodable
      else if !isNameable name then .unnameable
      else if number.any fun n => !fitsWord n then .outOfRange
      else .inaccessible

/-- In which way looking up the name of a file server fails. -/
def fileServerFailure (server : List Char) : Failure :=
  let name := Text.afterLast '@' server
  let name :=
    match Text.cutLast? ':' name with
    | some (front, digits) => if digits.all Char.isDigit then front else name
    | none => name
  let name := (percentText name).toList
  if server.isEmpty then .inaccessible
  else if !isNameable name then .unnameable
  else if name.contains '\x00' then .wrongType
  else .inaccessible

/-! ### Files -/

/-- The names of this host. -/
def localHosts : List String := ["", "localhost", "127.0.0.1"]

/-- Whether a server is this host; a colon without a number does not count. -/
def isLocal (server : List Char) : Bool :=
  let name := if server.getLast? = some ':' then server.dropLast else server
  localHosts.contains (Text.lower (String.ofList name))

/-- Whether a selector names a server of its own, beside one that was named. -/
def namesServerTwice (server selector : List Char) : Bool :=
  "//".toList.isPrefixOf selector && !"///".toList.isPrefixOf selector && !server.isEmpty &&
    server ≠ "localhost".toList

/-- The path of a file on a server.  What ends in a slash or in a single dot names no file. -/
def localPath (server selector : List Char) : Except Failure Path :=
  let text := percentText selector
  if namesServerTwice server selector then .error .inaccessible
  else if text.toList.contains '\x00' then .error (.invalidValue .zeroInPath)
  else if !isLocal server then .error .inaccessible
  else if ["", "."].contains (String.ofList (Text.afterLast '/' text.toList)) then
    .error .inaccessible
  else .ok (.ofText text)

/-! ### All URLs -/

/-- The path of the file at a URL. -/
def reach (url : String) : Except Failure Path := do
  let (address, mark) := unwrap url
  let whole := if mark.any (!·.isEmpty) then address ++ "#" ++ mark.getD "" else address
  match splitType? address.toList with
  | none => .error (.invalidValue (.unknownUrlType whole))
  | some (type, rest) =>
    let _ ← (split whole).mapError Failure.invalidValue
    let (server, selector) := splitServer rest
    let server := (percentText server).toList
    match type with
    | "file" => localPath server selector
    | "http" => .error (askingFailure server selector)
    | "https" => .error (askingFailure server selector)
    | "ftp" => .error (fileServerFailure server)
    | _ => .error .inaccessible

end MediaGraph.Url
