import MediaGraph.Text.Codecs
import MediaGraph.Xml.Token

namespace MediaGraph.Xml

/-!
# The characters of a document given as bytes

A mark at the start, or the pattern of the first two bytes, tells whether a document consists of
bytes or of pairs of bytes.  The declaration in front names the encoding.  One that is not known to
every reader of markup is looked up among the codecs, and has to give every byte its own character.
Faults in the bytes are faults of the markup.

* `foreignEncoding?` — the declared encoding, where it has to be looked up.
* `byteTable` — the characters of all bytes in such an encoding.
* `decodeDocument` — the characters of a document.
-/

open Text (Charset)

/-! ### Units -/

/-- The units of a document: bytes, or pairs of bytes in either order. -/
inductive Width where
  | byte
  | pair (big : Bool)
  deriving Repr, DecidableEq

/-- The units that the first bytes of a document tell, and its bytes behind a mark. -/
def layout (bytes : Text.Utf8.Bytes) : Width × Text.Utf8.Bytes :=
  match bytes with
  | 0xFF :: 0xFE :: rest => (.pair false, rest)
  | 0xFE :: 0xFF :: rest => (.pair true, rest)
  | 0xEF :: 0xBB :: 0xBF :: rest => (.byte, rest)
  | 0 :: _ => (.pair true, bytes)
  | _ :: 0 :: _ => (.pair false, bytes)
  | _ => (.byte, bytes)

namespace Width

/-- The number of bytes in a unit. -/
def size : Width → Nat
  | .byte => 1
  | .pair _ => 2

/-- The units of a document as characters; a declaration is read from them. -/
def units : Width → Text.Utf8.Bytes → List Char
  | .byte, bytes => Charset.latin1.decodeChars bytes
  | .pair big, bytes => Charset.replacing (Charset.decode16 big bytes)

/-- The encoding where none is declared. -/
def ownEncoding : Width → String
  | .byte => "UTF-8"
  | .pair _ => "UTF-16"

end Width

/-! ### Encodings that are known -/

/-- The characters, unless one of them is a fault. -/
def faultless (cs : List (Option Char)) : Except Failure (List Char) :=
  match cs.mapM id with
  | some cs => .ok cs
  | none => .error .malformedMarkup

/-- The characters of UTF-8. -/
def decodeUtf8 (bytes : Text.Utf8.Bytes) : Except Failure (List Char) :=
  if (Text.Utf8.firstFault? bytes).isSome then .error .malformedMarkup
  else .ok (Text.Utf8.decodeChars bytes)

/-- The encodings that are known to every reader of markup. -/
def knownEncodings : List String :=
  ["UTF-8", "UTF-16", "UTF-16LE", "UTF-16BE", "ISO-8859-1", "US-ASCII"]

/-- The characters of a document in a known encoding; one for other units is a fault. -/
def decodeKnown (width : Width) (name : String) (bytes : Text.Utf8.Bytes) :
    Except Failure (List Char) :=
  match width, name with
  | .byte, "UTF-8" => decodeUtf8 bytes
  | .byte, "ISO-8859-1" => .ok (Charset.latin1.decodeChars bytes)
  | .byte, "US-ASCII" =>
    faultless (bytes.map fun b => if b < 0x80 then some (Char.ofNat b.toNat) else none)
  | .pair big, "UTF-16" => faultless (Charset.decode16 big bytes)
  | .pair false, "UTF-16LE" => faultless (Charset.decode16 false bytes)
  | .pair true, "UTF-16BE" => faultless (Charset.decode16 true bytes)
  | _, _ => .error .malformedMarkup

/-! ### Encodings that are looked up -/

/-- All bytes, in their order. -/
def allBytes : Text.Utf8.Bytes := (List.range 256).map Nat.toUInt8

/-- The numbers of printable characters in ASCII that have no meaning in markup. -/
def idleMarks : List Nat := [0x24, 0x40, 0x5C, 0x5E, 0x60, 0x7B, 0x7D, 0x7E]

/-- Whether a number is that of a character in ASCII which has a meaning in markup. -/
def isMarkup (n : Nat) : Bool :=
  [0x09, 0x0A, 0x0D].contains n || (0x20 ≤ n && n < 0x7F && !idleMarks.contains n)

/-- Whether markup can be read with a table of characters, one for each byte: those with a meaning
    in markup stand at their own places and nowhere else, and none needs more than two bytes. -/
def fitsMarkup (table : List Char) : Bool :=
  table.zipIdx.all fun (c, i) =>
    (!(isMarkup i || isMarkup c.toNat) || c.toNat = i) && c.toNat < 0x10000

/-- The characters of all bytes in an encoding that is looked up: it is tried on all bytes at once,
    and one character must come out for each. -/
def byteTable (codecs : Codecs) (name : String) : Except Failure (List Char) := do
  let table ← codecs.decode name allBytes
  if table.length ≠ 256 then .error (.invalidValue .multiByteEncoding)
  else if fitsMarkup table then return table
  else .error .malformedMarkup

/-- The characters of some bytes by a table. -/
def decodeByTable (table : List Char) (bytes : Text.Utf8.Bytes) : Except Failure (List Char) :=
  faultless (bytes.map fun b => (table[b.toNat]?).filter (· ≠ Charset.replacement))

/-! ### Documents -/

/-- The encoding that the declaration in front of some characters names, and the length of the
    declaration. -/
def declaredEncoding? (cs : List Char) : Option (String × Nat) :=
  match readDeclaration? cs with
  | .ok (some d, rest) => d.encoding.map fun name => (name, cs.length - rest.length)
  | _ => none

/-- Whether an encoding is known, in capitals or not. -/
def isKnown (name : String) : Bool := knownEncodings.contains name.toUpper

/-- The declared encoding of a document, where it has to be looked up. -/
def foreignEncoding? (bytes : Text.Utf8.Bytes) : Option String :=
  let (width, body) := layout bytes
  ((declaredEncoding? (width.units body)).map (·.1)).filter fun name => !isKnown name

/-- The characters of a document. -/
def decodeDocument (codecs : Codecs) (bytes : Text.Utf8.Bytes) : Except Failure (List Char) :=
  let (width, body) := layout bytes
  match declaredEncoding? (width.units body) with
  | none => decodeKnown width width.ownEncoding body
  | some (name, length) =>
    if isKnown name then decodeKnown width name.toUpper body
    else do
      let table ← byteTable codecs name
      -- The declaration itself was read in the units of the document.
      let rest ← decodeByTable table (body.drop (width.size * length))
      return (width.units body).take length ++ rest

end MediaGraph.Xml
