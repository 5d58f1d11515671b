import MediaGraph.Xml.Doctype
import MediaGraph.Xml.Encoding
import MediaGraph.Xml.Namespace

namespace MediaGraph.Xml

/-!
# Reading markup

Comments and instructions leave no trace, so the texts around them join.  A reference to an
entity is replaced by the content that the text of the entity writes; an entity must not lead to
itself.

* `ofText` — the root element of a document given as text; a declared encoding has no effect.
* `ofBytes` — the root element of a document given as bytes.
-/

open Text

/-- The attributes of a tag, up to its end; the answer also tells whether the tag closes its own
    element. -/
def readAttributes (d : DocumentType) (rules : List AttributeRule) (size : Nat) :
    Nat → Reader (List (QName × String) × Bool)
  | 0 => bad
  | fuel + 1 => do
    let spaced ← skipSpaces
    if ← Scan.accept ">" then return ([], false)
    else if ← Scan.accept "/>" then return ([], true)
    else if !spaced then bad
    else
      let name ← readName
      let _ ← skipSpaces
      expect "="
      let _ ← skipSpaces
      let literal ← readLiteral
      let isWords := rules.any fun r => r.name = name && r.isWords
      match d.valueOf size isWords literal with
      | .error e => Scan.fail e
      | .ok value =>
        let (rest, closed) ← readAttributes d rules size fuel
        return ((name, String.ofList value) :: rest, closed)

/-- Attributes together with those that have a value by default. -/
def withDefaults (rules : List AttributeRule) (attributes : List (QName × String)) :
    List (QName × String) :=
  attributes ++ (rules.filter fun r => !(attributes.any fun a => a.1 = r.name)).filterMap fun r =>
    r.value.map fun value => (r.name, String.ofList value)

/-- Whether a run of text holds the mark that ends a verbatim section. -/
def holdsSectionEnd : List Char → Bool
  | ']' :: ']' :: '>' :: _ => true
  | _ :: cs => holdsSectionEnd cs
  | [] => false

mutual

/-- Content up to a closing tag or the end. -/
def readContent (d : DocumentType) (size : Nat) : Nat → Reader (List RawNode)
  | 0 => bad
  | fuel + 1 => do
    if (← Scan.atEnd) || (← Scan.sees "</") then return []
    else if ← Scan.accept "<!--" then
      skipComment
      readContent d size fuel
    else if ← Scan.accept "<![CDATA[" then
      let text ← Scan.takeUntil .malformedMarkup "]]>"
      return .text text :: (← readContent d size fuel)
    else if ← Scan.accept "<?" then
      skipInstruction
      readContent d size fuel
    else if ← Scan.accept "<" then
      let element ← readElement d size fuel
      return element :: (← readContent d size fuel)
    else if ← Scan.accept "&#" then
      let c ← readCharReference
      return .text [c] :: (← readContent d size fuel)
    else if ← Scan.accept "&" then
      let name ← readPlainName
      expect ";"
      match predefined? name with
      | some c => return .text [c] :: (← readContent d size fuel)
      | none =>
        match d.entities.lookup name with
        | none => bad
        | some .closed => bad
        | some (.text text) =>
          match readContent { d with entities := d.entities.close name } size fuel text with
          | .error e => Scan.fail e
          | .ok (_, _ :: _) => bad
          | .ok (nodes, []) => return nodes ++ (← readContent d size fuel)
    else
      let text ← Scan.takeWhile fun c => c ≠ '<' && c ≠ '&'
      if holdsSectionEnd text then bad
      else return .text text :: (← readContent d size fuel)

/-- An element, behind the bracket that opens its tag. -/
def readElement (d : DocumentType) (size : Nat) : Nat → Reader RawNode
  | 0 => bad
  | fuel + 1 => do
    let name ← readName
    let rules := d.rulesOf name
    let (attributes, closed) ← readAttributes d rules size size
    let attributes := withDefaults rules attributes
    if closed then return .element name attributes []
    else
      let content ← readContent d size fuel
      expect "</"
      let closing ← readName
      let _ ← skipSpaces
      expect ">"
      if closing = name then return .element name attributes content else bad

end

mutual

/-- A piece of content with neighbouring texts joined. -/
def RawNode.joined : RawNode → RawNode
  | .text s => .text s
  | .element name attributes content => .element name attributes (joinTexts content)

/-- Content with neighbouring texts joined and empty ones dropped. -/
def joinTexts : List RawNode → List RawNode
  | [] => []
  | n :: ns =>
    match n.joined, joinTexts ns with
    | .text [], rest => rest
    | .text s, .text t :: rest => .text (s ++ t) :: rest
    | n', rest => n' :: rest

end

/-- Passes over blanks, comments and instructions around the root. -/
def skipMisc : Nat → Reader Unit
  | 0 => bad
  | fuel + 1 => do
    let _ ← skipSpaces
    if ← Scan.accept "<!--" then
      skipComment
      skipMisc fuel
    else if ← Scan.accept "<?" then
      skipInstruction
      skipMisc fuel

/-- A whole document. -/
def readDocument (size : Nat) : Reader RawNode := do
  let standsAlone := (← readDeclaration?).any (·.standsAlone)
  skipMisc size
  let d ←
    if ← Scan.accept "<!DOCTYPE" then readDoctype size standsAlone
    else pure (.plain standsAlone)
  skipMisc size
  if isTooLarge d.entities (← get) then bad
  expect "<"
  let root ← readElement d (2 * size) (2 * size)
  skipMisc size
  return root

/-- The root element of a document. -/
def ofChars (cs : List Char) : Except Fault Element := do
  if !cs.all isXmlChar then .error .malformedMarkup
  let plain := plainLineEnds cs
  let root ← (readDocument (plain.length + 10)).run .malformedMarkup plain
  let node ← resolveNode Scope.initial root.joined
  match node.toElement? with
  | some element => .ok element
  | none => .error .malformedMarkup

/-- Characters without a byte order mark in front. -/
def dropMark : List Char → List Char
  | '\ufeff' :: cs => cs
  | cs => cs

/-- The root element of a document given as text. -/
def ofText (text : String) : Except Failure Element :=
  (ofChars (dropMark text.toList)).mapError Fault.toFailure

/-- The root element of a document given as bytes. -/
def ofBytes (codecs : Codecs) (bytes : Text.Utf8.Bytes) : Except Failure Element := do
  (ofChars (← decodeDocument codecs bytes)).mapError Fault.toFailure

end MediaGraph.Xml
