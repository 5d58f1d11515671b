import MediaGraph.Xml.Entity
import MediaGraph.Xml.Word

namespace MediaGraph.Xml

/-!
# Document type declarations

A document type declares entities, and attributes that elements have by default.  Everything else
in it is checked and passed over.  Behind a reference to declarations that are not read, only the
form of what follows counts, unless the document stands alone.

* `readDoctype` — what a document type declares.
-/

open Text

/-- An attribute of the elements of one name. -/
structure AttributeRule where
  element : QName
  name : QName
  /-- Whether values are words with one space between them. -/
  isWords : Bool
  value : Option (List Char)
  deriving Repr, DecidableEq

/-- What a document type says. -/
structure DocumentType where
  entities : Entities
  /-- The first rule for an attribute counts. -/
  rules : List AttributeRule
  standsAlone : Bool
  /-- Whether there are declarations outside of the document. -/
  reachesOutside : Bool
  /-- Whether declarations still count. -/
  isOpen : Bool
  deriving Repr

namespace DocumentType

/-- The type of a document without a declaration of one. -/
def plain (standsAlone : Bool) : DocumentType := ⟨[], [], standsAlone, false, true⟩

/-- Whether every entity has to be declared in the document. -/
def isStrict (d : DocumentType) : Bool := d.standsAlone || !d.reachesOutside

/-- The rules for the elements of a name, one for each attribute. -/
def rulesOf (d : DocumentType) (element : QName) : List AttributeRule :=
  d.rules.filter fun r => r.element = element

/-- The document type with one more rule, unless the attribute has one. -/
def addRule (d : DocumentType) (r : AttributeRule) : DocumentType :=
  if d.rules.any fun s => s.element = r.element && s.name = r.name then d
  else { d with rules := d.rules ++ [r] }

/-- The value of an attribute; `size` bounds how far entities lie in one another. -/
def valueOf (d : DocumentType) (size : Nat) (isWords : Bool) (literal : List Char) :
    Except Fault (List Char) :=
  if isTooLarge d.entities literal then .error .malformedMarkup
  else
    (readValue d.isStrict d.entities size literal).map fun value =>
      if isWords then joinWords value else value

end DocumentType

/-! ### The forms of declarations -/

/-- Whether a character may stand in a public identifier. -/
def isPublicChar (c : Char) : Bool :=
  c.isAlphanum || " \r\n-'()+,./:=?;!*#@$_%".toList.contains c

/-- Whether the rest of a list of elements in a content model is well formed, behind one of its
    names; the list has to allow any number of them. -/
def isMixedRest : List Word → Bool
  | [.closing (some .anyTimes)] => true
  | .bar :: .name _ :: rest => isMixedRest rest
  | _ => false

/-- The two ways in which the parts of a group may be joined. -/
inductive Joint where
  | sequence
  | choice
  deriving Repr, DecidableEq

/-- Whether the rest of a content model is well formed.  `groups` are the open groups, each with
    the joint between its parts once that is known; `after` says whether a part has just ended. -/
def isModelRest : List (Option Joint) → Bool → List Word → Bool
  | groups, false, .opening :: rest => isModelRest (none :: groups) false rest
  | groups, false, .name _ :: rest => isModelRest groups true rest
  | groups, false, .repeatedName _ :: rest => isModelRest groups true rest
  | _ :: groups, true, .closing _ :: rest =>
    if groups.isEmpty then rest.isEmpty else isModelRest groups true rest
  | joint :: groups, true, .comma :: rest =>
    joint ≠ some .choice && isModelRest (some .sequence :: groups) false rest
  | joint :: groups, true, .bar :: rest =>
    joint ≠ some .sequence && isModelRest (some .choice :: groups) false rest
  | _, _, _ => false

/-- Whether words declare an element. -/
def isElementDeclaration : List Word → Bool
  | [.name _, .name ⟨none, "EMPTY"⟩] => true
  | [.name _, .name ⟨none, "ANY"⟩] => true
  | [.name _, .opening, .reserved "PCDATA", .closing none] => true
  | .name _ :: .opening :: .reserved "PCDATA" :: rest => isMixedRest rest
  | .name _ :: .opening :: rest => isModelRest [none] false rest
  | _ => false

/-- Whether words tell where something outside is to be found: its address, and in front of it
    perhaps a public identifier. -/
def isAddress : List Word → Bool
  | [.name ⟨none, "SYSTEM"⟩, .literal _] => true
  | [.name ⟨none, "PUBLIC"⟩, .literal id, .literal _] => id.all isPublicChar
  | _ => false

/-- Whether words declare a notation. -/
def isNotationDeclaration : List Word → Bool
  | [.name ⟨none, _⟩, .name ⟨none, "PUBLIC"⟩, .literal id] => id.all isPublicChar
  | .name ⟨none, _⟩ :: rest => isAddress rest
  | _ => false

/-! ### Attributes -/

/-- The types of attributes whose values are words. -/
def wordTypes : List String :=
  ["ID", "IDREF", "IDREFS", "ENTITY", "ENTITIES", "NMTOKEN", "NMTOKENS"]

/-- What follows the values that an attribute is confined to. -/
def afterChoices (isNotation : Bool) : List Word → Option (List Word)
  | w :: .bar :: rest => if isChoice w then afterChoices isNotation rest else none
  | [w, .closing none] => if isChoice w then some [] else none
  | w :: .closing none :: rest => if isChoice w then some rest else none
  | _ => none
where
  /-- Whether a word is such a value. -/
  isChoice : Word → Bool
    | .name ⟨none, _⟩ => true
    | .name _ => !isNotation
    | .token => !isNotation
    | _ => false

/-- The type of an attribute: whether its values are words, and what follows. -/
def takeType : List Word → Option (Bool × List Word)
  | .name ⟨none, "NOTATION"⟩ :: .opening :: rest => (afterChoices true rest).map (true, ·)
  | .name ⟨none, "CDATA"⟩ :: rest => some (false, rest)
  | .name ⟨none, name⟩ :: rest => if wordTypes.contains name then some (true, rest) else none
  | .opening :: rest => (afterChoices false rest).map (true, ·)
  | _ => none

/-- The default of an attribute, if it has one, and what follows. -/
def takeDefault : List Word → Option (Option (List Char) × List Word)
  | .reserved "IMPLIED" :: rest => some (none, rest)
  | .reserved "REQUIRED" :: rest => some (none, rest)
  | .reserved "FIXED" :: .literal value :: rest => some (some value, rest)
  | .literal value :: rest => some (some value, rest)
  | _ => none

/-- The document type after the rules for the attributes of an element; `size` bounds how far
    entities lie in one another. -/
def addRules (size : Nat) (element : QName) :
    Nat → List Word → DocumentType → Except Fault DocumentType
  | _, [], d => .ok d
  | fuel + 1, .name name :: rest, d =>
    match takeType rest with
    | none => .error .malformedMarkup
    | some (isWords, rest) =>
      match takeDefault rest with
      | none => .error .malformedMarkup
      | some (literal, rest) => do
        if !d.isOpen then addRules size element fuel rest d
        else
          let value ← literal.mapM (d.valueOf size isWords)
          addRules size element fuel rest (d.addRule ⟨element, name, isWords, value⟩)
  | _, _, _ => .error .malformedMarkup

/-- The document type after a declaration of attributes. -/
def addAttributes (size : Nat) (words : List Word) (d : DocumentType) :
    Except Fault DocumentType :=
  match words with
  | .name element :: rest => addRules size element rest.length rest d
  | _ => .error .malformedMarkup

/-! ### Entities -/

/-- The document type after an entity with a text. -/
def addEntity (name : Option String) (literal : List Char) (d : DocumentType) :
    Except Fault DocumentType :=
  if !d.isOpen then .ok d
  else
    match entityText (literal.length + 1) literal with
    | .error f => .error f
    | .ok (text, _) =>
      match name with
      | some name => .ok { d with entities := d.entities.declare name (.text text) }
      | none => .ok d

/-- The document type after the declaration of an entity. -/
def addEntityWords (words : List Word) (d : DocumentType) : Except Fault DocumentType :=
  match words with
  | [.percent, .name ⟨none, _⟩, .literal value] => addEntity none value d
  | .percent :: .name ⟨none, _⟩ :: rest => if isAddress rest then .ok d else .error .malformedMarkup
  | [.name ⟨none, name⟩, .literal value] => addEntity (some name) value d
  | .name ⟨none, name⟩ :: rest =>
    let address :=
      match rest.reverse with
      | .name ⟨none, _⟩ :: .name ⟨none, "NDATA"⟩ :: front => front.reverse
      | _ => rest
    if !isAddress address then .error .malformedMarkup
    else if d.isOpen then .ok { d with entities := d.entities.declare name .closed }
    else .ok d
  | _ => .error .malformedMarkup

/-! ### The whole -/

/-- The document type after a declaration of some kind. -/
def declare (size : Nat) (kind : String) (words : List Word) (d : DocumentType) :
    Except Fault DocumentType :=
  let check (good : Bool) : Except Fault DocumentType :=
    if good then .ok d else .error .malformedMarkup
  match kind with
  | "ENTITY" => addEntityWords words d
  | "ATTLIST" => addAttributes size words d
  | "ELEMENT" => check (isElementDeclaration words)
  | "NOTATION" => check (isNotationDeclaration words)
  | _ => .error .malformedMarkup

/-- The declarations inside the brackets of a document type, up to the closing bracket. -/
def readSubset (size : Nat) : Nat → DocumentType → Reader DocumentType
  | 0, _ => bad
  | fuel + 1, d => do
    let _ ← skipSpaces
    if ← Scan.accept "]" then return d
    else if ← Scan.accept "<!--" then
      skipComment
      readSubset size fuel d
    else if ← Scan.accept "<?" then
      skipInstruction
      readSubset size fuel d
    else if ← Scan.accept "<!" then
      let kind ← Scan.takeWhile fun c => c.isAlpha || c = '_'
      needSpaces
      let words ← readWords fuel
      expect ">"
      match declare size (String.ofList kind) words d with
      | .error f => Scan.fail f
      | .ok d => readSubset size fuel d
    else
      expect "%"
      let _ ← readPlainName
      expect ";"
      readSubset size fuel { d with reachesOutside := true, isOpen := d.standsAlone }

/-- The rest of a document type declaration. -/
def readDoctype (size : Nat) (standsAlone : Bool) : Reader DocumentType := do
  needSpaces
  let d := DocumentType.plain standsAlone
  let d ←
    match ← readWords size with
    | [.name _] => pure d
    | .name _ :: rest => if isAddress rest then pure { d with reachesOutside := true } else bad
    | _ => bad
  let d ← if ← Scan.accept "[" then readSubset size size d else pure d
  let _ ← skipSpaces
  expect ">"
  return d

end MediaGraph.Xml
