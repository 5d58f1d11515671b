import MediaGraph.Xml.Token

namespace MediaGraph.Xml

/-!
# Entities and the values of attributes

An entity stands for a text.  The text is declared with its references by number replaced; other
references are replaced where the entity is used, and an entity must not lead to itself.

* `entityText` — the text of an entity as it is declared.
* `readValue` — the value of an attribute.
* `isTooLarge` — whether a document grows too far when its entities are replaced.
-/

open Text

/-- What an entity stands for. -/
inductive Entity where
  | text (cs : List Char)
  /-- Something outside of the document, or a text that is being replaced already. -/
  | closed
  deriving Repr, DecidableEq

/-- Entities by name; the first declaration of a name counts. -/
abbrev Entities := List (String × Entity)

/-- The entities with one more, unless its name is taken. -/
def Entities.declare (entities : Entities) (name : String) (e : Entity) : Entities :=
  if (entities.lookup name).isSome then entities else entities ++ [(name, e)]

/-- The entities while one of them is being replaced. -/
def Entities.close (entities : Entities) (name : String) : Entities :=
  entities.map fun e => if e.1 = name then (name, .closed) else e

/-- The text of an entity as it is declared: references by number are replaced, others kept. -/
def entityText : Nat → Reader (List Char)
  | 0 => bad
  | fuel + 1 => do
    if ← Scan.atEnd then return []
    else if ← Scan.accept "&#" then
      let c ← readCharReference
      return c :: (← entityText fuel)
    else if ← Scan.accept "&" then
      let name ← readPlainName
      expect ";"
      return '&' :: name.toList ++ ';' :: (← entityText fuel)
    else
      let c ← Scan.next .malformedMarkup
      if c = '%' then bad else return c :: (← entityText fuel)

/-! ### Attributes -/

/-- A character, by itself or by its number, or the name of an entity. -/
def readReference : Reader (Char ⊕ String) := do
  expect "&"
  if ← Scan.accept "#" then return .inl (← readCharReference)
  let name ← readPlainName
  expect ";"
  match predefined? name with
  | some c => return .inl c
  | none => return .inr name

/-- The value of an attribute: blanks become spaces, references are replaced, and a tag must not
    open.  A name that no entity has is a fault when `strict`, and stands for nothing otherwise. -/
def readValue (strict : Bool) (entities : Entities) : Nat → List Char →
    Except Fault (List Char)
  | _, [] => .ok []
  | 0, _ :: _ => .error .malformedMarkup
  | fuel + 1, cs@(c :: rest) =>
    if c = '<' then .error .malformedMarkup
    else if c ≠ '&' then
      (readValue strict entities fuel rest).map ((if isSpace c then ' ' else c) :: ·)
    else
      match readReference cs with
      | .error e => .error e
      | .ok (.inl c, rest) => (readValue strict entities fuel rest).map (c :: ·)
      | .ok (.inr name, rest) =>
        match entities.lookup name with
        | some (.text text) => do
          let first ← readValue strict (entities.close name) fuel text
          let second ← readValue strict entities fuel rest
          return first ++ second
        | some .closed => .error .malformedMarkup
        | none => if strict then .error .malformedMarkup else readValue strict entities fuel rest

/-- The words of a value, with one space between them. -/
def joinWords (cs : List Char) : List Char :=
  [' '].intercalate ((splitChars ' ' cs).filter fun w => !w.isEmpty)

/-! ### Growth -/

/-- The names that a text refers to outside of comments, instructions and verbatim sections. -/
def referencesIn : Nat → List Char → List String
  | 0, _ => []
  | _ + 1, [] => []
  | fuel + 1, '&' :: rest =>
    let name := rest.takeWhile isNameChar
    String.ofList name :: referencesIn fuel (rest.drop name.length)
  | fuel + 1, cs@(_ :: rest) =>
    if "<!--".toList.isPrefixOf cs then referencesIn fuel (after "-->" rest)
    else if "<![CDATA[".toList.isPrefixOf cs then referencesIn fuel (after "]]>" rest)
    else if "<?".toList.isPrefixOf cs then referencesIn fuel (after "?>" rest)
    else referencesIn fuel rest
where
  /-- What follows the first occurrence of a mark. -/
  after (mark : String) (cs : List Char) : List Char :=
    match Scan.takeUntil Fault.malformedMarkup mark cs with
    | .ok (_, rest) => rest
    | .error _ => []

/-- How many characters the texts behind some references come to, when the size of every entity
    is known. -/
def sizeBehind (sizes : List (String × Nat)) (names : List String) : Nat :=
  names.foldl (fun size n => size + (sizes.lookup n).getD 0) 0

/-- The sizes of entities, made anew in the order of their declarations from earlier guesses. -/
def resize (guesses : List (String × Nat)) (entities : Entities) : List (String × Nat) :=
  entities.foldl (fun sizes (name, e) =>
    match e with
    | .text cs =>
      (name, cs.length + sizeBehind (sizes ++ guesses) (referencesIn cs.length cs)) :: sizes
    | .closed => (name, 0) :: sizes) []

/-- The sizes of entities once everything they refer to is replaced; as many rounds as there are
    entities are enough. -/
def grow (entities : Entities) : Nat → List (String × Nat) → List (String × Nat)
  | 0, sizes => sizes
  | rounds + 1, sizes =>
    let next := resize sizes entities
    if next = sizes then sizes else grow entities rounds next

/-- The size up to which a document may always grow. -/
def sizeLimit : Nat := 8388608

/-- How many times its own size a larger document may reach. -/
def growthLimit : Nat := 100

/-- Whether a document grows too far when the references in its text are replaced. -/
def isTooLarge (entities : Entities) (cs : List Char) : Bool :=
  let behind := sizeBehind (grow entities entities.length []) (referencesIn cs.length cs)
  let total := cs.length + behind
  total > sizeLimit && total > growthLimit * cs.length

end MediaGraph.Xml
