import MediaGraph.Failure.Basic
import MediaGraph.Text.Scan
import MediaGraph.Xml.Character

namespace MediaGraph.Xml

/-!
# The small parts of markup

Names, quoted literals, character references, comments and instructions.
-/

open Text

/-- What goes wrong when markup is read. -/
inductive Fault where
  | malformedMarkup
  deriving Repr, DecidableEq

/-- A fault of the markup, as a failure. -/
def Fault.toFailure : Fault → Failure
  | .malformedMarkup => .malformedMarkup

/-- Scanners of markup. -/
abbrev Reader (α : Type) := Scan Fault α

/-- Fails on ill-formed markup. -/
def bad {α : Type} : Reader α := Scan.fail .malformedMarkup

/-- Takes `s`. -/
def expect (s : String) : Reader Unit := Scan.expect .malformedMarkup s

/-- Passes over blanks and says whether there were some. -/
def skipSpaces : Reader Bool := do return !(← Scan.takeWhile isSpace).isEmpty

/-- Passes over blanks, of which there must be some. -/
def needSpaces : Reader Unit := do if !(← skipSpaces) then bad

/-- A name without a colon. -/
def readPlainName : Reader String := do
  let cs ← Scan.takeWhile isNameChar
  match cs with
  | [] => bad
  | c :: _ => if isNameStart c then return String.ofList cs else bad

/-- A name that may have a part in front of a colon. -/
structure QName where
  front : Option String
  rest : String
  deriving Repr, DecidableEq

/-- A name with at most one colon in it. -/
def readName : Reader QName := do
  let first ← readPlainName
  if ← Scan.accept ":" then return ⟨some first, ← readPlainName⟩ else return ⟨none, first⟩

/-- The characters between two quotes of the same kind. -/
def readLiteral : Reader (List Char) := do
  if ← Scan.accept "\"" then Scan.takeUntil .malformedMarkup "\""
  else
    expect "'"
    Scan.takeUntil .malformedMarkup "'"

/-- The value of a digit. -/
def digit? (c : Char) : Option Nat :=
  if c.isDigit then some (c.toNat - '0'.toNat)
  else if 'a' ≤ c ∧ c ≤ 'f' then some (c.toNat - 'a'.toNat + 10)
  else if 'A' ≤ c ∧ c ≤ 'F' then some (c.toNat - 'A'.toNat + 10)
  else none

/-- The number that digits of a base write. -/
def number? (base : Nat) : List Char → Option Nat
  | [] => none
  | cs => cs.foldl (fun acc c => do
      let d ← digit? c
      if d < base then return base * (← acc) + d else none) (some 0)

/-- The character of a number, if documents may hold it. -/
def referenced? (n : Nat) : Option Char :=
  if n.isValidChar && isXmlChar (Char.ofNat n) then some (Char.ofNat n) else none

/-- The character of a reference by number, behind its first two characters. -/
def readCharReference : Reader Char := do
  let base := if ← Scan.accept "x" then 16 else 10
  let digits ← Scan.takeUntil .malformedMarkup ";"
  match (number? base digits).bind referenced? with
  | some c => return c
  | none => bad

/-- The characters that have a name in every document. -/
def predefined? : String → Option Char
  | "lt" => some '<'
  | "gt" => some '>'
  | "amp" => some '&'
  | "apos" => some '\''
  | "quot" => some '"'
  | _ => none

/-- Passes over a comment, behind its opening mark: two hyphens end it and nothing else. -/
def skipComment : Reader Unit := do
  let _ ← Scan.takeUntil .malformedMarkup "--"
  expect ">"

/-- Passes over an instruction, behind its opening mark; the name of the declaration is
    reserved. -/
def skipInstruction : Reader Unit := do
  let target ← readPlainName
  if target.toLower = "xml" then bad
  if ← Scan.accept "?>" then return ()
  needSpaces
  let _ ← Scan.takeUntil .malformedMarkup "?>"

/-! ### The declaration of a document -/

/-- What the declaration of a document says. -/
structure Declaration where
  encoding : Option String
  /-- Whether nothing outside of the document matters to it. -/
  standsAlone : Bool
  deriving Repr, DecidableEq

/-- The characters of the values in a declaration. -/
def isDeclarationChar (c : Char) : Bool := c.isAlphanum || c = '.' || c = '-' || c = '_'

/-- A name, an equals sign and a value. -/
def readSetting : Reader (String × String) := do
  let name ← readPlainName
  let _ ← skipSpaces
  expect "="
  let _ ← skipSpaces
  let value ← readLiteral
  if value.all isDeclarationChar then return (name, String.ofList value) else bad

/-- The settings up to the end of a declaration; `fuel` bounds their number. -/
def readSettings : Nat → Reader (List (String × String))
  | 0 => bad
  | fuel + 1 => do
    let spaced ← skipSpaces
    if ← Scan.accept "?>" then return []
    else if spaced then
      let setting ← readSetting
      return setting :: (← readSettings fuel)
    else bad

/-- What the settings declare: a version, then an encoding, then whether the document stands
    alone. -/
def declarationOf (settings : List (String × String)) : Reader Declaration := do
  let rest ←
    match settings with
    | ("version", _) :: rest => pure rest
    | _ => bad
  let (encoding, rest) ←
    match rest with
    | ("encoding", name) :: rest =>
      if (name.toList.head?.any Char.isAlpha) then pure (some name, rest) else bad
    | rest => pure (none, rest)
  match rest with
  | [] => return ⟨encoding, false⟩
  | [("standalone", "yes")] => return ⟨encoding, true⟩
  | [("standalone", "no")] => return ⟨encoding, false⟩
  | _ => bad

/-- Whether a document starts with a declaration. -/
def startsDeclared (cs : List Char) : Bool :=
  match cs with
  | '<' :: '?' :: 'x' :: 'm' :: 'l' :: c :: _ => isSpace c
  | _ => false

/-- The declaration at the start of a document, if there is one. -/
def readDeclaration? : Reader (Option Declaration) := do
  if startsDeclared (← get) then
    Scan.skip 5
    return some (← declarationOf (← readSettings 5))
  else return none

end MediaGraph.Xml
