import MediaGraph.Text.Numeral
import MediaGraph.Text.Scan
import MediaGraph.Toml.Pieces

namespace MediaGraph.Toml

/-!
# Blanks, comments, texts and keys

A reader takes them from the front of a document.  A character that does not belong where it
stands is a fault of its own, because an array can go on behind it: the fault keeps what is left.
-/

open Text

/-- Why a reader stops. -/
inductive Fault where
  /-- The first character of what is left does not belong there. -/
  | unexpected (rest : List Char)
  | problem (p : Problem)
  deriving Repr, DecidableEq

/-- The problem of a document in which a reader stops. -/
def Fault.toProblem : Fault → Problem
  | .unexpected _ => .malformed
  | .problem p => p

/-- Readers of document text. -/
abbrev Reader (α : Type) := Scan Fault α

/-- Stops at ill-formed text. -/
def bad {α : Type} : Reader α := Scan.fail (.problem .malformed)

/-- Stops because values, or the parts of a key, lie too deep in one another. -/
def tooDeep {α : Type} : Reader α := Scan.fail (.problem .tooDeep)

/-- Stops at a character that does not belong where it stands. -/
def unexpected {α : Type} : Reader α := fun cs => .error (.unexpected cs)

/-- Takes a character that has to follow. -/
def take (c : Char) : Reader Unit := fun cs =>
  match cs with
  | d :: rest => if c = d then .ok ((), rest) else .error (.unexpected cs)
  | [] => .error (.unexpected cs)

/-- The next character; there has to be one. -/
def next : Reader Char := Scan.next (.problem .malformed)

/-! ### Blanks and comments -/

/-- Spaces and tabs. -/
def isSpace (c : Char) : Bool := c = ' ' || c = '\t'

/-- Spaces, tabs and the characters of line ends. -/
def isGap (c : Char) : Bool := isSpace c || c = '\n' || c = '\r'

/-- Control characters other than tabs. -/
def isControl (c : Char) : Bool := (c.toNat < 0x20 && c ≠ '\t') || c.toNat = 0x7F

/-- Passes over spaces and tabs. -/
def skipSpaces : Reader Unit := Scan.skipWhile isSpace

/-- Passes over spaces, tabs and carriage returns. -/
def skipBlanks : Reader Unit := Scan.skipWhile fun c => isSpace c || c = '\r'

/-- Passes over a comment up to the end of its line. -/
def skipComment : Reader Unit := do
  Scan.skip 1
  Scan.skipWhile fun c => !isControl c
  match ← Scan.peek? with
  | none | some '\n' | some '\r' => return ()
  | some _ => bad

/-- Passes over the blanks, the comment and the line end after a statement. -/
def endLine : Reader Unit := do
  skipBlanks
  match ← Scan.peek? with
  | none => return ()
  | some '\n' => Scan.skip 1
  | some '#' =>
    skipComment
    let _ ← Scan.accept "\r"
    let _ ← Scan.accept "\n"
  | some _ => unexpected

/-- Passes over blanks, line ends and comments between values. -/
def skipGaps : Nat → Reader Unit
  | 0 => return ()
  | fuel + 1 => do
    Scan.skipWhile isGap
    if ← Scan.sees "#" then
      skipComment
      skipGaps fuel

/-! ### Texts -/

/-- The character whose number is written with `count` digits.  For a number of four or eight
    digits the first two of them must not name half of a pair. -/
def readCodePoint (count : Nat) : Reader Char := do
  let digits := (← get).take count
  Scan.skip count
  let isHalf :=
    match digits with
    | d :: e :: _ => count > 2 && (d = 'd' || d = 'D') && !('0' ≤ e && e ≤ '7')
    | _ => true
  match readNumeral? 16 digits with
  | some (.ofNat n) =>
    if digits.length = count && !isHalf && n < 0x110000 then return Char.ofNat n else bad
  | _ => bad

/-- The character that is written behind a backslash. -/
def readEscape : Reader Char := do
  match ← next with
  | 'b' => return '\x08'
  | 't' => return '\t'
  | 'n' => return '\n'
  | 'f' => return '\x0c'
  | 'r' => return '\r'
  | 'e' => return '\x1b'
  | '"' => return '"'
  | '\\' => return '\\'
  | 'x' => readCodePoint 2
  | 'u' => readCodePoint 4
  | 'U' => readCodePoint 8
  | _ => bad

/-- The rest of a text between double quotes. -/
def readBasic : Nat → Reader (List Char)
  | 0 => bad
  | fuel + 1 => do
    let c ← next
    if c = '"' then return []
    else if c = '\\' then
      let e ← readEscape
      return e :: (← readBasic fuel)
    else if isControl c then bad
    else return c :: (← readBasic fuel)

/-- The rest of a text between single quotes: no escapes. -/
def readLiteral : Reader (List Char) := do
  let cs ← Scan.takeWhile fun c => c ≠ '\'' && !isControl c
  Scan.expect (.problem .malformed) "'"
  return cs

/-- Whether a character may not stand in front of `rest` in a text of several lines: control
    characters other than tabs and line ends. -/
def isLineControl (c : Char) (rest : List Char) : Bool :=
  isControl c && c ≠ '\n' && !(c = '\r' && rest.head? = some '\n')

/-- The quotes at the front of a text of several lines when they end it: up to two of them belong
    to the text. -/
def closing? (quote : Char) (cs : List Char) : Option Nat :=
  let run := (cs.takeWhile (· = quote)).length
  if run < 3 then none else some run

/-- Takes the quotes that end a text of several lines; those that belong to it are left. -/
def close (quote : Char) (run : Nat) : Reader (List Char) := do
  if run > 5 then bad
  Scan.skip run
  return List.replicate (run - 3) quote

/-- The rest of a text of several lines between three double quotes.  A backslash in front of
    blanks with a line end among them stands for nothing, as do the blanks. -/
def readBasicLines : Nat → Reader (List Char)
  | 0 => bad
  | fuel + 1 => do
    match closing? '"' (← get) with
    | some run => close '"' run
    | none =>
      let c ← next
      if c = '\\' then
        let gap := (← get).takeWhile isGap
        if gap.isEmpty then
          let e ← readEscape
          return e :: (← readBasicLines fuel)
        else if gap.contains '\n' then
          Scan.skip gap.length
          readBasicLines fuel
        else bad
      else if isLineControl c (← get) then bad
      else return c :: (← readBasicLines fuel)

/-- The rest of a text of several lines between three single quotes. -/
def readLiteralLines : Nat → Reader (List Char)
  | 0 => bad
  | fuel + 1 => do
    match closing? '\'' (← get) with
    | some run => close '\'' run
    | none =>
      let c ← next
      if isLineControl c (← get) then bad else return c :: (← readLiteralLines fuel)

/-- Passes over the line end right behind the quotes that open a text of several lines. -/
def skipFirstLineEnd : Reader Unit := do
  if !(← Scan.accept "\n") then
    let _ ← Scan.accept "\r\n"

/-- A text of any kind; the text goes on with its opening quote. -/
def readText (fuel : Nat) : Reader String := do
  if ← Scan.accept "\"\"\"" then
    skipFirstLineEnd
    return String.ofList (← readBasicLines fuel)
  else if ← Scan.accept "'''" then
    skipFirstLineEnd
    return String.ofList (← readLiteralLines fuel)
  else if ← Scan.accept "\"" then return String.ofList (← readBasic fuel)
  else
    Scan.expect (.problem .malformed) "'"
    return String.ofList (← readLiteral)

/-! ### Keys -/

/-- The characters of a key without quotes. -/
def isBareKeyChar (c : Char) : Bool := c.isAlphanum || c = '_' || c = '-'

/-- One part of a dotted key with the blanks around it.  A key without quotes may hold tabs, but
    no spaces. -/
def readKeyPart (fuel : Nat) : Reader String := do
  skipSpaces
  match ← Scan.peek? with
  | some '"' | some '\'' =>
    if (← Scan.sees "\"\"\"") || (← Scan.sees "'''") then
      let _ ← readText fuel
      unexpected
    let part ← readText fuel
    skipSpaces
    return part
  | _ =>
    let part := trimChars (← Scan.takeWhile fun c => isBareKeyChar c || isSpace c)
    if part.isEmpty || part.contains ' ' then bad else return String.ofList part

/-- The parts of a dotted key with the blanks around them, of which there may be `room`. -/
def readParts (fuel : Nat) : Nat → Reader KeyPath
  | 0 => tooDeep
  | room + 1 => do
    let part ← readKeyPart fuel
    if ← Scan.accept "." then return part :: (← readParts fuel room) else return [part]

/-- How many parts a key may have. -/
def partLimit : Nat := 490

/-- A dotted key. -/
def readKey (fuel : Nat) : Reader KeyPath := readParts fuel partLimit

end MediaGraph.Toml
