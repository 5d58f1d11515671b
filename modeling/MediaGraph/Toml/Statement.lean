import MediaGraph.Toml.Number
import MediaGraph.Toml.Token

namespace MediaGraph.Toml

/-!
# The statements of a TOML document

A document is a sequence of statements: a key with its value, the header of a table, or the
header of a table in an array.

* `readStatements` — the statements of a text, the last of which may say that the text goes wrong.
-/

/-- A statement. -/
inductive Statement where
  | assign (path : KeyPath) (value : Value)
  | table (path : KeyPath)
  | element (path : KeyPath)
  /-- The text is wrong from here on. -/
  | broken (problem : Problem)
  deriving Repr

open Text

/-! ### Values -/

/-- Whether a word goes on with a character. -/
def isWordChar (c : Char) : Bool := !" \t\n\r#,]\x7d".toList.contains c

/-- The moment or number that a word writes.  The time of a date may stand behind a space. -/
def readDigitWord (word : List Char) : Reader Value := do
  match Date.read? word with
  | some date =>
    let time := trimEnd ((← get).takeWhile fun c => isWordChar c || c = ' ')
    if time.isEmpty then return .moment (.day date)
    else
      Scan.skip time.length
      match Moment.read? (word ++ time) with
      | some m => return .moment m
      | none => bad
  | none =>
    match Moment.read? word with
    | some m => return .moment m
    | none =>
      match readNumber? word with
      | some v => return v
      | none => bad

/-- A moment, a number or a named value. -/
def readWord : Reader Value := do
  let start ← get
  let word := start.takeWhile isWordChar
  match start with
  | 't' :: _ => if ← Scan.accept "true" then return .boolean true else unexpected
  | 'f' :: _ => if ← Scan.accept "false" then return .boolean false else unexpected
  | c :: _ =>
    if c = '+' || c = '-' || word = "inf".toList || word = "nan".toList then
      Scan.skip word.length
      match readNumber? word with
      | some v => return v
      | none => bad
    else if c.isDigit then
      Scan.skip word.length
      readDigitWord word
    else unexpected
  | [] => unexpected

/-- How deep values may lie in one another, in units of which an array takes two and a table between
    braces three. -/
def valueRoom : Nat := 981

/-- What an array takes of the room. -/
def arrayDepth : Nat := 2

/-- What a table between braces takes of the room. -/
def inlineDepth : Nat := 3

mutual

/-- A value of any kind, in which others may lie as deep as there is room. -/
def readValue : Nat → Nat → Reader Value
  | 0, _ => bad
  | fuel + 1, room => do
    match ← Scan.peek? with
    | some '"' | some '\'' => return .text (← readText fuel)
    | some '[' =>
      if room < arrayDepth then tooDeep
      Scan.skip 1
      return .array (← readArray fuel (room - arrayDepth))
    | some '\x7b' =>
      if room < inlineDepth then tooDeep
      Scan.skip 1
      let pieces ← readInline fuel (room - inlineDepth) []
      match finish (2 * fuel) pieces with
      | .ok table => return .table table
      | .error p => Scan.fail (.problem p)
    | _ => readWord

/-- The rest of an array.  A value with a character in it that does not belong there is dropped
    when that character closes the array. -/
def readArray : Nat → Nat → Reader (List Value)
  | 0, _ => bad
  | fuel + 1, room => do
    skipGaps fuel
    let start ← get
    match readValue fuel room start with
    | .error (.unexpected rest) =>
      set rest
      take ']'
      return []
    | .error f => Scan.fail f
    | .ok (v, rest) =>
      set rest
      skipGaps fuel
      if ← Scan.accept "," then return v :: (← readArray fuel room)
      else
        take ']'
        return [v]

/-- The rest of a table between braces, after what was read before. -/
def readInline : Nat → Nat → Pieces → Reader Pieces
  | 0, _, _ => bad
  | fuel + 1, room, pieces => do
    skipGaps fuel
    if ← Scan.accept "\x7d" then return pieces
    if ← Scan.sees "," then unexpected
    let path ← readKey fuel
    take '='
    skipSpaces
    if ← Scan.sees "=" then unexpected
    let v ← readValue fuel room
    match assign true (2 * fuel) path v pieces with
    | .error p => Scan.fail (.problem p)
    | .ok pieces =>
      skipGaps fuel
      if ← Scan.accept "," then readInline fuel room pieces
      else
        take '\x7d'
        return pieces

end

/-! ### Statements -/

/-- The header of a table, from its bracket on: what it opens, and the reader of what has to
    follow its key. -/
def readHeader (fuel : Nat) : Reader (Statement × Reader Unit) := do
  Scan.skip 1
  if ← Scan.accept "[" then
    let path ← readKey fuel
    return (.element path, do take ']'; take ']'; endLine)
  else
    let path ← readKey fuel
    return (.table path, do take ']'; endLine)

/-- A key with its value and the end of its line. -/
def readAssignment (fuel : Nat) : Reader Statement := do
  let path ← readKey fuel
  take '='
  skipSpaces
  let v ← readValue fuel valueRoom
  endLine
  return .assign path v

/-- Passes over blank lines and comments in front of a statement; says whether the statement may
    be a key with a value, which no carriage return may stand in front of. -/
def skipLines : Nat → Reader Bool
  | 0 => bad
  | fuel + 1 => do
    let blanks ← Scan.takeWhile fun c => isSpace c || c = '\r'
    match ← Scan.peek? with
    | some '\n' =>
      Scan.skip 1
      skipLines fuel
    | some '#' =>
      endLine
      skipLines fuel
    | _ => return !blanks.contains '\r'

/-- The statements of a text; the last one says where the text goes wrong. -/
def readStatements (fuel : Nat) (cs : List Char) : List Statement :=
  match fuel with
  | 0 => [.broken .malformed]
  | n + 1 =>
    match skipLines (cs.length + 1) cs with
    | .error f => [.broken f.toProblem]
    | .ok (_, []) => []
    | .ok (_, '[' :: rest) =>
      match readHeader (cs.length + 1) ('[' :: rest) with
      | .error f => [.broken f.toProblem]
      | .ok ((header, finishLine), rest) =>
        match finishLine rest with
        | .error f => [header, .broken f.toProblem]
        | .ok ((), rest) => header :: readStatements n rest
    | .ok (false, _) => [.broken .malformed]
    | .ok (true, rest) =>
      match readAssignment (cs.length + 1) rest with
      | .error f => [.broken f.toProblem]
      | .ok (s, rest) => s :: readStatements n rest

end MediaGraph.Toml
