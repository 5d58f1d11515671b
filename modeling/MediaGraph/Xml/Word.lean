import MediaGraph.Xml.Token

namespace MediaGraph.Xml

/-!
# The words of declarations

What stands between the brackets of a declaration is a sequence of words: names, texts between
quotes and signs.  Which character may follow a word depends on its kind.

* `readWords` — the words up to the end of a declaration.
-/

open Text

/-- How often a part of a content model may occur, where that is not just once. -/
inductive Repetition where
  | atMostOnce
  | anyTimes
  | atLeastOnce
  deriving Repr, DecidableEq

/-- The repetition that a sign stands for. -/
def Repetition.ofChar? : Char → Option Repetition
  | '?' => some .atMostOnce
  | '*' => some .anyTimes
  | '+' => some .atLeastOnce
  | _ => none

/-- A word of a declaration. -/
inductive Word where
  /-- A name with at most one part in front of a colon. -/
  | name (n : QName)
  /-- A name with a sign of repetition right behind it. -/
  | repeatedName (r : Repetition)
  /-- Characters of names that make no name. -/
  | token
  | literal (cs : List Char)
  /-- A reserved name, written behind a hash sign. -/
  | reserved (s : String)
  | percent
  | comma
  | bar
  | opening
  | closing (r : Option Repetition)
  deriving Repr, DecidableEq

/-- Characters of names together with the colon. -/
def isWordChar (c : Char) : Bool := isNameChar c || c = ':'

/-- The word that name characters make. -/
def Word.ofChars (cs : List Char) : Word :=
  if !(cs.head?.any isNameStart) then .token
  else
    match cs.dropWhile (· ≠ ':') with
    | [] => .name ⟨none, String.ofList cs⟩
    | _ :: rest =>
      if rest.isEmpty || rest.contains ':' then .token
      else .name ⟨some (String.ofList (cs.takeWhile (· ≠ ':'))), String.ofList rest⟩

/-- Fails unless a blank or one of some characters follows. -/
def needFollower (followers : List Char) : Reader Unit := do
  match ← Scan.peek? with
  | some c => if !(isSpace c || followers.contains c) then bad
  | none => bad

/-- A word of name characters, with the sign of repetition behind it. -/
def readNameWord : Reader Word := do
  let word := Word.ofChars (← Scan.takeWhile isWordChar)
  match (← Scan.peek?).bind Repetition.ofChar? with
  | some r =>
    Scan.skip 1
    if word = .token then bad else return .repeatedName r
  | none =>
    needFollower ['>', ')', ',', '|', '[', '%']
    return word

/-- One word. -/
def readWord : Reader Word := do
  match ← Scan.peek? with
  | some '"' | some '\'' =>
    let cs ← readLiteral
    needFollower ['>', '%', '[']
    return .literal cs
  | some ',' => Scan.skip 1; return .comma
  | some '|' => Scan.skip 1; return .bar
  | some '(' => Scan.skip 1; return .opening
  | some ')' =>
    Scan.skip 1
    match (← Scan.peek?).bind Repetition.ofChar? with
    | some r => Scan.skip 1; return .closing (some r)
    | none =>
      needFollower ['>', ',', '|', ')']
      return .closing none
  | some '%' =>
    Scan.skip 1
    needFollower ['%']
    return .percent
  | some '#' =>
    Scan.skip 1
    let name ← readPlainName
    needFollower [')', '>', '%', '|']
    return .reserved name
  | some c => if isWordChar c then readNameWord else bad
  | none => bad

/-- The words up to the bracket that ends a declaration or opens a list of declarations; the
    bracket is left. -/
def readWords : Nat → Reader (List Word)
  | 0 => bad
  | fuel + 1 => do
    let _ ← skipSpaces
    if (← Scan.sees ">") || (← Scan.sees "[") then return []
    else
      let word ← readWord
      return word :: (← readWords fuel)

end MediaGraph.Xml
