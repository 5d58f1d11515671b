import MediaGraph.Text.Blank
import MediaGraph.Text.Quoted

namespace MediaGraph

/-!
# JSON documents

Machine-readable output is a JSON document in ASCII: on one line, or with every item on a line of
its own.

* `Json.compact`, `Json.pretty` — the two layouts.
-/

/-- A JSON value; the fields of an object keep their order. -/
inductive Json where
  | number (n : Nat)
  | bool (b : Bool)
  | text (s : String)
  | list (items : List Json)
  | object (fields : List (String × Json))
  deriving Repr

namespace Json

/-! ### Texts -/

/-- A unit of sixteen bits, written with four hexadecimal digits. -/
def escapeUnit (n : Nat) : List Char := ['\\', 'u'] ++ Text.hexDigits 4 n

/-- A character as it stands in a text; characters beyond sixteen bits take two units. -/
def escapeChar (c : Char) : List Char :=
  if c = '"' || c = '\\' then ['\\', c]
  else if c = '\n' then ['\\', 'n']
  else if c = '\r' then ['\\', 'r']
  else if c = '\t' then ['\\', 't']
  else if c = '\x08' then ['\\', 'b']
  else if c = '\x0c' then ['\\', 'f']
  else if ' ' ≤ c && c ≤ '~' then [c]
  else if c.toNat < 0x10000 then escapeUnit c.toNat
  else
    let rest := c.toNat - 0x10000
    escapeUnit (0xD800 + rest / 0x400) ++ escapeUnit (0xDC00 + rest % 0x400)

/-- A text in quotes. -/
def encodeText (s : String) : String :=
  String.ofList ('"' :: s.toList.flatMap escapeChar ++ ['"'])

/-- The text of a truth value. -/
def encodeBool (b : Bool) : String := if b then "true" else "false"

/-! ### Layouts -/

mutual

/-- A value on one line. -/
def compact : Json → String
  | .number n => toString n
  | .bool b => encodeBool b
  | .text s => encodeText s
  | .list items => "[" ++ Text.joinWith ", " (compactItems items) ++ "]"
  | .object fields => "\x7b" ++ Text.joinWith ", " (compactFields fields) ++ "\x7d"

/-- Items on one line. -/
def compactItems : List Json → List String
  | [] => []
  | j :: js => compact j :: compactItems js

/-- Fields on one line. -/
def compactFields : List (String × Json) → List String
  | [] => []
  | (k, v) :: rest => (encodeText k ++ ": " ++ compact v) :: compactFields rest

end

/-- The start of a line, two blanks for every level. -/
def margin (level : Nat) : String := String.ofList ('\n' :: List.replicate (2 * level) ' ')

/-- Parts between brackets, every part on a line of its own. -/
def enclose (level : Nat) (opening closing : String) (parts : List String) : String :=
  if parts.isEmpty then opening ++ closing
  else
    opening ++ margin (level + 1) ++ Text.joinWith ("," ++ margin (level + 1)) parts ++
      margin level ++ closing

mutual

/-- A value with its parts on lines of their own, at some level. -/
def prettyAt (level : Nat) : Json → String
  | .number n => toString n
  | .bool b => encodeBool b
  | .text s => encodeText s
  | .list items => enclose level "[" "]" (prettyItems (level + 1) items)
  | .object fields => enclose level "\x7b" "\x7d" (prettyFields (level + 1) fields)

/-- Items with their parts on lines of their own. -/
def prettyItems (level : Nat) : List Json → List String
  | [] => []
  | j :: js => prettyAt level j :: prettyItems level js

/-- Fields with their parts on lines of their own. -/
def prettyFields (level : Nat) : List (String × Json) → List String
  | [] => []
  | (k, v) :: rest => (encodeText k ++ ": " ++ prettyAt level v) :: prettyFields level rest

end

/-- A value with its parts on lines of their own. -/
def pretty (j : Json) : String := prettyAt 0 j

end Json

end MediaGraph
