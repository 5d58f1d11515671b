import MediaGraph.Record

namespace MediaGraph.Logging

/-!
# Lines of a log

A record is shown with the name of its level, in a colour that tells how serious it is.

* `render` — the text of a record.
-/

/-- The character that starts a control sequence. -/
def escape : String := "\x1b"

/-- The control sequence that sets a colour, and the one that ends any. -/
def colourCode (n : Nat) : String := s!"{escape}[{n}m"

/-- The control sequence that ends a colour. -/
def colourEnd : String := colourCode 39

/-- The colour of a level: red, yellow, green, grey, or blue below all named thresholds. -/
def colourOf (level : Int) : Nat :=
  if level ≥ Level.error.number then 31
  else if level ≥ Level.warning.number then 33
  else if level ≥ Level.info.number then 32
  else if level ≥ Level.debug.number then 90
  else 34

/-- Characters with a sequence around every line end: the colour is closed before it and opened
    again after it. -/
def breakLines (opening closing : List Char) : List Char → List Char
  | [] => []
  | '\r' :: '\n' :: cs => closing ++ ['\r', '\n'] ++ opening ++ breakLines opening closing cs
  | '\n' :: cs => closing ++ ['\n'] ++ opening ++ breakLines opening closing cs
  | c :: cs => c :: breakLines opening closing cs

/-- The control sequence that takes back all styles. -/
def resetCode : String := colourCode 0

/-- What stands in front of the next reset of a line, and what follows it. -/
def cutReset? (reset : List Char) : List Char → Option (List Char × List Char)
  | [] => none
  | '\n' :: _ => none
  | c :: cs =>
    if reset.isPrefixOf (c :: cs) then some ([], (c :: cs).drop reset.length)
    else (cutReset? reset cs).map fun (before, after) => (c :: before, after)

/-- Characters with the colour closed in front of every stretch of a line between two resets, and
    opened again behind it; `fuel` bounds the number of characters. -/
def wrapResets (opening closing reset : List Char) : Nat → List Char → List Char
  | 0, cs => cs
  | _ + 1, [] => []
  | fuel + 1, c :: cs =>
    if reset.isPrefixOf (c :: cs) then
      match cutReset? reset ((c :: cs).drop reset.length) with
      | some (between, after) =>
        closing ++ reset ++ between ++ reset ++ opening ++
          wrapResets opening closing reset fuel after
      | none => c :: wrapResets opening closing reset fuel cs
    else c :: wrapResets opening closing reset fuel cs

/-- A text in a colour; where the text ends a colour or stands between resets, this one goes on
    behind it. -/
def paint (colour : Nat) (text : String) : String :=
  let opening := colourCode colour
  let inner := (text.replace colourEnd (colourEnd ++ opening)).toList
  let wrapped := wrapResets opening.toList colourEnd.toList resetCode.toList inner.length inner
  opening ++ String.ofList (breakLines opening.toList colourEnd.toList wrapped) ++ colourEnd

/-- The name of a level number. -/
def levelName (level : Int) : String :=
  if level = 0 then "NOTSET"
  else
    match Level.all.find? fun l => (l.number : Int) = level with
    | some l => l.name
    | none => s!"Level {level}"

/-- Where a record comes from. -/
structure Origin where
  name : String
  line : Int
  deriving Repr, DecidableEq

/-- The text of a record; with its origin, if that is to be shown. -/
def render (level : Int) (origin : Option Origin) (message : String) : String :=
  let place :=
    match origin with
    | some o => s!"[{o.name}:{o.line}] "
    | none => ""
  paint (colourOf level) (s!"[{levelName level}] " ++ place ++ message)

/-- The line of a record. -/
def line (r : Record) : String := render r.level.number none r.text ++ "\n"

end MediaGraph.Logging
