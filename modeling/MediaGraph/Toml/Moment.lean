import MediaGraph.Text.Blank
import MediaGraph.Text.Quoted

namespace MediaGraph.Toml

/-!
# Dates and times

A moment is a date, a time of day, or a date with a time and perhaps the distance from universal
time.

* `Moment.read?` — the moment that characters write, when there is one.
* `Moment.display` — its text in one fixed spelling.
* `Moment.shown` — its text inside another value.
-/

/-- A day of the calendar. -/
structure Date where
  year : Nat
  month : Nat
  day : Nat
  deriving Repr, DecidableEq

/-- A time of day. -/
structure TimeOfDay where
  hour : Nat
  minute : Nat
  second : Nat
  microsecond : Nat
  deriving Repr, DecidableEq

/-- A distance from universal time and its name. -/
structure Distance where
  minutes : Int
  name : String
  deriving Repr, DecidableEq

/-- A date, a time of day, or both. -/
inductive Moment where
  | day (d : Date)
  | time (t : TimeOfDay)
  | both (d : Date) (t : TimeOfDay) (distance : Option Distance)
  deriving Repr, DecidableEq

/-! ### Reading -/

/-- The number that two digits at the front write, and what follows. -/
def takePair? : List Char → Option (Nat × List Char)
  | a :: b :: rest =>
    if a.isDigit && b.isDigit then
      some (10 * (a.toNat - '0'.toNat) + (b.toNat - '0'.toNat), rest)
    else none
  | _ => none

/-- The number that two digits behind a mark write, and what follows. -/
def takePairAfter? (mark : Char) : List Char → Option (Nat × List Char)
  | c :: rest => if c = mark then takePair? rest else none
  | [] => none

/-- The number that decimal digits write. -/
def digitsValue (digits : List Char) : Nat :=
  digits.foldl (fun n c => 10 * n + (c.toNat - '0'.toNat)) 0

/-- How many days a month has. -/
def daysIn (year month : Nat) : Nat :=
  if month = 2 then
    if year % 4 = 0 && (year % 100 ≠ 0 || year % 400 = 0) then 29 else 28
  else if [4, 6, 9, 11].contains month then 30
  else 31

/-- Whether a day is in the calendar. -/
def Date.isValid (d : Date) : Bool :=
  0 < d.year && d.year ≤ 9999 && 0 < d.month && d.month ≤ 12 && 0 < d.day &&
    d.day ≤ daysIn d.year d.month

/-- The date at the front, and what follows. -/
def Date.take? (cs : List Char) : Option (Date × List Char) := do
  let year := cs.takeWhile Char.isDigit
  let (month, rest) ← takePairAfter? '-' (cs.dropWhile Char.isDigit)
  let (day, rest) ← takePairAfter? '-' rest
  let date : Date := ⟨digitsValue year, month, day⟩
  if year.isEmpty || !date.isValid then none else some (date, rest)

/-- The millionths of a second at the front, and what follows; smaller parts do not count. -/
def takeMicroseconds? (cs : List Char) : Option (Nat × List Char) :=
  match cs with
  | '.' :: rest =>
    let digits := rest.takeWhile Char.isDigit
    if digits.isEmpty then none
    else
      let six := digits.take 6 ++ List.replicate (6 - digits.length) '0'
      some (digitsValue six, rest.dropWhile Char.isDigit)
  | rest => some (0, rest)

/-- The time of day at the front, with or without seconds, and what follows. -/
def TimeOfDay.take? (cs : List Char) : Option (TimeOfDay × List Char) := do
  let (hour, rest) ← takePair? cs
  let (minute, rest) ← takePairAfter? ':' rest
  if hour > 23 || minute > 59 then none
  match takePairAfter? ':' rest with
  | none => some (⟨hour, minute, 0, 0⟩, rest)
  | some (second, rest) =>
    if second > 59 then none
    let (microsecond, rest) ← takeMicroseconds? rest
    some (⟨hour, minute, second, microsecond⟩, rest)

/-- A number with at least `width` digits. -/
def padded (width n : Nat) : String :=
  let digits := Nat.toDigits 10 n
  String.ofList (List.replicate (width - digits.length) '0' ++ digits)

/-- An hour and a minute with a colon between them. -/
def clock (hour minute : Nat) : String := s!"{padded 2 hour}:{padded 2 minute}"

/-- The distance from universal time that characters write, if they write one. -/
def Distance.read? : List Char → Option (Option Distance)
  | [] => some none
  | ['Z'] | ['z'] => some (some ⟨0, "UTC"⟩)
  | sign :: rest => do
    if !"+-|".toList.contains sign then none
    let (hour, rest) ← takePair? rest
    let (minute, rest) ← takePairAfter? ':' rest
    if hour > 23 || minute > 59 || !rest.isEmpty then none
    let minutes : Int := 60 * hour + minute
    some (some ⟨if sign = '-' then -minutes else minutes,
      String.singleton sign ++ clock hour minute⟩)

/-- The date that characters write. -/
def Date.read? (cs : List Char) : Option Date := do
  match ← Date.take? cs with
  | (date, []) => some date
  | _ => none

/-- The moment that characters write. -/
def Moment.read? (cs : List Char) : Option Moment :=
  match Date.take? cs with
  | some (date, []) => some (.day date)
  | some (date, separator :: rest) => do
    if !"Tt ".toList.contains separator then none
    let (t, rest) ← TimeOfDay.take? rest
    some (.both date t (← Distance.read? rest))
  | none => do
    match ← TimeOfDay.take? cs with
    | (t, []) => some (.time t)
    | _ => none

/-! ### Texts -/

/-- The text of a date. -/
def Date.display (d : Date) : String :=
  s!"{padded 4 d.year}-{padded 2 d.month}-{padded 2 d.day}"

/-- The text of a time of day; whole seconds need no point. -/
def TimeOfDay.display (t : TimeOfDay) : String :=
  let parts := if t.microsecond = 0 then "" else "." ++ padded 6 t.microsecond
  s!"{clock t.hour t.minute}:{padded 2 t.second}{parts}"

/-- The text of a distance. -/
def Distance.display (z : Distance) : String :=
  let n := z.minutes.natAbs
  (if z.minutes < 0 then "-" else "+") ++ clock (n / 60) (n % 60)

/-- The text of a moment. -/
def Moment.display : Moment → String
  | .day d => d.display
  | .time t => t.display
  | .both d t z => s!"{d.display} {t.display}" ++ (z.map Distance.display).getD ""

/-- The numbers of a date. -/
def Date.numbers (d : Date) : List Nat := [d.year, d.month, d.day]

/-- The numbers of a time of day; zeros at the end are left out behind the minute. -/
def TimeOfDay.numbers (t : TimeOfDay) : List Nat :=
  let parts :=
    if t.microsecond ≠ 0 then [t.second, t.microsecond]
    else if t.second ≠ 0 then [t.second]
    else []
  t.hour :: t.minute :: parts

/-- Numbers with commas between them. -/
def listed (ns : List Nat) : String := Text.joinWith ", " (ns.map toString)

/-- The text of a distance inside another value: whole days, and the seconds beyond them. -/
def Distance.shown (z : Distance) : String :=
  let seconds := 60 * z.minutes
  let span :=
    if seconds < 0 then s!"days=-1, seconds={seconds + 86400}"
    else if seconds = 0 then "0"
    else s!"seconds={seconds}"
  s!"datetime.timezone(datetime.timedelta({span}), {Text.quoted z.name})"

/-- The text of a moment inside another value. -/
def Moment.shown : Moment → String
  | .day d => s!"datetime.date({listed d.numbers})"
  | .time t => s!"datetime.time({listed t.numbers})"
  | .both d t z =>
    let zone := (z.map fun z => ", tzinfo=" ++ z.shown).getD ""
    s!"datetime.datetime({listed (d.numbers ++ t.numbers)}{zone})"

end MediaGraph.Toml
