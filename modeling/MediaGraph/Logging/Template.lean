import MediaGraph.Failure.Basic
import MediaGraph.Number.Shortest

namespace MediaGraph.Logging

/-!
# Message templates

A message is a template with arguments.  A conversion starts with a percent sign and says how the
next argument is written: flags, a width, a precision and the kind of conversion.  Where the only
argument is a table, a conversion may name the entry that it writes.

* `fill` — the message of a template; without arguments a template is the message itself.
-/

/-- An argument of a message. -/
inductive Argument where
  | text (s : String)
  | number (n : Int)
  | flag (b : Bool)
  | nothing
  | list (items : List Argument)
  | table (entries : List (String × Argument))
  deriving Repr, Inhabited

namespace Argument

mutual

/-- An argument in the form in which it is shown inside of other values. -/
def shown : Argument → String
  | .text s => Text.quoted s
  | .number n => toString n
  | .flag b => if b then "True" else "False"
  | .nothing => "None"
  | .list items => "[" ++ Text.joinWith ", " (shownAll items) ++ "]"
  | .table entries => "\x7b" ++ Text.joinWith ", " (shownEntries entries) ++ "\x7d"

/-- The items of a list, each as it is shown inside of it. -/
def shownAll : List Argument → List String
  | [] => []
  | a :: rest => a.shown :: shownAll rest

/-- The entries of a table, each as it is shown inside of it. -/
def shownEntries : List (String × Argument) → List String
  | [] => []
  | (k, a) :: rest => (Text.quoted k ++ ": " ++ a.shown) :: shownEntries rest

end

/-- An argument as a text of its own. -/
def display : Argument → String
  | .text s => s
  | other => other.shown

/-- The number that an argument is. -/
def number? : Argument → Option Int
  | .number n => some n
  | .flag b => some (if b then 1 else 0)
  | _ => none

end Argument

/-- The arguments that are left for conversions. -/
inductive Supply where
  /-- Each conversion takes the next argument, and all have to be taken. -/
  | inOrder (args : List Argument)
  /-- A conversion takes the entry that it names; `current` is what was named last, at first the
      whole table. -/
  | byName (entries : List (String × Argument)) (current : Option Argument)
  deriving Repr

namespace Supply

/-- The supply of some arguments. -/
def ofArguments : List Argument → Supply
  | [.table (e :: rest)] => .byName (e :: rest) (some (.table (e :: rest)))
  | args => .inOrder args

/-- The next argument, and what is left. -/
def take : Supply → Except Failure (Argument × Supply)
  | .inOrder (a :: args) => .ok (a, .inOrder args)
  | .inOrder [] => .error .wrongType
  | .byName entries (some a) => .ok (a, .byName entries none)
  | .byName _ none => .error .wrongType

/-- The supply once an entry is named. -/
def select (name : String) : Supply → Except Failure Supply
  | .inOrder _ => .error .wrongType
  | .byName entries _ =>
    match entries.lookup name with
    | some a => .ok (.byName entries (some a))
    | none => .error (.missingKey name)

/-- Whether no argument has to be taken any more. -/
def isSpent : Supply → Bool
  | .inOrder args => args.isEmpty
  | .byName .. => true

end Supply

/-- How a conversion fits its text into a line. -/
structure Layout where
  /-- Whether the text stands at the left. -/
  left : Bool
  /-- Whether zeros fill the space in front of digits. -/
  zeros : Bool
  /-- What stands in front of a number that is not negative. -/
  sign : String
  /-- Whether the base of a number is shown. -/
  showBase : Bool
  width : Nat
  precision : Option Nat
  deriving Repr, DecidableEq

/-- A layout with the flags of a conversion.  A negative width asks for the left, a negative
    precision for none of the text. -/
def Layout.ofFlags (flags : List Char) (width : Int) (precision : Option Int) : Layout where
  left := flags.contains '-' || width < 0
  zeros := flags.contains '0'
  sign := if flags.contains '+' then "+" else if flags.contains ' ' then " " else ""
  showBase := flags.contains '#'
  width := width.natAbs
  precision := precision.map Int.toNat

/-- Repeats a character. -/
def run (count : Nat) (c : Char) : String := String.ofList (List.replicate count c)

/-- A text fitted into the width. -/
def Layout.fit (l : Layout) (s : String) : String :=
  let room := run (l.width - s.length) ' '
  if l.left then s ++ room else room ++ s

/-- A text cut to the precision and fitted into the width. -/
def Layout.fitText (l : Layout) (s : String) : String :=
  l.fit (match l.precision with
    | some n => String.ofList (s.toList.take n)
    | none => s)

/-- A number, given by what stands in front of its digits, fitted into the width. -/
def Layout.fitDigits (l : Layout) (front digits : String) : String :=
  let digits := run (l.precision.getD 0 - digits.length) '0' ++ digits
  let padded :=
    if l.zeros && !l.left then
      run (l.width - front.length - digits.length) '0' ++ digits
    else digits
  l.fit (front ++ padded)

/-- The digits of a number in a base. -/
def digitsOf (base : Nat) (upper : Bool) (n : Nat) : String :=
  let digits := String.ofList (Nat.toDigits base n)
  if upper then digits.map Char.toUpper else digits

/-- The greatest precision of a number in a base. -/
def digitPrecisionLimit : Nat := 2147483644

/-- A number in a base, fitted into the width; `mark` stands for the base. -/
def Layout.fitNumber (l : Layout) (base : Nat) (upper : Bool) (mark : String) (n : Int) :
    Except Failure String :=
  let front := (if n < 0 then "-" else l.sign) ++ (if l.showBase then mark else "")
  if l.precision.any (· > digitPrecisionLimit) then .error .outOfRange
  else .ok (l.fitDigits front (digitsOf base upper n.natAbs))

/-- A text in ASCII: other characters are written by their numbers. -/
def asciiOnly (s : String) : String :=
  String.ofList (s.toList.flatMap fun c =>
    if c.toNat < 0x80 then [c]
    else if c.toNat < 0x100 then ['\\', 'x'] ++ Text.hexDigits 2 c.toNat
    else if c.toNat < 0x10000 then ['\\', 'u'] ++ Text.hexDigits 4 c.toNat
    else ['\\', 'U'] ++ Text.hexDigits 8 c.toNat)

/-! ### Numbers with a point -/

/-- The digits of a whole number, rounded to some significant places, and its exponent. -/
def significant (count n : Nat) : List Char × Nat :=
  if n = 0 then (List.replicate count '0', 0)
  else
    let d := Number.roundTo count n 1
    (d.digits, (d.point - 1).toNat)

/-- A point and the places behind it; where there are none, the point stands on demand only. -/
def withPlaces (keepPoint : Bool) (places : List Char) : List Char :=
  if places.isEmpty then (if keepPoint then ['.'] else []) else '.' :: places

/-- Digits with a point behind the first of them, and an exponent. -/
def exponentForm (keepPoint : Bool) (digits : List Char) (exponent : Nat) : List Char :=
  let shown := Nat.toDigits 10 exponent
  digits.take 1 ++ withPlaces keepPoint (digits.drop 1) ++ ['e', '+'] ++
    List.replicate (2 - shown.length) '0' ++ shown

/-- Digits without the zeros at their end. -/
def dropZeros (digits : List Char) : List Char := (digits.reverse.dropWhile (· = '0')).reverse

/-- No number that is written with a point has more digits in front of it. -/
def mostDigits : Nat := 309

/-- A whole number with a point, in one of three forms: with some places, with an exponent, or in
    the shorter of the two. -/
def pointForm (form : Char) (precision : Nat) (keepPoint : Bool) (n : Nat) : List Char :=
  match form with
  | 'f' => Nat.toDigits 10 n ++ withPlaces keepPoint (List.replicate precision '0')
  | 'e' =>
    let (digits, exponent) := significant (precision + 1) n
    exponentForm keepPoint digits exponent
  | _ =>
    let count := max precision 1
    let (digits, exponent) := significant (if keepPoint then count else min count mostDigits) n
    if exponent < count then
      let places := digits.drop (exponent + 1)
      digits.take (exponent + 1) ++
        withPlaces keepPoint (if keepPoint then places else dropZeros places)
    else
      exponentForm keepPoint
        (digits.take 1 ++ if keepPoint then digits.drop 1 else dropZeros (digits.drop 1)) exponent

/-- A number with a point, fitted into the width; it is rounded to a binary fraction first. -/
def Layout.fitPoint (l : Layout) (kind : Char) (n : Int) : Except Failure String :=
  match Number.roundNat? n.natAbs with
  | none => .error .outOfRange
  | some rounded =>
    let chars := pointForm kind.toLower (l.precision.getD 6) l.showBase rounded
    let shown := if kind.isUpper then chars.map Char.toUpper else chars
    .ok ({ l with precision := none }.fitDigits (if n < 0 then "-" else l.sign)
      (String.ofList shown))

/-! ### Conversions -/

/-- The fault of a conversion of an unknown kind; `index` is its place in the template. -/
def unknownKind (kind : Char) (index : Nat) : Failure :=
  let shown := if '\x1f' ≤ kind && kind ≤ '~' then kind else '?'
  let code := digitsOf 16 false kind.toNat
  .invalidValue (.custom s!"unsupported format character '{shown}' (0x{code}) at index {index}")

/-- The widest text for which there is room. -/
def roomLimit : Nat := 1099511627776

/-- An argument written by a conversion. -/
def convert (l : Layout) (kind : Char) (index : Nat) (a : Argument) : Except Failure String :=
  let number (write : Int → Except Failure String) : Except Failure String :=
    match a.number? with
    | some n => write n
    | none => .error .wrongType
  match kind with
  | 's' => .ok (l.fitText a.display)
  | 'r' => .ok (l.fitText a.shown)
  | 'a' => .ok (l.fitText (asciiOnly a.shown))
  | 'd' | 'i' | 'u' => number fun n => { l with showBase := false }.fitNumber 10 false "" n
  | 'x' => number fun n => l.fitNumber 16 false "0x" n
  | 'X' => number fun n => l.fitNumber 16 true "0X" n
  | 'o' => number fun n => l.fitNumber 8 false "0o" n
  | 'e' | 'E' | 'f' | 'F' | 'g' | 'G' => number fun n => l.fitPoint kind n
  | 'c' =>
    match a with
    | .text s => if s.length = 1 then .ok (l.fit s) else .error .wrongType
    | other =>
      match other.number? with
      | some n =>
        if 0 ≤ n && n.toNat.isValidChar then .ok (l.fit (Char.ofNat n.toNat).toString)
        else .error .outOfRange
      | none => .error .wrongType
  | other => .error (unknownKind other index)

/-- The digits at the front of a template, as a number, and what follows. -/
def takeNumber (cs : List Char) : Nat × List Char :=
  ((cs.takeWhile Char.isDigit).foldl (fun n c => 10 * n + (c.toNat - '0'.toNat)) 0,
    cs.dropWhile Char.isDigit)

/-- A size at the front of a template: a number of at most `limit`, or a star for the next
    argument.  With it comes what follows and the arguments that are left. -/
def takeSize (what : String) (limit : Nat) (cs : List Char) (args : Supply) :
    Except Failure (Int × List Char × Supply) :=
  match cs with
  | '*' :: cs => do
    let (a, args) ← args.take
    match a.number? with
    | some n => if n.natAbs ≤ limit then .ok (n, cs, args) else .error .outOfRange
    | none => .error .wrongType
  | cs =>
    let (n, cs) := takeNumber cs
    if n ≤ limit then .ok (n, cs, args)
    else .error (.invalidValue (.custom s!"{what} too big"))

/-- The widest width. -/
def widthLimit : Nat := 9223372036854775807

/-- The greatest precision. -/
def precisionLimit : Nat := 2147483647

/-- Characters without one that names the size of a number in memory. -/
def dropLength : List Char → List Char
  | [] => []
  | c :: cs => if c = 'h' || c = 'l' || c = 'L' then cs else c :: cs

/-- The layout behind a percent sign, what follows, and the arguments that are left. -/
def takeLayout (cs : List Char) (args : Supply) :
    Except Failure (Layout × List Char × Supply) := do
  let isFlag (c : Char) := "#0- +".toList.contains c
  let flags := cs.takeWhile isFlag
  let (width, cs, args) ← takeSize "width" widthLimit (cs.dropWhile isFlag) args
  match cs with
  | '.' :: cs =>
    let (precision, cs, args) ← takeSize "precision" precisionLimit cs args
    return (.ofFlags flags width (some precision), dropLength cs, args)
  | cs => return (.ofFlags flags width none, dropLength cs, args)

/-- The characters up to the parenthesis that closes `depth` open ones, and what follows. -/
def takeName (depth : Nat) : List Char → Option (List Char × List Char)
  | [] => none
  | c :: cs =>
    if c = ')' && depth = 1 then some ([], cs)
    else
      let depth := if c = ')' then depth - 1 else if c = '(' then depth + 1 else depth
      (takeName depth cs).map fun (name, rest) => (c :: name, rest)

/-- What follows the name of an entry, and the arguments once the entry is named. -/
def takeEntry (cs : List Char) (args : Supply) : Except Failure (List Char × Supply) :=
  match cs with
  | '(' :: cs =>
    match args, takeName 1 cs with
    | .inOrder _, _ => .error .wrongType
    | _, none => .error (.invalidValue (.custom "incomplete format key"))
    | args, some (name, rest) => (args.select (String.ofList name)).map fun args => (rest, args)
  | cs => .ok (cs, args)

/-- The message of the rest of a template, which has at most `fuel` characters; `size` is the
    length of the whole template. -/
def fillFrom (size : Nat) : Nat → List Char → Supply → Except Failure (List Char)
  | 0, _, args => if args.isSpent then .ok [] else .error .wrongType
  | _ + 1, [], args => if args.isSpent then .ok [] else .error .wrongType
  | fuel + 1, '%' :: '%' :: cs, args => do return '%' :: (← fillFrom size fuel cs args)
  | fuel + 1, '%' :: cs, args => do
    let (cs, args) ← takeEntry cs args
    let (l, cs, args) ← takeLayout cs args
    match cs with
    | [] => .error (.invalidValue (.custom "incomplete format"))
    | kind :: rest =>
      let (a, args) ← args.take
      let index := size - rest.length - 1
      if l.width > roomLimit then
        let _ ← convert { l with width := 0 } kind index a
        .error .outOfMemory
      let written ← convert l kind index a
      return written.toList ++ (← fillFrom size fuel rest args)
  | fuel + 1, c :: cs, args => do return c :: (← fillFrom size fuel cs args)

/-- The message of a template. -/
def fill (template : String) (args : List Argument) : Except Failure String :=
  if args.isEmpty then .ok template
  else
    let cs := template.toList
    (fillFrom cs.length (cs.length + 1) cs (.ofArguments args)).map String.ofList

end MediaGraph.Logging
