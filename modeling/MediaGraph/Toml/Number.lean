import MediaGraph.Number.Shortest
import MediaGraph.Text.CaseMapping
import MediaGraph.Text.Numeral
import MediaGraph.Toml.Value

namespace MediaGraph.Toml

/-!
# Numbers

A number is a whole number in one of four bases or a fraction.  Underscores may stand between
digits, and a zero in front only where a mark of a base, a point or an exponent follows.

* `readNumber?` — the value that a word writes.
-/

open Text

/-- The digits of the base that a word without a sign is written in. -/
def baseOf : List Char → Nat
  | '0' :: 'b' :: _ => 2
  | '0' :: 'o' :: _ => 8
  | '0' :: 'x' :: _ => 16
  | _ => 10

/-- Whether a character is a digit of a base, small or capital. -/
def isDigitOf (base : Nat) (c : Char) : Bool :=
  c.toNat < 0x80 && (digitOrLetter? c).any (· < base)

/-- A word without the underscores that stand between two digits; `before` is the character in
    front. -/
def joinDigits (base : Nat) (before : Char) : List Char → List Char
  | [] => []
  | '_' :: c :: rest =>
    if isDigitOf base before && isDigitOf base c then c :: joinDigits base c rest
    else '_' :: c :: joinDigits base c rest
  | c :: rest => c :: joinDigits base c rest

/-- Whether a word without a sign starts as a number may. -/
def startsWell (signed : Bool) (cs : List Char) : Bool :=
  match cs with
  | '0' :: c :: _ => c = '.' || c = 'e' || (!signed && (c = 'o' || c = 'x' || c = 'b'))
  | '.' :: _ :: _ => !signed
  | _ => true

/-- Whether a point stands at the end of a number or in front of its exponent. -/
def endsInPoint (cs : List Char) : Bool :=
  cs.getLast? = some '.' ||
    (!"0x".toList.isPrefixOf cs && (cs.takeWhile (· ≠ 'e')).getLast? = some '.')

/-! ### Fractions -/

/-- The digits at the front, as values, and what follows. -/
def takeDigits (cs : List Char) : List Nat × List Char :=
  (cs.takeWhile (fun c => (digitValue? c).isSome) |>.filterMap digitValue?,
    cs.dropWhile fun c => (digitValue? c).isSome)

/-- The number that digits write. -/
def valueOf (digits : List Nat) : Nat := digits.foldl (fun n d => 10 * n + d) 0

/-- The exponent that ends a fraction. -/
def readExponent? : List Char → Option Int
  | [] => some 0
  | 'e' :: cs =>
    let (negative, cs) : Bool × List Char :=
      match cs with
      | '-' :: cs => (true, cs)
      | '+' :: cs => (false, cs)
      | cs => (false, cs)
    match takeDigits cs with
    | ([], _) | (_, _ :: _) => none
    | (digits, []) => some (if negative then -(valueOf digits : Int) else valueOf digits)
  | _ :: _ => none

/-- A fraction without a sign: its digits and the power of ten that they are multiplied with. -/
def readDecimal? (cs : List Char) : Option (List Nat × Int) := do
  let (whole, rest) := takeDigits cs
  let (places, rest) : List Nat × List Char :=
    match rest with
    | '.' :: rest => takeDigits rest
    | rest => ([], rest)
  if whole.isEmpty && places.isEmpty then none
  let exponent ← readExponent? rest
  some (whole ++ places, exponent - places.length)

/-- Decimal digits with their point, or with an exponent where the point is far away. -/
def showDecimal (d : Number.Decimal) : String :=
  let count : Int := d.digits.length
  let zeros (n : Int) := List.replicate n.toNat '0'
  let chars :=
    if d.point > 16 || d.point < -3 then
      let exponent := d.point - 1
      let places := d.digits.drop 1
      d.digits.take 1 ++ (if places.isEmpty then [] else '.' :: places) ++
        ['e', if exponent < 0 then '-' else '+'] ++
        zeros (2 - (Nat.toDigits 10 exponent.natAbs).length) ++ Nat.toDigits 10 exponent.natAbs
    else if d.point ≤ 0 then ['0', '.'] ++ zeros (-d.point) ++ d.digits
    else if count ≤ d.point then d.digits ++ zeros (d.point - count) ++ ['.', '0']
    else d.digits.take d.point.toNat ++ '.' :: d.digits.drop d.point.toNat
  String.ofList chars

/-- The text of the fraction of a power of ten; numbers beyond the range are infinite or zero. -/
def showFraction (digits : List Nat) (power : Int) : String :=
  let n := valueOf digits
  let magnitude := (digits.length : Int) + power
  if n = 0 || magnitude < -400 then "0.0"
  else if power > 400 then "inf"
  else
    let (num, den) := Number.shifted n 1 power
    match Number.Binary.ofRatio? num den with
    | none => "inf"
    | some b => if b.significand = 0 then "0.0" else showDecimal (Number.shortest b)

/-- The fraction that a word writes; its letters are small. -/
def readFraction? (sign cs : List Char) : Option Value :=
  let body := (cs.reverse.dropWhile isNumeralBlank).reverse
  let minus (s : String) := if sign = ['-'] then "-" ++ s else s
  if body = "inf".toList || body = "infinity".toList then some (.fraction (minus "inf") false)
  else if body = "nan".toList then some (.fraction "nan" false)
  else
    (readDecimal? body).map fun (digits, power) =>
      let shown := showFraction digits power
      .fraction (minus shown) (shown = "0.0")

/-! ### Words -/

/-- The most digits that a whole number in base ten may have. -/
def wholeLimit : Nat := 4300

/-- The number that a word writes. -/
def readNumber? (word : List Char) : Option Value :=
  let (sign, body) : List Char × List Char :=
    match word with
    | c :: rest => if c = '+' || c = '-' then ([c], rest) else ([], word)
    | [] => ([], [])
  if !startsWell (!sign.isEmpty) body then none
  else
    let base := baseOf body
    let clean := lowerChars (joinDigits base ' ' body)
    if clean.contains '_' || endsInPoint clean then none
    else
      let whole := if base = 10 && clean.length > wholeLimit then none
        else readNumeral? base (sign ++ clean)
      match whole with
      | some n => some (.integer n)
      | none => readFraction? sign clean

end MediaGraph.Toml
