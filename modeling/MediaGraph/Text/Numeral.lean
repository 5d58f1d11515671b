import MediaGraph.Text.Blank
import MediaGraph.Text.Digit

namespace MediaGraph.Text

/-!
# Numerals in any base

A numeral is a run of digits with single underscores between them.  Blanks may stand around it, a
sign in front of it, and a mark of its base between the two.

* `readNumeral?` — the number that a numeral writes.
-/

/-- Blanks around a numeral: the information separators are none. -/
def isNumeralBlank (c : Char) : Bool := isBlank c && !(28 ≤ c.toNat && c.toNat ≤ 31)

/-- The characters without the blanks that may stand around a numeral. -/
def trimNumeral (cs : List Char) : List Char :=
  ((cs.dropWhile isNumeralBlank).reverse.dropWhile isNumeralBlank).reverse

/-- The value of a digit: a decimal digit of any script, or a letter that goes on after nine. -/
def digitOrLetter? (c : Char) : Option Nat :=
  if 'a' ≤ c ∧ c ≤ 'z' then some (c.toNat - 'a'.toNat + 10)
  else if 'A' ≤ c ∧ c ≤ 'Z' then some (c.toNat - 'A'.toNat + 10)
  else digitValue? c

/-- Digits of a base after the number `acc`; an underscore has to stand between two of them. -/
def readDigits? (base acc : Nat) : List Char → Option Nat
  | [] => some acc
  | '_' :: c :: cs => step c cs
  | c :: cs => step c cs
where
  /-- Takes one digit. -/
  step (c : Char) (cs : List Char) : Option Nat :=
    match digitOrLetter? c with
    | none => none
    | some d => if d < base then readDigits? base (base * acc + d) cs else none

/-- The letter that marks a base behind a zero. -/
def baseMark? : Nat → Option Char
  | 2 => some 'b'
  | 8 => some 'o'
  | 16 => some 'x'
  | _ => none

/-- What follows the mark of a base, and the underscore that may stand behind it. -/
def afterMark (base : Nat) (cs : List Char) : List Char :=
  match cs with
  | '0' :: c :: rest =>
    if baseMark? base = some c.toLower then
      match rest with
      | '_' :: rest => rest
      | _ => rest
    else cs
  | _ => cs

/-- The number that a numeral without a sign writes. -/
def readUnsigned? (base : Nat) (cs : List Char) : Option Nat :=
  match afterMark base cs with
  | [] => none
  | '_' :: _ => none
  | cs => readDigits? base 0 cs

/-- The number that a numeral writes. -/
def readNumeral? (base : Nat) (cs : List Char) : Option Int :=
  match trimNumeral cs with
  | '-' :: cs => (readUnsigned? base cs).map fun n => -(n : Int)
  | '+' :: cs => (readUnsigned? base cs).map Int.ofNat
  | cs => (readUnsigned? base cs).map Int.ofNat

end MediaGraph.Text
