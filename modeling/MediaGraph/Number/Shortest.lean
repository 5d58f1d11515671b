import MediaGraph.Number.Binary

namespace MediaGraph.Number

/-!
# Decimal digits

* `roundTo` — a quotient rounded to a number of significant decimal digits.
* `shortest` — the fewest decimal digits that are read as a binary fraction again, and of those
  the ones nearest to it.
-/

/-- The number `0.d₁d₂…dₙ · 10 ^ point`, without a sign. -/
structure Decimal where
  digits : List Char
  point : Int
  deriving Repr, DecidableEq

/-- The quotient `num / den · 10 ^ power`, as a numerator and a denominator. -/
def shifted (num den : Nat) (power : Int) : Nat × Nat :=
  if power < 0 then (num, den * Nat.pow 10 power.natAbs) else (num * Nat.pow 10 power.toNat, den)

/-- The place of the decimal point of a positive quotient: its digits start right behind it. -/
def pointOf (num den : Nat) : Int :=
  let estimate : Int := ((Nat.toDigits 10 num).length : Int) - (Nat.toDigits 10 den).length
  let (n, d) := shifted num den (-estimate)
  if n < d then estimate else estimate + 1

/-- A positive quotient rounded to a positive number of digits. -/
def roundTo (count : Nat) (num den : Nat) : Decimal :=
  let point := pointOf num den
  let (n, d) := shifted num den (count - point)
  let rounded := roundHalfEven n d
  if rounded < Nat.pow 10 count then ⟨Nat.toDigits 10 rounded, point⟩
  else ⟨Nat.toDigits 10 (rounded / 10), point + 1⟩

/-- Whether a quotient is rounded to a given binary fraction. -/
def readsAs (b : Binary) (num den : Nat) : Bool := Binary.ofRatio? num den = some b

/-- Of the two numbers with `count` digits around a binary fraction, the nearest that is read as
    the fraction again. -/
def candidate? (b : Binary) (count : Nat) : Option Decimal :=
  let (num, den) := b.toRatio
  let point := pointOf num den
  let (n, d) := shifted num den (count - point)
  let below := n / d
  let near := roundHalfEven n d
  let far := if near = below then below + 1 else below
  let back (k : Nat) : Bool :=
    k ≠ 0 && (let (num, den) := shifted k 1 (point - count); readsAs b num den)
  let decimal (k : Nat) : Decimal :=
    if k < Nat.pow 10 count then ⟨Nat.toDigits 10 k, point⟩
    else ⟨Nat.toDigits 10 (k / 10), point + 1⟩
  if back near then some (decimal near) else if back far then some (decimal far) else none

/-- The fewest digits that are read as a binary fraction again; seventeen are always enough. -/
def shortest (b : Binary) : Decimal :=
  match (List.range 17).findSome? fun k => candidate? b (k + 1) with
  | some d => d
  | none => roundTo 17 b.toRatio.1 b.toRatio.2

end MediaGraph.Number
