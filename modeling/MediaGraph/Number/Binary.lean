namespace MediaGraph.Number

/-!
# Binary fractions of fifty-three digits

A positive number is rounded to the nearest number that has at most fifty-three binary digits; of
two that are equally near, the one with an even last digit is taken.

* `Binary.ofRatio?` — the nearest such number of a quotient, unless it is too large.
-/

/-- A quotient rounded to the nearest whole number, a half to the even one. -/
def roundHalfEven (num den : Nat) : Nat :=
  let q := num / den
  let twice := 2 * (num % den)
  if twice < den then q
  else if twice = den then q + q % 2
  else q + 1

/-- The number `significand · 2 ^ exponent`. -/
structure Binary where
  significand : Nat
  exponent : Int
  deriving Repr, DecidableEq

namespace Binary

/-- How many binary digits are kept. -/
def digits : Nat := 53

/-- The least exponent. -/
def leastExponent : Int := -1074

/-- The greatest exponent. -/
def greatestExponent : Int := 971

/-- The quotient `num / den / 2 ^ exponent`, as a numerator and a denominator. -/
def scaled (num den : Nat) (exponent : Int) : Nat × Nat :=
  if exponent < 0 then (num * Nat.pow 2 exponent.natAbs, den)
  else (num, den * Nat.pow 2 exponent.toNat)

/-- The exponent at which the whole part of a quotient has exactly fifty-three digits; numbers
    below the range are given fewer. -/
def exponentOf (num den : Nat) : Int :=
  let estimate : Int := (Nat.log2 num : Int) - (Nat.log2 den : Int) - (digits - 1 : Nat)
  let (n, d) := scaled num den estimate
  max leastExponent (if n / d < Nat.pow 2 (digits - 1) then estimate - 1 else estimate)

/-- The nearest number to a quotient of positive numbers, unless it is too large. -/
def ofRatio? (num den : Nat) : Option Binary :=
  let exponent := exponentOf num den
  let (n, d) := scaled num den exponent
  let m := roundHalfEven n d
  let rounded : Binary :=
    if m < Nat.pow 2 digits then ⟨m, exponent⟩ else ⟨Nat.pow 2 (digits - 1), exponent + 1⟩
  if rounded.exponent ≤ greatestExponent then some rounded else none

/-- The value as a numerator and a denominator. -/
def toRatio (b : Binary) : Nat × Nat :=
  if b.exponent < 0 then (b.significand, Nat.pow 2 b.exponent.natAbs)
  else (b.significand * Nat.pow 2 b.exponent.toNat, 1)

end Binary

/-- The nearest whole number that a binary fraction can hold, unless the number is too large. -/
def roundNat? (n : Nat) : Option Nat :=
  if n = 0 then some 0 else (Binary.ofRatio? n 1).map fun b => b.toRatio.1 / b.toRatio.2

end MediaGraph.Number
