import MediaGraph.Failure.Basic
import MediaGraph.Record
import MediaGraph.Text.Digit

namespace MediaGraph.Logging

/-!
# The level of a setting

The level at which records are shown is set by a name or by a number; the number may be written in
the decimal digits of any script.

* `levelOfSetting` — the level that a setting names.
-/

/-- The variable that holds the level. -/
def levelVariable : String := "MEDIACONF_LOG_LEVEL"

/-- The greatest number of digits that a number may have. -/
def digitLimit : Nat := 4300

/-- A text in quoted form, of which at most two hundred characters are shown. -/
def shortened (text : String) : String := String.ofList ((Text.quoted text).toList.take 200)

/-- The number that digits write.  A number with too many digits is refused first, then one with
    signs that count as digits without having a decimal value. -/
def numberOf (digits : String) : Except Failure Nat :=
  let count := (digits.toList.takeWhile fun c => (Text.digitValue? c).isSome).length
  if count > digitLimit then .error (.invalidValue (.tooManyDigits count))
  else
    match Text.readDecimal? digits.toList with
    | none => .error (.invalidValue (.notDecimal (shortened digits)))
    | some n => .ok n

/-- The level that a setting names: a number, the number of a level name, or none. -/
def levelOfSetting (setting : String) : Except Failure (Option Nat) :=
  let value := Text.upper (Text.trim setting)
  if !value.isEmpty && value.toList.all Text.isDigit then (numberOf value).map some
  else .ok ((Level.ofName? value).map Level.number)

end MediaGraph.Logging
