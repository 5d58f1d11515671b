import Mathlib.Data.List.Forall2
import Mathlib.Data.List.TakeWhile
import Mathlib.Data.Nat.Digits.Defs
import Mathlib.Tactic.Ring
import MediaGraph.Logging.Level

namespace MediaGraph

/-!
# What a setting of the level says

A setting says a number in decimal digits of any script, or the name of a level, or nothing.  It is
taken for a number when each of its characters counts as a digit.  Reading the number asks for more:
every character has to have a decimal value, and there is a limit to their number.  Where the two
tests disagree a setting is refused, although it says something or nothing like any other.

* `Text.Writes`, `Text.readDecimal?_eq_some_iff` — the number that decimal digits write.
* `Logging.Says` — what a setting says, apart from how it is read.
* `Logging.Refused` — settings that are taken for a number and cannot be read as one.
* `Logging.levelOfSetting_says_iff` — the level of a setting is what it says, unless it is refused.
* `Logging.levelOfSetting_superscript` — a setting that says nothing and is refused.
-/

/-! ### Numbers in decimal digits -/

namespace Text

/-- Whether some characters are the decimal digits of some values, one by one. -/
def Writes (cs : List Char) (digits : List Nat) : Prop :=
  List.Forall₂ (fun c d => digitValue? c = some d) cs digits

variable {c : Char} {cs : List Char} {n : Nat}

/-- Decimal digits are digits of some values. -/
theorem exists_writes_iff :
    (∃ digits, Writes cs digits) ↔ ∀ c ∈ cs, (digitValue? c).isSome = true := by
  induction cs with
  | nil => exact ⟨fun _ => nofun, fun _ => ⟨[], .nil⟩⟩
  | cons c cs ih =>
    rw [List.forall_mem_cons, ← ih, Option.isSome_iff_exists]
    constructor
    · rintro ⟨_, _ | ⟨hc, hcs⟩⟩
      exact ⟨⟨_, hc⟩, _, hcs⟩
    · rintro ⟨⟨d, hc⟩, digits, hcs⟩
      exact ⟨d :: digits, .cons hc hcs⟩

/-- The values of digits are determined by the digits. -/
theorem Writes.unique {digits digits' : List Nat} (h : Writes cs digits)
    (h' : Writes cs digits') : digits' = digits := by
  induction h generalizing digits' with
  | nil =>
    cases h'
    rfl
  | cons hc _ ih =>
    obtain _ | ⟨hc', hcs'⟩ := h'
    rw [hc, Option.some.injEq] at hc'
    rw [hc', ih hcs']

/-- Takes one digit behind a number. -/
def takeDigit (acc : Option Nat) (c : Char) : Option Nat := do
  return 10 * (← acc) + (← digitValue? c)

/-- Once a digit is missing there is no number. -/
theorem foldl_takeDigit_none (cs : List Char) : cs.foldl takeDigit none = none := by
  induction cs with
  | nil => rfl
  | cons c cs ih => exact ih

/-- Digits behind a number move it by as many places as there are digits, and add the number that
    they write. -/
theorem foldl_takeDigit_eq_some_iff {acc : Nat} :
    cs.foldl takeDigit (some acc) = some n ↔
      ∃ digits, Writes cs digits ∧
        n = acc * 10 ^ digits.length + Nat.ofDigits 10 digits.reverse := by
  induction cs generalizing acc with
  | nil =>
    rw [List.foldl_nil, Option.some.injEq]
    constructor
    · rintro rfl
      exact ⟨[], .nil, by simp⟩
    · rintro ⟨_, ⟨⟩, rfl⟩
      simp
  | cons c cs ih =>
    rw [List.foldl_cons]
    have hplaces : ∀ (d : Nat) (digits : List Nat),
        (10 * acc + d) * 10 ^ digits.length + Nat.ofDigits 10 digits.reverse
          = acc * 10 ^ (d :: digits).length + Nat.ofDigits 10 (d :: digits).reverse := by
      intro d digits
      rw [List.reverse_cons, Nat.ofDigits_append, Nat.ofDigits_singleton, List.length_reverse,
        List.length_cons]
      ring
    cases hc : digitValue? c with
    | none =>
      have hnone : takeDigit (some acc) c = none := by simp [takeDigit, hc]
      rw [hnone, foldl_takeDigit_none]
      simp only [reduceCtorEq, false_iff]
      rintro ⟨_, _ | ⟨hd, -⟩, -⟩
      rw [hc] at hd
      cases hd
    | some d =>
      have hsome : takeDigit (some acc) c = some (10 * acc + d) := by simp [takeDigit, hc]
      rw [hsome, ih]
      constructor
      · rintro ⟨digits, hcs, rfl⟩
        exact ⟨d :: digits, .cons hc hcs, hplaces d digits⟩
      · rintro ⟨_, _ | ⟨hd, hcs⟩, rfl⟩
        rw [hc, Option.some.injEq] at hd
        subst hd
        exact ⟨_, hcs, (hplaces _ _).symm⟩

/-- **The number that decimal digits write**: the last digit counts once, and every digit ten times
    as much as the one behind it. -/
theorem readDecimal?_eq_some_iff :
    readDecimal? cs = some n ↔
      cs ≠ [] ∧ ∃ digits, Writes cs digits ∧ n = Nat.ofDigits 10 digits.reverse := by
  cases cs with
  | nil => simp [readDecimal?]
  | cons c cs =>
    have hread : readDecimal? (c :: cs) = (c :: cs).foldl takeDigit (some 0) := rfl
    rw [hread, foldl_takeDigit_eq_some_iff]
    simp

end Text

namespace Logging

/-! ### What a setting says -/

/-- The characters of a setting that count: blanks around it and the case of letters do not. -/
def valueOf (setting : String) : List Char := (Text.upper (Text.trim setting)).toList

/-- What a value says: the number that it writes in decimal digits, the number of the level that it
    names, or nothing. -/
inductive Says (value : List Char) : Option Nat → Prop where
  | number {digits : List Nat} (nonempty : value ≠ []) (written : Text.Writes value digits) :
      Says value (some (Nat.ofDigits 10 digits.reverse))
  | level (l : Level) (named : value = l.name.toList) : Says value (some l.number)
  | nothing (unwritten : value = [] ∨ ∃ c ∈ value, Text.digitValue? c = none)
      (unnamed : ∀ l : Level, value ≠ l.name.toList) : Says value none

/-- Whether a value is taken for a number and cannot be read as one: each of its characters counts
    as a digit, but one of them has no decimal value, or there are more of them than the limit. -/
structure Refused (value : List Char) : Prop where
  nonempty : value ≠ []
  digits : ∀ c ∈ value, Text.isDigit c = true
  unreadable : (∃ c ∈ value, Text.digitValue? c = none) ∨ digitLimit < value.length

variable {value : List Char} {answer answer' : Option Nat} {l l' : Level} {setting text : String}

/-! ### Levels and their names -/

/-- Every level is found by its name. -/
theorem ofName?_name (l : Level) : Level.ofName? l.name = some l := by
  cases l <;> rfl

/-- Different levels have different names. -/
theorem eq_of_name_eq (h : l.name = l'.name) : l = l' := by
  have hfound := ofName?_name l
  rw [h, ofName?_name, Option.some.injEq] at hfound
  exact hfound.symm

/-- The level that a name leads to is the one of that name. -/
theorem ofName?_eq_some_iff : Level.ofName? text = some l ↔ text = l.name := by
  constructor
  · intro h
    have hname := List.find?_some h
    exact (beq_iff_eq.mp hname).symm
  · rintro rfl
    exact ofName?_name l

/-- The name of a level has characters that do not count as digits. -/
theorem exists_not_isDigit_name (l : Level) : ∃ c ∈ l.name.toList, Text.isDigit c = false := by
  refine ⟨l.name.toList.headD 'a', ?_, ?_⟩ <;> cases l <;> decide

/-- Decimal digits count as digits. -/
theorem isDigit_of_isSome {c : Char} (h : (Text.digitValue? c).isSome = true) :
    Text.isDigit c = true := by
  rw [Text.isDigit, h, Bool.true_or]

/-- A number in decimal digits is no name of a level. -/
theorem ne_name_of_writes {digits : List Nat} (h : Text.Writes value digits) (l : Level) :
    value ≠ l.name.toList := by
  rintro rfl
  obtain ⟨c, hc, hdigit⟩ := exists_not_isDigit_name l
  rw [isDigit_of_isSome (Text.exists_writes_iff.mp ⟨digits, h⟩ c hc)] at hdigit
  cases hdigit

/-! ### Every setting says one thing -/

/-- A value writes no number when it is empty or one of its characters is no decimal digit. -/
theorem unwritten_iff :
    (value = [] ∨ ∃ c ∈ value, Text.digitValue? c = none) ↔
      ¬ (value ≠ [] ∧ ∃ digits, Text.Writes value digits) := by
  rw [Text.exists_writes_iff, not_and_or, not_not, not_forall]
  simp only [Classical.not_imp, Option.not_isSome_iff_eq_none]

theorem exists_says (value : List Char) : ∃ answer, Says value answer := by
  by_cases hwritten : value ≠ [] ∧ ∃ digits, Text.Writes value digits
  · obtain ⟨hne, digits, hdigits⟩ := hwritten
    exact ⟨_, .number hne hdigits⟩
  · by_cases hnamed : ∃ l : Level, value = l.name.toList
    · obtain ⟨l, hl⟩ := hnamed
      exact ⟨_, .level l hl⟩
    · exact ⟨none, .nothing (unwritten_iff.mpr hwritten) (not_exists.mp hnamed)⟩

theorem Says.unique (h : Says value answer) (h' : Says value answer') : answer' = answer := by
  cases h with
  | number hne hwritten =>
    cases h' with
    | number _ hwritten' => rw [hwritten.unique hwritten']
    | level l hl => exact absurd hl (ne_name_of_writes hwritten l)
    | nothing hunwritten => exact absurd ⟨hne, _, hwritten⟩ (unwritten_iff.mp hunwritten)
  | level l hl =>
    cases h' with
    | number _ hwritten' => exact absurd hl (ne_name_of_writes hwritten' l)
    | level l' hl' => rw [eq_of_name_eq (String.toList_inj.mp (hl'.symm.trans hl))]
    | nothing _ hunnamed => exact absurd hl (hunnamed l)
  | nothing hunwritten hunnamed =>
    cases h' with
    | number hne hwritten' => exact absurd ⟨hne, _, hwritten'⟩ (unwritten_iff.mp hunwritten)
    | level l hl => exact absurd hl (hunnamed l)
    | nothing => rfl

/-! ### How a setting is read -/

/-- A number is read when all its digits have values and there are not too many of them. -/
theorem numberOf_of_writes {digits : List Nat} (hne : text.toList ≠ [])
    (hwritten : Text.Writes text.toList digits) (hlimit : text.toList.length ≤ digitLimit) :
    numberOf text = .ok (Nat.ofDigits 10 digits.reverse) := by
  have hall := Text.exists_writes_iff.mp ⟨digits, hwritten⟩
  have hread : Text.readDecimal? text.toList = some (Nat.ofDigits 10 digits.reverse) :=
    Text.readDecimal?_eq_some_iff.mpr ⟨hne, digits, hwritten, rfl⟩
  unfold numberOf
  rw [List.takeWhile_eq_self_iff.mpr hall, hread]
  exact if_neg (Nat.not_lt.mpr hlimit)

/-- A refused value is refused with a fault of the value. -/
theorem numberOf_of_refused (h : Refused text.toList) :
    ∃ fault, numberOf text = .error (.invalidValue fault) := by
  unfold numberOf
  dsimp only
  split
  · exact ⟨_, rfl⟩
  · rename_i hlimit
    -- With few leading digits, what cannot be read has a character without a value.
    have hmissing : ∃ c ∈ text.toList, Text.digitValue? c = none := by
      refine h.unreadable.elim id fun hlong => ?_
      by_contra hall
      have hall : ∀ c ∈ text.toList, (Text.digitValue? c).isSome = true := by
        intro c hc
        rw [← Option.ne_none_iff_isSome]
        exact fun hnone => hall ⟨c, hc, hnone⟩
      rw [List.takeWhile_eq_self_iff.mpr hall] at hlimit
      exact hlimit hlong
    have hread : Text.readDecimal? text.toList = none := by
      rw [Option.eq_none_iff_forall_ne_some]
      intro n hn
      obtain ⟨hne, digits, hwritten, -⟩ := Text.readDecimal?_eq_some_iff.mp hn
      exact unwritten_iff.mp (.inr hmissing) ⟨hne, digits, hwritten⟩
    rw [hread]
    exact ⟨_, rfl⟩

/-- A value is taken for a number when it is not empty and all its characters count as digits. -/
def TakenForNumber (value : List Char) : Prop :=
  value ≠ [] ∧ ∀ c ∈ value, Text.isDigit c = true

theorem levelOfSetting_of_taken (h : TakenForNumber (valueOf setting)) :
    levelOfSetting setting = (numberOf (Text.upper (Text.trim setting))).map some := by
  have hne : (Text.upper (Text.trim setting)).isEmpty = false := by
    rw [Bool.eq_false_iff, ne_eq, String.isEmpty_iff, ← String.toList_eq_nil_iff]
    exact h.1
  have hall : (Text.upper (Text.trim setting)).toList.all Text.isDigit = true :=
    List.all_eq_true.mpr h.2
  unfold levelOfSetting
  dsimp only
  rw [hne, hall]
  rfl

theorem levelOfSetting_of_not_taken (h : ¬ TakenForNumber (valueOf setting)) :
    levelOfSetting setting
      = .ok ((Level.ofName? (Text.upper (Text.trim setting))).map Level.number) := by
  unfold levelOfSetting
  dsimp only
  rw [if_neg]
  intro htaken
  refine h ?_
  rw [Bool.and_eq_true, Bool.not_eq_true', Bool.eq_false_iff, ne_eq, String.isEmpty_iff,
    ← String.toList_eq_nil_iff, List.all_eq_true] at htaken
  exact htaken

/-- What is refused is taken for a number. -/
theorem Refused.taken (h : Refused value) : TakenForNumber value :=
  ⟨h.nonempty, h.digits⟩

/-- A setting that is taken for a number and can be read as one gives that number. -/
theorem levelOfSetting_of_readable (htaken : TakenForNumber (valueOf setting))
    (hrefused : ¬ Refused (valueOf setting)) :
    ∃ answer, Says (valueOf setting) answer ∧ levelOfSetting setting = .ok answer := by
  have hall : ∀ c ∈ valueOf setting, (Text.digitValue? c).isSome = true := by
    intro c hc
    by_contra hnone
    rw [Option.not_isSome_iff_eq_none] at hnone
    exact hrefused ⟨htaken.1, htaken.2, .inl ⟨c, hc, hnone⟩⟩
  have hlimit : (valueOf setting).length ≤ digitLimit :=
    Nat.not_lt.mp fun hlong => hrefused ⟨htaken.1, htaken.2, .inr hlong⟩
  obtain ⟨digits, hdigits⟩ := Text.exists_writes_iff.mpr hall
  refine ⟨_, .number htaken.1 hdigits, ?_⟩
  rw [levelOfSetting_of_taken htaken, numberOf_of_writes htaken.1 hdigits hlimit]
  rfl

/-- A setting that is not taken for a number gives the level that it names, if it names one. -/
theorem levelOfSetting_of_named (h : ¬ TakenForNumber (valueOf setting)) :
    ∃ answer, Says (valueOf setting) answer ∧ levelOfSetting setting = .ok answer := by
  rw [levelOfSetting_of_not_taken h]
  refine ⟨_, ?_, rfl⟩
  cases hname : Level.ofName? (Text.upper (Text.trim setting)) with
  | some l =>
    refine .level l ?_
    rw [valueOf, ofName?_eq_some_iff.mp hname]
  | none =>
    refine .nothing (unwritten_iff.mpr ?_) fun l hl => ?_
    · rintro ⟨hne, digits, hdigits⟩
      have hall := Text.exists_writes_iff.mp ⟨digits, hdigits⟩
      exact h ⟨hne, fun c hc => isDigit_of_isSome (hall c hc)⟩
    · rw [ofName?_eq_some_iff.mpr (String.toList_inj.mp hl)] at hname
      cases hname

/-- **The level of a setting is what the setting says, unless it is refused**: every setting says
    one number, one level or nothing, and this is its level as long as the setting is not taken for
    a number that cannot be read; such a setting has no level but fails. -/
theorem levelOfSetting_says_iff (setting : String) :
    (∃! answer, Says (valueOf setting) answer) ∧
      ((∃ answer, Says (valueOf setting) answer ∧ levelOfSetting setting = .ok answer) ↔
        ¬ Refused (valueOf setting)) ∧
      ((∃ fault, levelOfSetting setting = .error (.invalidValue fault)) ↔
        Refused (valueOf setting)) := by
  have hfails : Refused (valueOf setting) →
      ∃ fault, levelOfSetting setting = .error (.invalidValue fault) := by
    intro h
    obtain ⟨fault, hfault⟩ := numberOf_of_refused h
    refine ⟨fault, ?_⟩
    rw [levelOfSetting_of_taken h.taken, hfault]
    rfl
  have hanswers : ¬ Refused (valueOf setting) →
      ∃ answer, Says (valueOf setting) answer ∧ levelOfSetting setting = .ok answer := by
    intro h
    by_cases htaken : TakenForNumber (valueOf setting)
    · exact levelOfSetting_of_readable htaken h
    · exact levelOfSetting_of_named htaken
  refine ⟨?_, ⟨?_, hanswers⟩, ?_, hfails⟩
  · obtain ⟨answer, hanswer⟩ := exists_says (valueOf setting)
    exact ⟨answer, hanswer, fun _ h => hanswer.unique h⟩
  · rintro ⟨answer, -, hok⟩ hrefused
    obtain ⟨fault, hfault⟩ := hfails hrefused
    rw [hok] at hfault
    cases hfault
  · rintro ⟨fault, hfault⟩
    by_contra hrefused
    obtain ⟨answer, -, hok⟩ := hanswers hrefused
    rw [hok] at hfault
    cases hfault

example : levelOfSetting " \u0664\u0662 " = .ok (some 42) := rfl

/-- A raised two counts as a digit and has no decimal value: it says nothing, and it is refused. -/
theorem levelOfSetting_superscript :
    Says (valueOf "\u00b2") none ∧ Refused (valueOf "\u00b2") ∧
      levelOfSetting "\u00b2" = .error (.invalidValue (.notDecimal (shortened "\u00b2"))) := by
  have hvalue : valueOf "\u00b2" = ['\u00b2'] := by decide +kernel
  have hnone : Text.digitValue? '\u00b2' = none := by decide +kernel
  refine ⟨?_, ?_, rfl⟩
  · rw [hvalue]
    refine .nothing (.inr ⟨_, List.mem_singleton_self _, hnone⟩) fun l => ?_
    cases l <;> decide
  · rw [hvalue]
    refine ⟨by simp, ?_, .inl ⟨_, List.mem_singleton_self _, hnone⟩⟩
    intro c hc
    rw [List.mem_singleton.mp hc]
    decide +kernel

end Logging

end MediaGraph
