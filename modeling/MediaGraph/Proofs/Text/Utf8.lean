import Mathlib.Data.List.Basic
import Mathlib.Tactic.SplitIfs
import MediaGraph.Text.Utf8

namespace MediaGraph.Text.Utf8

/-!
# Where reading UTF-8 stumbles

Reading finds a character in front of some bytes exactly where the bytes of that character stand
there.  So the first fault comes where the characters end, and no two characters can be taken for
each other, which is why a text that is cut anywhere is a text with an unfinished character behind.

* `step_eq_char_iff` — a character is read where its bytes stand.
* `Valid`, `valid_iff` — the bytes of texts, as the strings of the language have them.
* `Stuck`, `firstFault?_eq_none_iff`, `firstFault?_eq_some_iff` — where the first fault comes.
* `Unfinished`, `exists_valid_append_iff` — what is in front of some text.
-/

variable {b : UInt8} {bs bytes rest : Bytes} {c d : Char} {n k value bits : Nat}
  {low high : UInt8} {l : Lead}

/-! ### The bytes of a character -/

/-- The numbers that characters have. -/
theorem toNat_bounds (c : Char) : c.toNat < 0xD800 ∨ 0xDFFF < c.toNat ∧ c.toNat < 0x110000 :=
  c.valid

/-- A number within these bounds is that of a character. -/
theorem toNat_ofNat (h : n < 0xD800 ∨ 0xDFFF < n ∧ n < 0x110000) : (Char.ofNat n).toNat = n := by
  rw [Char.ofNat, dif_pos h]
  rfl

theorem toNat_toUInt8 (h : n < 256) : n.toUInt8.toNat = n := by
  rw [Nat.toUInt8_eq, UInt8.toNat_ofNat', Nat.mod_eq_of_lt h]

theorem toUInt8_eq (h : n = b.toNat) : n.toUInt8 = b := by
  rw [h, Nat.toUInt8_eq, UInt8.ofNat_toNat]

theorem encodeChar_one (h : c.toNat < 0x80) : encodeChar c = [c.toNat.toUInt8] := by
  simp only [encodeChar]
  rw [if_pos h]

theorem encodeChar_two (hlow : 0x80 ≤ c.toNat) (hhigh : c.toNat < 0x800) :
    encodeChar c = [(0xC0 + c.toNat / 64).toUInt8, (0x80 + c.toNat % 64).toUInt8] := by
  simp only [encodeChar]
  rw [if_neg (by omega), if_pos hhigh]

theorem encodeChar_three (hlow : 0x800 ≤ c.toNat) (hhigh : c.toNat < 0x10000) :
    encodeChar c = [(0xE0 + c.toNat / 4096).toUInt8, (0x80 + c.toNat / 64 % 64).toUInt8,
      (0x80 + c.toNat % 64).toUInt8] := by
  simp only [encodeChar]
  rw [if_neg (by omega), if_neg (by omega), if_pos hhigh]

theorem encodeChar_four (hlow : 0x10000 ≤ c.toNat) :
    encodeChar c = [(0xF0 + c.toNat / 262144).toUInt8, (0x80 + c.toNat / 4096 % 64).toUInt8,
      (0x80 + c.toNat / 64 % 64).toUInt8, (0x80 + c.toNat % 64).toUInt8] := by
  simp only [encodeChar]
  rw [if_neg (by omega), if_neg (by omega), if_neg (by omega)]

/-- The bytes of a character are those of the strings of the language. -/
theorem encodeChar_eq (c : Char) : encodeChar c = String.utf8EncodeChar c := by
  have hc := toNat_bounds c
  have hstrings : String.utf8EncodeChar c =
      if c.toNat ≤ 0x7F then [c.toNat.toUInt8]
      else if c.toNat ≤ 0x7FF then
        [(c.toNat / 64 % 32 + 192).toUInt8, (c.toNat % 64 + 128).toUInt8]
      else if c.toNat ≤ 0xFFFF then
        [(c.toNat / 4096 % 16 + 224).toUInt8, (c.toNat / 64 % 64 + 128).toUInt8,
          (c.toNat % 64 + 128).toUInt8]
      else
        [(c.toNat / 262144 % 8 + 240).toUInt8, (c.toNat / 4096 % 64 + 128).toUInt8,
          (c.toNat / 64 % 64 + 128).toUInt8, (c.toNat % 64 + 128).toUInt8] := rfl
  rw [hstrings]
  by_cases hone : c.toNat < 0x80
  · rw [encodeChar_one hone, if_pos (by omega)]
  by_cases htwo : c.toNat < 0x800
  · have hlead : c.toNat / 64 % 32 + 192 = 192 + c.toNat / 64 := by omega
    rw [encodeChar_two (by omega) htwo, if_neg (by omega), if_pos (by omega), hlead]
    simp only [Nat.add_comm _ 128]
  by_cases hthree : c.toNat < 0x10000
  · have hlead : c.toNat / 4096 % 16 + 224 = 224 + c.toNat / 4096 := by omega
    rw [encodeChar_three (by omega) hthree, if_neg (by omega), if_neg (by omega),
      if_pos (by omega), hlead]
    simp only [Nat.add_comm _ 128]
  · have hlead : c.toNat / 262144 % 8 + 240 = 240 + c.toNat / 262144 := by omega
    rw [encodeChar_four (by omega), if_neg (by omega), if_neg (by omega), if_neg (by omega), hlead]
    simp only [Nat.add_comm _ 128]

theorem length_encodeChar_le (c : Char) : (encodeChar c).length ≤ 4 := by
  rw [encodeChar_eq, String.length_utf8EncodeChar]
  exact c.utf8Size_le_four

theorem exists_encodeChar_eq_cons (c : Char) : ∃ b bs, encodeChar c = b :: bs := by
  rw [← List.ne_nil_iff_exists_cons, encodeChar_eq]
  exact String.utf8EncodeChar_ne_nil

/-! ### What stands in front -/

/-- What a first byte announces.  The least and the greatest first byte of a length narrow the byte
    behind them. -/
inductive Announces (b : UInt8) : Lead → Prop where
  | one (hhigh : b.toNat < 0x80) : Announces b ⟨0, 0x80, 0xBF, b.toNat⟩
  | two (hlow : 0xC2 ≤ b.toNat) (hhigh : b.toNat < 0xE0) :
      Announces b ⟨1, 0x80, 0xBF, b.toNat - 0xC0⟩
  | three (hlow : 0xE0 ≤ b.toNat) (hhigh : b.toNat < 0xF0) :
      Announces b ⟨2, if b.toNat = 0xE0 then 0xA0 else 0x80, if b.toNat = 0xED then 0x9F else 0xBF,
        b.toNat - 0xE0⟩
  | four (hlow : 0xF0 ≤ b.toNat) (hhigh : b.toNat < 0xF5) :
      Announces b ⟨3, if b.toNat = 0xF0 then 0x90 else 0x80, if b.toNat = 0xF4 then 0x8F else 0xBF,
        b.toNat - 0xF0⟩

theorem lead?_eq_some_iff : lead? b = some l ↔ Announces b l := by
  have hlead : lead? b =
      if b.toNat < 0x80 then some ⟨0, 0x80, 0xBF, b.toNat⟩
      else if b.toNat < 0xC2 then none
      else if b.toNat < 0xE0 then some ⟨1, 0x80, 0xBF, b.toNat - 0xC0⟩
      else if b.toNat < 0xF0 then
        some ⟨2, if b.toNat = 0xE0 then 0xA0 else 0x80, if b.toNat = 0xED then 0x9F else 0xBF,
          b.toNat - 0xE0⟩
      else if b.toNat < 0xF5 then
        some ⟨3, if b.toNat = 0xF0 then 0x90 else 0x80, if b.toNat = 0xF4 then 0x8F else 0xBF,
          b.toNat - 0xF0⟩
      else none := by
    simp only [lead?, UInt8.lt_iff_toNat_lt, ← UInt8.toNat_inj, UInt8.toNat_ofNat, Nat.reduceMod,
      Nat.reducePow]
    split_ifs <;> first | (exfalso; omega) | simp_all
  rw [hlead]
  constructor
  · intro h
    by_cases hone : b.toNat < 0x80
    · rw [if_pos hone] at h
      cases h
      exact .one hone
    rw [if_neg hone] at h
    by_cases hnone : b.toNat < 0xC2
    · rw [if_pos hnone] at h
      cases h
    rw [if_neg hnone] at h
    by_cases htwo : b.toNat < 0xE0
    · rw [if_pos htwo] at h
      cases h
      exact .two (by omega) htwo
    rw [if_neg htwo] at h
    by_cases hthree : b.toNat < 0xF0
    · rw [if_pos hthree] at h
      cases h
      exact .three (by omega) hthree
    rw [if_neg hthree] at h
    by_cases hfour : b.toNat < 0xF5
    · rw [if_pos hfour] at h
      cases h
      exact .four (by omega) hfour
    rw [if_neg hfour] at h
    cases h
  · intro h
    cases h with
    | one hhigh => rw [if_pos hhigh]
    | two hlow hhigh => rw [if_neg (by omega), if_neg (by omega), if_pos hhigh]
    | three hlow hhigh =>
      rw [if_neg (by omega), if_neg (by omega), if_neg (by omega), if_pos hhigh]
    | four hlow hhigh =>
      rw [if_neg (by omega), if_neg (by omega), if_neg (by omega), if_neg (by omega), if_pos hhigh]

/-- When no more bytes are owed, the bits are the value. -/
theorem tails_zero_eq_ok_iff : tails 0 low high bits bs = .ok value ↔ bits = value := by
  rw [tails, Except.ok.injEq]

/-- When more bytes are owed, the next one stands in front and the others behind it. -/
theorem tails_succ_eq_ok_iff :
    tails (n + 1) low high bits bs = .ok value ↔
      ∃ t rest, bs = t :: rest ∧ (low.toNat ≤ t.toNat ∧ t.toNat ≤ high.toNat) ∧
        tails n 0x80 0xBF (bits * 64 + (t.toNat - 0x80)) rest = .ok value := by
  cases bs with
  | nil => simp [tails]
  | cons t rest =>
    simp only [tails, Bool.and_eq_true, decide_eq_true_eq, UInt8.le_iff_toNat_le, List.cons.injEq]
    by_cases hbounds : low.toNat ≤ t.toNat ∧ t.toNat ≤ high.toNat
    · rw [if_pos hbounds]
      cases htails : tails n 0x80 0xBF (bits * 64 + (t.toNat - 0x80)) rest with
      | ok v => simp [hbounds, htails]
      | error j => simp [htails]
    · rw [if_neg hbounds]
      simp [hbounds]

/-- A character is read where its first byte announces what follows. -/
theorem step_eq_char_iff_announces :
    step b bs = .char c k ↔ ∃ l value, Announces b l ∧
      tails l.tails l.low l.high l.bits bs = .ok value ∧ Char.ofNat value = c ∧ l.tails = k := by
  simp only [← lead?_eq_some_iff]
  unfold step
  cases lead? b with
  | none => simp
  | some l => cases htails : tails l.tails l.low l.high l.bits bs <;> simp [htails]

/-- Where a character is read, its bytes stand. -/
theorem encodeChar_of_step (h : step b bs = .char c k) :
    ∃ rest, b :: bs = encodeChar c ++ rest ∧ (encodeChar c).length = k + 1 := by
  obtain ⟨l, value, hannounces, htails, rfl, rfl⟩ := step_eq_char_iff_announces.mp h
  -- The bounds make the bits that were collected the number of a character of the same length.
  cases hannounces with
  | one hhigh =>
    have hvalue : b.toNat = value := tails_zero_eq_ok_iff.mp htails
    have hc : (Char.ofNat value).toNat = value := toNat_ofNat (by omega)
    rw [encodeChar_one (by omega), hc, toUInt8_eq hvalue.symm]
    exact ⟨bs, rfl, rfl⟩
  | two hlow hhigh =>
    simp only [tails_succ_eq_ok_iff, tails_zero_eq_ok_iff, UInt8.reduceToNat] at htails
    obtain ⟨t, rest, rfl, ht, hvalue⟩ := htails
    have hc : (Char.ofNat value).toNat = value := toNat_ofNat (by omega)
    rw [encodeChar_two (by omega) (by omega), hc, toUInt8_eq (b := b) (by omega),
      toUInt8_eq (b := t) (by omega)]
    exact ⟨rest, rfl, rfl⟩
  | three hlow hhigh =>
    simp only [tails_succ_eq_ok_iff, tails_zero_eq_ok_iff, apply_ite UInt8.toNat,
      UInt8.reduceToNat] at htails
    obtain ⟨t, _, rfl, ht, u, rest, rfl, hu, hvalue⟩ := htails
    have hsecond : 0x80 ≤ t.toNat ∧ t.toNat ≤ 0xBF ∧ (b.toNat = 0xE0 → 0xA0 ≤ t.toNat) ∧
        (b.toNat = 0xED → t.toNat ≤ 0x9F) := by
      split_ifs at ht <;> omega
    have hc : (Char.ofNat value).toNat = value := toNat_ofNat (by omega)
    rw [encodeChar_three (by omega) (by omega), hc, toUInt8_eq (b := b) (by omega),
      toUInt8_eq (b := t) (by omega), toUInt8_eq (b := u) (by omega)]
    exact ⟨rest, rfl, rfl⟩
  | four hlow hhigh =>
    simp only [tails_succ_eq_ok_iff, tails_zero_eq_ok_iff, apply_ite UInt8.toNat,
      UInt8.reduceToNat] at htails
    obtain ⟨t, _, rfl, ht, u, _, rfl, hu, v, rest, rfl, hv, hvalue⟩ := htails
    have hsecond : 0x80 ≤ t.toNat ∧ t.toNat ≤ 0xBF ∧ (b.toNat = 0xF0 → 0x90 ≤ t.toNat) ∧
        (b.toNat = 0xF4 → t.toNat ≤ 0x8F) := by
      split_ifs at ht <;> omega
    have hc : (Char.ofNat value).toNat = value := toNat_ofNat (by omega)
    rw [encodeChar_four (by omega), hc, toUInt8_eq (b := b) (by omega),
      toUInt8_eq (b := t) (by omega), toUInt8_eq (b := u) (by omega),
      toUInt8_eq (b := v) (by omega)]
    exact ⟨rest, rfl, rfl⟩

/-- Where the bytes of a character stand, the character is read. -/
theorem step_of_encodeChar (h : b :: bs = encodeChar c ++ rest) :
    step b bs = .char c ((encodeChar c).length - 1) := by
  have hbounds := toNat_bounds c
  rw [step_eq_char_iff_announces]
  by_cases hone : c.toNat < 0x80
  · rw [encodeChar_one hone] at h ⊢
    obtain ⟨rfl, rfl⟩ := List.cons.inj h
    have hb : c.toNat.toUInt8.toNat = c.toNat := toNat_toUInt8 (by omega)
    exact ⟨_, _, .one (by omega), tails_zero_eq_ok_iff.mpr hb, Char.ofNat_toNat c, rfl⟩
  have htail : ∀ m, (0x80 + m % 64).toUInt8.toNat = 0x80 + m % 64 := fun m =>
    toNat_toUInt8 (by omega)
  by_cases htwo : c.toNat < 0x800
  · rw [encodeChar_two (by omega) htwo] at h ⊢
    obtain ⟨rfl, rfl⟩ := List.cons.inj h
    have hb : (0xC0 + c.toNat / 64).toUInt8.toNat = 0xC0 + c.toNat / 64 :=
      toNat_toUInt8 (by omega)
    refine ⟨_, c.toNat, .two (by omega) (by omega), ?_, Char.ofNat_toNat c, rfl⟩
    simp only [tails_succ_eq_ok_iff, tails_zero_eq_ok_iff, UInt8.reduceToNat]
    refine ⟨_, _, rfl, ?_, ?_⟩ <;> rw [htail] <;> omega
  by_cases hthree : c.toNat < 0x10000
  · rw [encodeChar_three (by omega) hthree] at h ⊢
    obtain ⟨rfl, rfl⟩ := List.cons.inj h
    have hb : (0xE0 + c.toNat / 4096).toUInt8.toNat = 0xE0 + c.toNat / 4096 :=
      toNat_toUInt8 (by omega)
    refine ⟨_, c.toNat, .three (by omega) (by omega), ?_, Char.ofNat_toNat c, rfl⟩
    simp only [tails_succ_eq_ok_iff, tails_zero_eq_ok_iff, apply_ite UInt8.toNat,
      UInt8.reduceToNat]
    refine ⟨_, _, rfl, ?_, _, _, rfl, ?_, ?_⟩
    · rw [htail]
      split_ifs <;> omega
    · rw [htail]
      omega
    · rw [htail, htail]
      omega
  · rw [encodeChar_four (by omega)] at h ⊢
    obtain ⟨rfl, rfl⟩ := List.cons.inj h
    have hb : (0xF0 + c.toNat / 262144).toUInt8.toNat = 0xF0 + c.toNat / 262144 :=
      toNat_toUInt8 (by omega)
    refine ⟨_, c.toNat, .four (by omega) (by omega), ?_, Char.ofNat_toNat c, rfl⟩
    simp only [tails_succ_eq_ok_iff, tails_zero_eq_ok_iff, apply_ite UInt8.toNat,
      UInt8.reduceToNat]
    refine ⟨_, _, rfl, ?_, _, _, rfl, ?_, _, _, rfl, ?_, ?_⟩
    · rw [htail]
      split_ifs <;> omega
    · rw [htail]
      omega
    · rw [htail]
      omega
    · rw [htail, htail, htail]
      omega

/-- **A character is read** exactly where its bytes stand. -/
theorem step_eq_char_iff :
    step b bs = .char c k ↔
      ∃ rest, b :: bs = encodeChar c ++ rest ∧ (encodeChar c).length = k + 1 := by
  refine ⟨encodeChar_of_step, ?_⟩
  rintro ⟨rest, h, hlength⟩
  rw [step_of_encodeChar h, hlength, Nat.add_sub_cancel]

/-- No two characters stand in front of the same bytes. -/
theorem eq_of_encodeChar_prefix (hc : encodeChar c <+: bytes) (hd : encodeChar d <+: bytes) :
    c = d := by
  obtain ⟨rest, rfl⟩ := hc
  obtain ⟨rest', hrest'⟩ := hd
  obtain ⟨b, bs, hfront⟩ := exists_encodeChar_eq_cons c
  have hc : b :: (bs ++ rest) = encodeChar c ++ rest := by rw [hfront, List.cons_append]
  rw [← hc] at hrest'
  have hstep := step_of_encodeChar hrest'.symm
  rw [step_of_encodeChar hc] at hstep
  exact (Step.char.inj hstep).1

/-! ### Texts -/

/-- Whether some bytes are those of a text. -/
def Valid (bytes : Bytes) : Prop := ∃ s : String, s.toUTF8.data.toList = bytes

/-- The bytes of a text are those of its characters. -/
theorem valid_iff : Valid bytes ↔ ∃ cs : List Char, cs.flatMap encodeChar = bytes := by
  have hencode : encodeChar = String.utf8EncodeChar := funext encodeChar_eq
  have hbytes : ∀ cs : List Char,
      (String.ofList cs).toUTF8.data.toList = cs.flatMap String.utf8EncodeChar := by
    intro cs
    rw [String.toUTF8, String.toByteArray_ofList, List.utf8Encode, List.data_toByteArray]
  rw [hencode]
  constructor
  · rintro ⟨s, rfl⟩
    exact ⟨s.toList, by rw [← hbytes, String.ofList_toList]⟩
  · rintro ⟨cs, rfl⟩
    exact ⟨String.ofList cs, hbytes cs⟩

theorem valid_nil : Valid [] := valid_iff.mpr ⟨[], rfl⟩

theorem valid_encodeChar (c : Char) : Valid (encodeChar c) :=
  valid_iff.mpr ⟨[c], by rw [List.flatMap_cons, List.flatMap_nil, List.append_nil]⟩

/-- Texts one after another are a text. -/
theorem Valid.append {text more : Bytes} (h : Valid text) (hmore : Valid more) :
    Valid (text ++ more) := by
  obtain ⟨cs, rfl⟩ := valid_iff.mp h
  obtain ⟨ds, rfl⟩ := valid_iff.mp hmore
  exact valid_iff.mpr ⟨cs ++ ds, List.flatMap_append⟩

/-! ### The first fault -/

/-- Whether no character stands in front of some bytes. -/
def Stuck (bytes : Bytes) : Prop := ∀ c, ¬ encodeChar c <+: bytes

/-- A character in front is passed over. -/
theorem firstFault?_encodeChar_append (c : Char) (rest : Bytes) :
    firstFault? (encodeChar c ++ rest)
      = (firstFault? rest).map (· + (encodeChar c).length) := by
  obtain ⟨b, bs, hfront⟩ := exists_encodeChar_eq_cons c
  have hstep : step b (bs ++ rest) = .char c bs.length := by
    rw [step_eq_char_iff, hfront]
    exact ⟨rest, rfl, rfl⟩
  rw [hfront, List.cons_append, firstFault?, hstep]
  dsimp only
  rw [List.drop_left]
  rfl

/-- A text in front is passed over. -/
theorem firstFault?_append {text : Bytes} (h : Valid text) (rest : Bytes) :
    firstFault? (text ++ rest) = (firstFault? rest).map (· + text.length) := by
  obtain ⟨cs, rfl⟩ := valid_iff.mp h
  clear h
  induction cs with
  | nil => simp
  | cons c cs ih =>
    rw [List.flatMap_cons, List.append_assoc, firstFault?_encodeChar_append, ih, Option.map_map,
      List.length_append]
    congr 1
    funext n
    simp only [Function.comp_apply]
    omega

/-- Where no character stands in front, there is a fault at once. -/
theorem Stuck.firstFault?_eq (h : Stuck bytes) (hne : bytes ≠ []) : firstFault? bytes = some 0 := by
  cases bytes with
  | nil => exact absurd rfl hne
  | cons b bs =>
    rw [firstFault?]
    cases hstep : step b bs with
    | char c k =>
      obtain ⟨rest, hrest, -⟩ := encodeChar_of_step hstep
      exact absurd ⟨rest, hrest.symm⟩ (h c)
    | fault k => rfl

/-- All bytes begin with a text up to a place where no character stands. -/
theorem exists_stuck (bytes : Bytes) :
    ∃ text rest, bytes = text ++ rest ∧ Valid text ∧ Stuck rest := by
  induction hlength : bytes.length using Nat.strongRecOn generalizing bytes with
  | ind size ih =>
    by_cases hstuck : Stuck bytes
    · exact ⟨[], bytes, rfl, valid_nil, hstuck⟩
    · obtain ⟨c, hc⟩ := not_forall_not.mp hstuck
      obtain ⟨after, rfl⟩ := hc
      obtain ⟨b, bs, hfront⟩ := exists_encodeChar_eq_cons c
      have hshorter : after.length < size := by
        rw [← hlength, hfront, List.length_append, List.length_cons]
        omega
      obtain ⟨text, rest, rfl, htext, hrest⟩ := ih _ hshorter after rfl
      exact ⟨encodeChar c ++ text, rest, (List.append_assoc _ _ _).symm,
        (valid_encodeChar c).append htext, hrest⟩

/-- **There is no fault** exactly in the bytes of a text. -/
theorem firstFault?_eq_none_iff : firstFault? bytes = none ↔ Valid bytes := by
  constructor
  · intro h
    obtain ⟨text, rest, rfl, htext, hrest⟩ := exists_stuck bytes
    rw [firstFault?_append htext, Option.map_eq_none_iff] at h
    by_cases hne : rest = []
    · rw [hne, List.append_nil]
      exact htext
    · rw [hrest.firstFault?_eq hne] at h
      cases h
  · intro h
    rw [← List.append_nil bytes, firstFault?_append h, firstFault?]
    rfl

/-- **The first fault comes** behind a text, where no character stands. -/
theorem firstFault?_eq_some_iff :
    firstFault? bytes = some n ↔
      ∃ text rest, bytes = text ++ rest ∧ Valid text ∧ text.length = n ∧ rest ≠ [] ∧
        Stuck rest := by
  constructor
  · intro h
    obtain ⟨text, rest, rfl, htext, hrest⟩ := exists_stuck bytes
    rw [firstFault?_append htext] at h
    by_cases hne : rest = []
    · rw [hne, firstFault?] at h
      cases h
    · rw [hrest.firstFault?_eq hne, Option.map_some, Nat.zero_add, Option.some.injEq] at h
      exact ⟨text, rest, rfl, htext, h, hne, hrest⟩
  · rintro ⟨text, rest, rfl, htext, rfl, hne, hrest⟩
    rw [firstFault?_append htext, hrest.firstFault?_eq hne, Option.map_some, Nat.zero_add]

/-- Bytes are a text and bytes without a character in front in one way only. -/
theorem Stuck.unique {text text' rest' : Bytes} (h : text ++ rest = text' ++ rest')
    (htext : Valid text) (htext' : Valid text') (hrest : Stuck rest) (hrest' : Stuck rest') :
    rest = rest' := by
  have hfault := congrArg firstFault? h
  rw [firstFault?_append htext, firstFault?_append htext'] at hfault
  -- The first fault is where the text ends, if anything is left there.
  by_cases hempty : rest = []
  · by_cases hempty' : rest' = []
    · rw [hempty, hempty']
    · rw [hempty, firstFault?, hrest'.firstFault?_eq hempty'] at hfault
      cases hfault
  · rw [hrest.firstFault?_eq hempty] at hfault
    by_cases hempty' : rest' = []
    · rw [hempty', firstFault?] at hfault
      cases hfault
    · rw [hrest'.firstFault?_eq hempty', Option.map_some, Option.map_some, Option.some.injEq,
        Nat.zero_add, Nat.zero_add] at hfault
      exact (List.append_inj h hfault).2

/-! ### Texts that are cut -/

/-- Whether some bytes, perhaps none, are the first ones of a character but not all of them. -/
def Unfinished (part : Bytes) : Prop := ∃ c, part <+: encodeChar c ∧ part ≠ encodeChar c

theorem Unfinished.length_le {part : Bytes} (h : Unfinished part) : part.length ≤ 3 := by
  obtain ⟨c, hbegins, hne⟩ := h
  have hlonger : part.length ≠ (encodeChar c).length := fun heq =>
    hne (hbegins.eq_of_length heq)
  have hle := hbegins.length_le
  have hfour := length_encodeChar_le c
  omega

/-- A character is read from none of its beginnings. -/
theorem Unfinished.stuck {part : Bytes} (h : Unfinished part) : Stuck part := by
  obtain ⟨c, hbegins, hne⟩ := h
  intro d hd
  -- The character in front of the part is in front of all of the other one, so it is the same.
  have hsame : d = c := eq_of_encodeChar_prefix (hd.trans hbegins) (List.prefix_refl _)
  subst hsame
  exact hne (hbegins.eq_of_length (Nat.le_antisymm hbegins.length_le hd.length_le))

/-- What is in front of a character, or of what follows it, is cut in the character or behind it. -/
theorem unfinished_or_of_append {c : Char} {head more after : Bytes}
    (h : head ++ more = encodeChar c ++ after) :
    Unfinished head ∨ ∃ later, head = encodeChar c ++ later ∧ later ++ more = after := by
  rcases List.append_eq_append_iff.mp h with ⟨missing, hfront, -⟩ | ⟨later, hhead, hafter⟩
  · by_cases hmissing : missing = []
    · rw [hmissing, List.append_nil] at hfront
      refine .inr ⟨[], by rw [hfront, List.append_nil], ?_⟩
      rw [hfront] at h
      exact List.append_cancel_left h
    · refine .inl ⟨c, ⟨missing, hfront.symm⟩, fun hall => hmissing ?_⟩
      rw [hall] at hfront
      exact List.self_eq_append_right.mp hfront
  · exact .inr ⟨later, hhead, hafter.symm⟩

/-- **What is in front of some text** is a text and perhaps an unfinished character. -/
theorem exists_valid_append_iff {head : Bytes} :
    (∃ more, Valid (head ++ more)) ↔
      ∃ text part, head = text ++ part ∧ Valid text ∧ Unfinished part := by
  constructor
  · rintro ⟨more, h⟩
    obtain ⟨cs, hcs⟩ := valid_iff.mp h
    clear h
    induction cs generalizing head with
    | nil =>
      obtain ⟨rfl, -⟩ := List.append_eq_nil_iff.mp hcs.symm
      obtain ⟨b, bs, hfront⟩ := exists_encodeChar_eq_cons 'a'
      exact ⟨[], [], rfl, valid_nil, 'a', List.nil_prefix, by rw [hfront]; exact nofun⟩
    | cons c cs ih =>
      rw [List.flatMap_cons] at hcs
      rcases unfinished_or_of_append hcs.symm with hcut | ⟨later, rfl, hlater⟩
      · exact ⟨[], head, rfl, valid_nil, hcut⟩
      · obtain ⟨text, part, rfl, htext, hpart⟩ := ih hlater.symm
        exact ⟨encodeChar c ++ text, part, (List.append_assoc _ _ _).symm,
          (valid_encodeChar c).append htext, hpart⟩
  · rintro ⟨text, part, rfl, htext, c, ⟨missing, hmissing⟩, -⟩
    refine ⟨missing, ?_⟩
    rw [List.append_assoc, hmissing]
    exact htext.append (valid_encodeChar c)

end MediaGraph.Text.Utf8
