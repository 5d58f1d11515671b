import MediaGraph.Proofs.Text.Blank
import MediaGraph.Text.CaseMapping

namespace MediaGraph.Text

/-!
# Lower case of what is in lower case

Lower case goes by a table of runs.  No run maps to a character that is mapped again, so a text in
lower case is its own lower case, the final sigma included.  And no run maps to a blank, so a text
without blanks at its ends has none there in lower case either.

* `IsLower` — a character that lower case leaves alone.
* `lowerChar_cases` — where the lower case of a character comes from.
* `isLower_of_mem_lowerChar` — the lower case of a character consists of such characters.
* `lowerFrom_cons` — the image of the first character, apart from the images of the others.
* `lowerChars_lowerChars` — lower case is idempotent.
* `trimmed_lowerChars` — the lower case of a trimmed text is trimmed.
* `trimChars_lowerChars` — trimming and lower case may be done in either order.
* `lowerChars_of_ascii` — the first 128 characters are lowered one by one.
-/

/-- Whether lower case leaves the character alone, wherever it stands. -/
def IsLower (c : Char) : Prop := lowerChar c = [c]

instance (c : Char) : Decidable (IsLower c) := inferInstanceAs (Decidable (lowerChar c = [c]))

/-! ### What the runs map to -/

theorem CaseRun.image?_eq_some_iff {r : CaseRun} {m n : Nat} :
    r.image? m = some n ↔
      r.first ≤ m ∧ m ≤ r.last ∧ (m - r.first) % r.stride = 0 ∧ ((m : Int) + r.shift).toNat = n := by
  simp [CaseRun.image?, and_assoc]

/-- Whether `r` maps to no character that `s` covers: the characters lie apart, or both runs go in
    steps of two and are out of step. -/
def CaseRun.avoids (r s : CaseRun) : Bool :=
  let first := (r.first + r.shift).toNat
  (r.last + r.shift).toNat.blt s.first || s.last.blt first ||
    s.stride.beq 2 && (r.stride.beq 2 || r.first.beq r.last) && ((first + s.first) % 2).beq 1

/-- What avoids a run is not mapped by it. -/
theorem CaseRun.image?_eq_none {r s : CaseRun} {m n : Nat} (hshift : 0 ≤ (r.first : Int) + r.shift)
    (havoid : r.avoids s = true) (hn : r.image? m = some n) : s.image? n = none := by
  obtain ⟨hfirst, hlast, hstep, himage⟩ := image?_eq_some_iff.mp hn
  cases hk : s.image? n with
  | none => rfl
  | some k =>
    obtain ⟨hfirst', hlast', hstep', -⟩ := image?_eq_some_iff.mp hk
    simp only [avoids, Bool.or_eq_true, Bool.and_eq_true, Nat.blt_eq, Nat.beq_eq] at havoid
    rcases havoid with (h | h) | ⟨⟨hs, hr⟩, hodd⟩
    · omega
    · omega
    · rw [hs] at hstep'
      rcases hr with hr | hr
      · rw [hr] at hstep
        omega
      · omega

/-- The ranges of the blanks. -/
def blankRanges : List (Nat × Nat) :=
  [(9, 13), (28, 32), (0x85, 0x85), (0xA0, 0xA0), (0x1680, 0x1680), (0x2000, 0x200A),
   (0x2028, 0x2029), (0x202F, 0x202F), (0x205F, 0x205F), (0x3000, 0x3000)]

theorem isBlank_iff {c : Char} :
    isBlank c = true ↔ ∃ range ∈ blankRanges, range.1 ≤ c.toNat ∧ c.toNat ≤ range.2 := by
  simp only [isBlank, blankRanges, Bool.or_eq_true, Bool.and_eq_true, decide_eq_true_eq, beq_iff_eq,
    List.mem_cons, List.not_mem_nil, or_false, exists_eq_or_imp, exists_eq_left]
  omega

/-- What no run may map to besides what the runs cover: the character whose lower case is longer,
    and the blanks. -/
def furtherRuns : List CaseRun :=
  ⟨0x0130, 0x0130, 1, 0⟩ :: blankRanges.map fun range => ⟨range.1, range.2, 1, 0⟩

theorem lowerRuns_shift : ∀ r ∈ lowerRuns, 0 ≤ (r.first : Int) + r.shift := by
  decide +kernel

theorem lowerRuns_avoid {r s : CaseRun} (hr : r ∈ lowerRuns) (hs : s ∈ lowerRuns ++ furtherRuns) :
    r.avoids s = true := by
  have hall : (lowerRuns.all fun r => (lowerRuns ++ furtherRuns).all r.avoids) = true := by
    decide +kernel
  exact List.all_eq_true.mp (List.all_eq_true.mp hall r hr) s hs

/-- What a run of the table maps to is mapped by no run of it, nor one of the further characters. -/
theorem image?_image?_eq_none {r s : CaseRun} {m n : Nat} (hr : r ∈ lowerRuns)
    (hn : r.image? m = some n) (hs : s ∈ lowerRuns ++ furtherRuns) : s.image? n = none :=
  CaseRun.image?_eq_none (lowerRuns_shift r hr) (lowerRuns_avoid hr hs) hn

/-! ### The lower case of one character -/

/-- What holds of the first 128 characters, each checked by itself. -/
theorem forall_ascii {P : Char → Prop} (h : ∀ n < 0x80, P (Char.ofNat n)) (c : Char)
    (hc : c.toNat < 0x80) : P c := by
  have hn := h c.toNat hc
  rwa [Char.ofNat_toNat] at hn

/-- A character that no entry of the table maps is in lower case. -/
theorem isLower_of_unmapped {c : Char} (hruns : ∀ r ∈ lowerRuns, r.image? c.toNat = none)
    (hlong : c.toNat ≠ 0x0130) : IsLower c := by
  unfold IsLower lowerChar
  split
  · rename_i hascii
    have letters : ∀ c : Char, c.toNat < 0x80 →
        (⟨0x0041, 0x005A, 1, 32⟩ : CaseRun).image? c.toNat = none → c.toLower = c :=
      forall_ascii (by decide)
    rw [letters c hascii (hruns _ (by decide))]
  · have hfind : lowerRuns.findSome? (·.image? c.toNat) = none :=
      List.findSome?_eq_none_iff.mpr hruns
    have hne : (c.toNat == 0x0130) = false := beq_false_of_ne hlong
    have hlookup : lowerLong.lookup c.toNat = none := by
      simp [lowerLong, List.lookup_cons, hne]
    rw [mapChar, hfind, hlookup]

/-- A run of the table maps to a character in lower case that is no blank. -/
theorem isLower_ofNat_image {r : CaseRun} {m n : Nat} (hr : r ∈ lowerRuns)
    (hn : r.image? m = some n) : IsLower (Char.ofNat n) ∧ isBlank (Char.ofNat n) = false := by
  by_cases hvalid : n.isValidChar
  · have hnat : (Char.ofNat n).toNat = n := by
      rw [Char.ofNat, dif_pos hvalid]
      rfl
    have hfree {s : CaseRun} (hs : s ∈ lowerRuns ++ furtherRuns) : s.image? n = none :=
      image?_image?_eq_none hr hn hs
    have hapart {first last : Nat} (hs : ⟨first, last, 1, 0⟩ ∈ furtherRuns) :
        ¬ (first ≤ n ∧ n ≤ last) := by
      rintro ⟨hfirst, hlast⟩
      have hnone := hfree (List.mem_append_right _ hs)
      rw [CaseRun.image?_eq_some_iff.mpr ⟨hfirst, hlast, Nat.mod_one _, rfl⟩] at hnone
      cases hnone
    constructor
    · apply isLower_of_unmapped
      · intro s hs
        rw [hnat]
        exact hfree (List.mem_append_left _ hs)
      · rw [hnat]
        rintro rfl
        exact hapart (List.mem_cons_self) ⟨Nat.le_refl _, Nat.le_refl _⟩
    · rw [← Bool.not_eq_true, isBlank_iff, hnat]
      rintro ⟨range, hrange, hin⟩
      exact hapart (List.mem_cons_of_mem _ (List.mem_map_of_mem hrange)) hin
  · -- Every number that is no character stands for the first one.
    have hzero : Char.ofNat n = Char.ofNat 0 := by
      rw [Char.ofNat, dif_neg hvalid]
      rfl
    rw [hzero]
    decide

/-- Where the lower case of a character comes from: it is the character itself, a letter of the
    first 128 characters, what a run maps to, or an entry of the table of longer ones. -/
theorem lowerChar_cases (c : Char) :
    lowerChar c = [c] ∨
    (c.toNat < 0x80 ∧ lowerChar c = [c.toLower]) ∨
    (∃ r ∈ lowerRuns, ∃ n, r.image? c.toNat = some n ∧ lowerChar c = [Char.ofNat n]) ∨
    ∃ e ∈ lowerLong, lowerChar c = e.2.map Char.ofNat := by
  by_cases hascii : c.toNat < 0x80
  · exact .inr (.inl ⟨hascii, by rw [lowerChar, if_pos hascii]⟩)
  · rw [lowerChar, if_neg hascii, mapChar]
    cases hfind : lowerRuns.findSome? (·.image? c.toNat) with
    | some n =>
      obtain ⟨r, hr, hn⟩ := List.exists_of_findSome?_eq_some hfind
      exact .inr (.inr (.inl ⟨r, hr, n, hn, rfl⟩))
    | none =>
      cases hlookup : lowerLong.lookup c.toNat with
      | none => exact .inl rfl
      | some ns =>
        obtain ⟨before, after, hlong, -⟩ := List.lookup_eq_some_iff.mp hlookup
        exact .inr (.inr (.inr ⟨(c.toNat, ns), by simp [hlong], rfl⟩))

/-- The lower case of a character consists of characters in lower case, and none of them is a blank
    unless the character is one. -/
theorem isLower_of_mem_lowerChar {c d : Char} (hd : d ∈ lowerChar c) :
    IsLower d ∧ (isBlank d = true → isBlank c = true) := by
  rcases lowerChar_cases c with hself | ⟨hascii, hc⟩ | ⟨r, hr, n, hn, hc⟩ | ⟨e, he, hc⟩
  · rw [hself, List.mem_singleton] at hd
    rw [hd]
    exact ⟨hself, id⟩
  · have letters : ∀ c : Char, c.toNat < 0x80 →
        IsLower c.toLower ∧ (isBlank c.toLower = true → isBlank c = true) :=
      forall_ascii (by decide)
    rw [hc] at hd
    rw [List.mem_singleton.mp hd]
    exact letters c hascii
  · obtain ⟨hlower, hblank⟩ := isLower_ofNat_image hr hn
    rw [hc] at hd
    rw [List.mem_singleton.mp hd]
    exact ⟨hlower, fun h => absurd (hblank.symm.trans h) Bool.false_ne_true⟩
  · have longer : ∀ e ∈ lowerLong, ∀ n ∈ e.2,
        IsLower (Char.ofNat n) ∧ isBlank (Char.ofNat n) = false := by decide
    rw [hc] at hd
    obtain ⟨n, hn, rfl⟩ := List.mem_map.mp hd
    obtain ⟨hlower, hblank⟩ := longer e he n hn
    exact ⟨hlower, fun h => absurd (hblank.symm.trans h) Bool.false_ne_true⟩

theorem lowerChar_ne_nil (c : Char) : lowerChar c ≠ [] := by
  rcases lowerChar_cases c with hc | ⟨-, hc⟩ | ⟨r, -, n, -, hc⟩ | ⟨e, he, hc⟩
  · simp [hc]
  · simp [hc]
  · simp [hc]
  · have longer : ∀ e ∈ lowerLong, e.2.map Char.ofNat ≠ [] := by decide
    rw [hc]
    exact longer e he

/-! ### The lower case of a text -/

/-- The lower case of a text begins with the image of its first character. -/
theorem lowerFrom_cons (before : List Char) (c : Char) (cs : List Char) :
    ∃ image, lowerFrom before (c :: cs) = image ++ lowerFrom (c :: before) cs ∧ image ≠ [] ∧
      ∀ d ∈ image, IsLower d ∧ (isBlank d = true → isBlank c = true) := by
  by_cases hc : c = '\u03a3'
  · -- Both forms of the small sigma are in lower case, so it does not matter which one is taken.
    by_cases hfinal : startsCased before && !startsCased cs
    · refine ⟨['\u03c2'], by simp [lowerFrom, hc, hfinal], by simp, fun d hd => ?_⟩
      rw [hc, List.mem_singleton.mp hd]
      decide
    · refine ⟨['\u03c3'], by simp [lowerFrom, hc, hfinal], by simp, fun d hd => ?_⟩
      rw [hc, List.mem_singleton.mp hd]
      decide
  · exact ⟨lowerChar c, by simp [lowerFrom, hc], lowerChar_ne_nil c,
      fun d hd => isLower_of_mem_lowerChar hd⟩

theorem isLower_of_mem_lowerFrom {before cs : List Char} {d : Char} (hd : d ∈ lowerFrom before cs) :
    IsLower d := by
  induction cs generalizing before with
  | nil => simp [lowerFrom] at hd
  | cons c cs ih =>
    obtain ⟨image, heq, -, himage⟩ := lowerFrom_cons before c cs
    rw [heq, List.mem_append] at hd
    rcases hd with hd | hd
    · exact (himage d hd).1
    · exact ih hd

/-- A text of characters in lower case is its own lower case, since a capital sigma is not in
    lower case. -/
theorem lowerFrom_eq_self {before cs : List Char} (h : ∀ c ∈ cs, IsLower c) :
    lowerFrom before cs = cs := by
  induction cs generalizing before with
  | nil => rfl
  | cons c cs ih =>
    have hc : IsLower c := h c List.mem_cons_self
    have hsigma : c ≠ '\u03a3' := by
      rintro rfl
      exact absurd hc (by decide)
    rw [lowerFrom, ih fun d hd => h d (List.mem_cons_of_mem _ hd), if_neg hsigma, hc]
    rfl

/-- **Lower case is idempotent.** -/
theorem lowerChars_lowerChars (cs : List Char) : lowerChars (lowerChars cs) = lowerChars cs :=
  lowerFrom_eq_self fun _ hd => isLower_of_mem_lowerFrom hd

/-- The lower case of a trimmed text is trimmed. -/
theorem trimmed_lowerChars {cs : List Char} (h : Trimmed cs) : Trimmed (lowerChars cs) where
  head := by
    cases cs with
    | nil => simp [lowerChars, lowerFrom]
    | cons c cs =>
      obtain ⟨image, heq, hne, himage⟩ := lowerFrom_cons [] c cs
      obtain ⟨d, ds, rfl⟩ := List.exists_cons_of_ne_nil hne
      have hc : isBlank c = false := h.head c rfl
      have hd := (himage d List.mem_cons_self).2
      rw [lowerChars, heq]
      simpa [hc] using hd
  last := by
    -- The last character of the text decides, whatever stands before it.
    suffices hfrom : ∀ before cs, (∀ c ∈ cs.getLast?, isBlank c = false) →
        ∀ d ∈ (lowerFrom before cs).getLast?, isBlank d = false from hfrom [] cs h.last
    intro before cs hlast
    induction cs generalizing before with
    | nil => simp [lowerFrom]
    | cons c cs ih =>
      obtain ⟨image, heq, hne, himage⟩ := lowerFrom_cons before c cs
      rw [heq]
      cases cs with
      | nil =>
        have hc : isBlank c = false := hlast c rfl
        intro d hd
        rw [lowerFrom, List.append_nil] at hd
        have hblank := (himage d (List.mem_of_getLast? hd)).2
        simpa [hc] using hblank
      | cons c' cs =>
        obtain ⟨image', heq', hne', -⟩ := lowerFrom_cons (c :: before) c' cs
        have hrest : (lowerFrom (c :: before) (c' :: cs)).getLast? ≠ none := by
          rw [heq', ne_eq, List.getLast?_eq_none_iff]
          simp [hne']
        rw [List.getLast?_append, Option.or_of_isSome (Option.isSome_iff_ne_none.mpr hrest)]
        exact ih (c :: before) (by simpa using hlast)

/-! ### Lower case and the blanks around a text -/

/-- A blank is in lower case, and a word ends there: it has no case and is not skipped. -/
theorem isLower_of_isBlank {c : Char} (h : isBlank c = true) :
    IsLower c ∧ isCased c = false ∧ isCaseIgnorable c = false := by
  have blanks : ∀ range ∈ blankRanges, ∀ n ∈ List.range' range.1 (range.2 + 1 - range.1),
      IsLower (Char.ofNat n) ∧ isCased (Char.ofNat n) = false ∧
        isCaseIgnorable (Char.ofNat n) = false := by
    decide +kernel
  obtain ⟨range, hrange, hfirst, hlast⟩ := isBlank_iff.mp h
  have hn := blanks range hrange c.toNat (List.mem_range'_1.mpr (by omega))
  rwa [Char.ofNat_toNat] at hn

/-- Blanks behind a word do not count when it is looked at. -/
theorem startsCased_append_of_isBlank {cs blanks : List Char}
    (h : ∀ c ∈ blanks, isBlank c = true) : startsCased (cs ++ blanks) = startsCased cs := by
  rw [startsCased, startsCased, List.dropWhile_append]
  cases cs.dropWhile isCaseIgnorable with
  | cons d ds => rfl
  | nil =>
    -- All of the word is skipped, so the first blank is looked at, which has no case.
    cases blanks with
    | nil => rfl
    | cons b blanks =>
      obtain ⟨-, huncased, hstops⟩ := isLower_of_isBlank (h b List.mem_cons_self)
      rw [List.isEmpty_nil, if_pos rfl, List.dropWhile_cons_of_neg (by simp [hstops])]
      exact huncased

/-- Blanks stay, and do not count for what stands behind them. -/
theorem lowerFrom_blanks_append {blanks : List Char} (h : ∀ c ∈ blanks, isBlank c = true)
    (before cs : List Char) :
    lowerFrom before (blanks ++ cs) = blanks ++ lowerFrom (blanks.reverse ++ before) cs := by
  induction blanks generalizing before with
  | nil => rfl
  | cons b blanks ih =>
    have hlower : lowerChar b = [b] := (isLower_of_isBlank (h b List.mem_cons_self)).1
    have hsigma : b ≠ '\u03a3' := by
      rintro rfl
      exact absurd hlower (by decide)
    rw [List.cons_append, lowerFrom, if_neg hsigma, hlower,
      ih fun c hc => h c (List.mem_cons_of_mem _ hc)]
    simp

/-- The lower case of a text goes by the text and not by the blanks around it. -/
theorem lowerFrom_append_blanks {front back : List Char} (hfront : ∀ c ∈ front, isBlank c = true)
    (hback : ∀ c ∈ back, isBlank c = true) (before cs : List Char) :
    lowerFrom (before ++ front) (cs ++ back) = lowerFrom before cs ++ back := by
  induction cs generalizing before with
  | nil =>
    have hlower : ∀ c ∈ back, IsLower c := fun c hc => (isLower_of_isBlank (hback c hc)).1
    rw [List.nil_append, lowerFrom_eq_self hlower, lowerFrom, List.nil_append]
  | cons c cs ih =>
    rw [List.cons_append, lowerFrom, lowerFrom, startsCased_append_of_isBlank hfront,
      startsCased_append_of_isBlank hback, ← List.cons_append, ih, List.append_assoc]

/-- **Trimming and lower case** may be done in either order. -/
theorem trimChars_lowerChars (cs : List Char) :
    trimChars (lowerChars cs) = lowerChars (trimChars cs) := by
  obtain ⟨front, back, hfront, hback, hcs⟩ := padded_trimChars cs
  have hpadded : Padded (lowerChars (trimChars cs)) (lowerChars cs) := by
    refine ⟨front, back, hfront, hback, ?_⟩
    have hreverse : ∀ c ∈ front.reverse, isBlank c = true := fun c hc =>
      hfront c (List.mem_reverse.mp hc)
    have houter : lowerFrom ([] ++ front.reverse) (trimChars cs ++ back)
        = lowerFrom [] (trimChars cs) ++ back := lowerFrom_append_blanks hreverse hback [] _
    calc lowerChars cs = lowerFrom [] (front ++ (trimChars cs ++ back)) := by
          rw [← List.append_assoc, ← hcs, lowerChars]
      _ = front ++ lowerFrom ([] ++ front.reverse) (trimChars cs ++ back) := by
          rw [lowerFrom_blanks_append hfront, List.append_nil, List.nil_append]
      _ = front ++ lowerChars (trimChars cs) ++ back := by
          rw [houter, List.append_assoc, lowerChars]
  exact hpadded.trimChars_eq (trimmed_lowerChars (trimmed_trimChars cs))

/-- **Lower case of ASCII** goes letter by letter, whatever stands around. -/
theorem lowerChars_of_ascii {cs : List Char} (h : ∀ c ∈ cs, c.toNat < 0x80) :
    lowerChars cs = cs.map Char.toLower := by
  suffices hfrom : ∀ before, lowerFrom before cs = cs.map Char.toLower from hfrom []
  induction cs with
  | nil => exact fun _ => rfl
  | cons c cs ih =>
    intro before
    have hc : c.toNat < 0x80 := h c List.mem_cons_self
    -- Only a capital sigma is lowered by what stands around it, and it is none of these.
    have hsigma : c ≠ '\u03a3' := by
      rintro rfl
      exact absurd hc (by decide)
    have hrest := ih (fun d hd => h d (List.mem_cons_of_mem _ hd)) (c :: before)
    rw [lowerFrom, if_neg hsigma, hrest, lowerChar, if_pos hc]
    rfl

end MediaGraph.Text
