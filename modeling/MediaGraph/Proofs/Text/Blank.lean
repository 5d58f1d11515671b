import Mathlib.Data.List.TakeWhile
import MediaGraph.Text.Blank

namespace MediaGraph.Text

/-!
# Trimmed texts, and texts cut at a character

* `Trimmed` — no blank stands at an end; `trimmed_trimChars`, `trimChars_eq_self` — that is what
  trimming gives and leaves alone.
* `Padded`, `Padded.trimChars_eq` — blanks around a trimmed text are what trimming takes away.
* `splitChars_append`, `cutFirst?_append` — a text is cut where the separator first stands.
* `splitChars_eq_iff`, `cutFirst?_eq_some_iff` — the pieces of a text, told by what they are joined
  to.
* `afterLast_eq_self`, `not_mem_afterLast` — what stands behind the last separator.
-/

variable {cs ds : List Char} {c sep : Char}

/-! ### Blanks at the ends -/

/-- Whether neither the first nor the last character is a blank. -/
structure Trimmed (cs : List Char) : Prop where
  head : ∀ c ∈ cs.head?, isBlank c = false
  last : ∀ c ∈ cs.getLast?, isBlank c = false

theorem trimStart_eq_self (h : ∀ c ∈ cs.head?, isBlank c = false) : trimStart cs = cs := by
  cases cs with
  | nil => rfl
  | cons c cs => simp [trimStart, h c rfl]

theorem trimEnd_eq_self (h : ∀ c ∈ cs.getLast?, isBlank c = false) : trimEnd cs = cs := by
  have hreverse : trimStart cs.reverse = cs.reverse :=
    trimStart_eq_self (by simpa only [List.head?_reverse] using h)
  rw [trimStart] at hreverse
  rw [trimEnd, hreverse, List.reverse_reverse]

/-- A trimmed text has nothing to trim. -/
theorem trimChars_eq_self (h : Trimmed cs) : trimChars cs = cs := by
  rw [trimChars, trimStart_eq_self h.head, trimEnd_eq_self h.last]

/-- A blank in front is trimmed. -/
theorem trimChars_cons_of_isBlank (hc : isBlank c = true) : trimChars (c :: cs) = trimChars cs := by
  rw [trimChars, trimChars, trimStart, List.dropWhile_cons_of_pos hc, trimStart]

/-- A blank at the end is trimmed. -/
theorem trimEnd_append_of_isBlank (hc : isBlank c = true) : trimEnd (cs ++ [c]) = trimEnd cs := by
  rw [trimEnd, trimEnd, List.reverse_append, List.reverse_singleton, List.singleton_append,
    List.dropWhile_cons_of_pos hc]

/-- What ends in no blank has nothing to trim at its end. -/
theorem trimEnd_append_of_not_isBlank (hc : isBlank c = false) :
    trimEnd (cs ++ [c]) = cs ++ [c] :=
  trimEnd_eq_self (by simp [hc])

/-- Trimming at the end stops at the last character that is no blank. -/
theorem trimEnd_cons_of_not_isBlank (hc : isBlank c = false) :
    trimEnd (c :: cs) = c :: trimEnd cs := by
  rw [trimEnd, List.reverse_cons, List.dropWhile_append]
  split
  · rename_i hempty
    rw [trimEnd, List.isEmpty_iff.mp hempty]
    simp [hc]
  · rw [List.reverse_append, List.reverse_singleton, List.singleton_append, trimEnd]

/-- What begins with no blank is trimmed at its end only. -/
theorem trimChars_cons_of_not_isBlank (hc : isBlank c = false) :
    trimChars (c :: cs) = c :: trimEnd cs := by
  rw [trimChars, trimStart_eq_self (by simpa using hc), trimEnd_cons_of_not_isBlank hc]

/-- A text is trimmed by trimming. -/
theorem trimmed_trimChars (cs : List Char) : Trimmed (trimChars cs) where
  head := by
    rw [trimChars]
    cases h : trimStart cs with
    | nil => simp [trimEnd]
    | cons c rest =>
      have hc : isBlank c = false := by
        have hhead := List.head?_dropWhile_not isBlank cs
        rw [← trimStart, h] at hhead
        simpa using hhead
      rw [trimEnd_cons_of_not_isBlank hc]
      simpa using hc
  last := by
    rw [trimChars, trimEnd, List.getLast?_reverse]
    intro c hc
    have hhead := List.head?_dropWhile_not isBlank (trimStart cs).reverse
    rw [Option.mem_def.mp hc] at hhead
    simpa using hhead

/-! ### Blanks around a text -/

/-- Whether `cs` is `core` with blanks in front of it and behind it, any number of them. -/
def Padded (core cs : List Char) : Prop :=
  ∃ front back, (∀ c ∈ front, isBlank c = true) ∧ (∀ c ∈ back, isBlank c = true) ∧
    cs = front ++ core ++ back

/-- A text is what trimming leaves of it, with blanks around. -/
theorem padded_trimChars (cs : List Char) : Padded (trimChars cs) cs := by
  have hfront : cs = cs.takeWhile isBlank ++ trimStart cs := List.takeWhile_append_dropWhile.symm
  have hback : trimStart cs
      = trimChars cs ++ ((trimStart cs).reverse.takeWhile isBlank).reverse := by
    rw [trimChars, trimEnd, ← List.reverse_append, List.takeWhile_append_dropWhile,
      List.reverse_reverse]
  refine ⟨cs.takeWhile isBlank, ((trimStart cs).reverse.takeWhile isBlank).reverse, ?_, ?_, ?_⟩
  · intro c hc
    exact List.mem_takeWhile_imp hc
  · intro c hc
    exact List.mem_takeWhile_imp (List.mem_reverse.mp hc)
  · rw [List.append_assoc, ← hback, ← hfront]

/-- Blanks around a trimmed text are taken away by trimming. -/
theorem Padded.trimChars_eq {core : List Char} (h : Padded core cs) (hcore : Trimmed core) :
    trimChars cs = core := by
  obtain ⟨front, back, hfront, hback, rfl⟩ := h
  have hstart : trimStart (front ++ core ++ back) = trimStart (core ++ back) := by
    rw [List.append_assoc, trimStart, List.dropWhile_append_of_pos hfront, trimStart]
  have hend : trimEnd (core ++ back) = core := by
    rw [trimEnd, List.reverse_append,
      List.dropWhile_append_of_pos fun c hc => hback c (List.mem_reverse.mp hc), ← trimEnd,
      trimEnd_eq_self hcore.last]
  cases core with
  | nil =>
    -- Nothing stands between the blanks, so trimming at the start takes all of them.
    have hall : trimStart back = [] := List.dropWhile_eq_nil_iff.mpr hback
    rw [trimChars, hstart, List.nil_append, hall]
    rfl
  | cons c core =>
    have hhead : trimStart (c :: core ++ back) = c :: core ++ back :=
      trimStart_eq_self fun d hd => hcore.head d hd
    rw [trimChars, hstart, hhead, hend]

/-- What stands in a padded text is a blank or stands in the middle. -/
theorem Padded.isBlank_or_mem {core : List Char} (h : Padded core cs) (hc : c ∈ cs) :
    isBlank c = true ∨ c ∈ core := by
  obtain ⟨front, back, hfront, hback, rfl⟩ := h
  rcases List.mem_append.mp hc with hc | hc
  · rcases List.mem_append.mp hc with hc | hc
    · exact .inl (hfront c hc)
    · exact .inr hc
  · exact .inl (hback c hc)

/-- What stands in the middle of a padded text stands in it. -/
theorem Padded.subset {core : List Char} (h : Padded core cs) : core ⊆ cs := by
  obtain ⟨front, back, -, -, rfl⟩ := h
  intro c hc
  exact List.mem_append_left _ (List.mem_append_right _ hc)

/-! ### Pieces -/

/-- The first piece ends where the separator first stands. -/
theorem splitChars_append (h : sep ∉ cs) :
    splitChars sep (cs ++ sep :: ds) = cs :: splitChars sep ds := by
  induction cs with
  | nil => simp [splitChars]
  | cons c cs ih =>
    have hc : c ≠ sep := fun heq => h (heq ▸ List.mem_cons_self)
    have hcs : sep ∉ cs := fun hmem => h (List.mem_cons_of_mem _ hmem)
    rw [List.cons_append, splitChars, if_neg hc, ih hcs]

/-- A text without the separator is one piece. -/
theorem splitChars_of_not_mem (h : sep ∉ cs) : splitChars sep cs = [cs] := by
  induction cs with
  | nil => rfl
  | cons c cs ih =>
    have hc : c ≠ sep := fun heq => h (heq ▸ List.mem_cons_self)
    have hcs : sep ∉ cs := fun hmem => h (List.mem_cons_of_mem _ hmem)
    rw [splitChars, if_neg hc, ih hcs]

/-- A text is cut where the separator first stands. -/
theorem cutFirst?_append (h : sep ∉ cs) : cutFirst? sep (cs ++ sep :: ds) = some (cs, ds) := by
  induction cs with
  | nil => simp [cutFirst?]
  | cons c cs ih =>
    have hc : c ≠ sep := fun heq => h (heq ▸ List.mem_cons_self)
    have hcs : sep ∉ cs := fun hmem => h (List.mem_cons_of_mem _ hmem)
    rw [List.cons_append, cutFirst?, if_neg hc, ih hcs]
    rfl

/-- The two parts of a text that is cut are what stands around the first separator. -/
theorem cutFirst?_eq_some_iff {front back : List Char} :
    cutFirst? sep cs = some (front, back) ↔ cs = front ++ sep :: back ∧ sep ∉ front := by
  refine ⟨fun h => ?_, fun ⟨hcs, hfront⟩ => hcs ▸ cutFirst?_append hfront⟩
  induction cs generalizing front with
  | nil => cases h
  | cons c cs ih =>
    rw [cutFirst?] at h
    by_cases hc : c = sep
    · rw [if_pos hc, Option.some.injEq, Prod.mk.injEq] at h
      obtain ⟨rfl, rfl⟩ := h
      simp [hc]
    · rw [if_neg hc, Option.map_eq_some_iff] at h
      obtain ⟨⟨front', back'⟩, hcut, heq⟩ := h
      rw [Prod.mk.injEq] at heq
      obtain ⟨rfl, rfl⟩ := heq
      obtain ⟨rfl, hfront'⟩ := ih hcut
      exact ⟨rfl, by simp [hfront', Ne.symm hc]⟩

/-- A text is cut unless it does not hold the separator. -/
theorem cutFirst?_eq_none_iff : cutFirst? sep cs = none ↔ sep ∉ cs := by
  induction cs with
  | nil => simp [cutFirst?]
  | cons c cs ih =>
    rw [cutFirst?]
    by_cases hc : c = sep
    · simp [hc]
    · simp [hc, ih, Ne.symm hc]

/-- The pieces between the separators are those of the library's list function. -/
theorem splitChars_eq_splitOn (sep : Char) (cs : List Char) :
    splitChars sep cs = cs.splitOn sep := by
  induction cs with
  | nil => rfl
  | cons c cs ih =>
    rw [splitChars, List.splitOn, List.splitOnP_cons_eq_if_modifyHead, ← List.splitOn, ← ih]
    by_cases hc : c = sep
    · simp [hc]
    · obtain ⟨p, ps, hps⟩ := List.exists_cons_of_ne_nil (splitChars_ne_nil sep cs)
      simp [hc, hps]

theorem not_mem_of_mem_splitChars {piece : List Char} (h : piece ∈ splitChars sep cs) :
    sep ∉ piece := by
  induction cs generalizing piece with
  | nil => simp_all [splitChars]
  | cons c cs ih =>
    obtain ⟨p, ps, hps⟩ := List.exists_cons_of_ne_nil (splitChars_ne_nil sep cs)
    rw [splitChars] at h
    split at h
    · rcases List.mem_cons.mp h with rfl | h
      · exact List.not_mem_nil
      · exact ih h
    · rename_i hc
      rw [hps] at h ih
      rcases List.mem_cons.mp h with rfl | h
      · have hp := ih List.mem_cons_self
        simp [hp, Ne.symm hc]
      · exact ih (List.mem_cons_of_mem _ h)

/-- **The pieces of a text** are those without the separator that give the text when they are joined
    by it. -/
theorem splitChars_eq_iff {pieces : List (List Char)} :
    splitChars sep cs = pieces ↔
      pieces ≠ [] ∧ [sep].intercalate pieces = cs ∧ ∀ piece ∈ pieces, sep ∉ piece := by
  rw [splitChars_eq_splitOn]
  constructor
  · rintro rfl
    rw [← splitChars_eq_splitOn]
    refine ⟨splitChars_ne_nil sep cs, ?_, fun piece => not_mem_of_mem_splitChars⟩
    rw [splitChars_eq_splitOn, List.intercalate_splitOn]
  · rintro ⟨hne, rfl, hpieces⟩
    exact List.splitOn_intercalate sep hpieces hne

/-! ### Behind the last separator -/

/-- A text without the separator is all that stands behind it. -/
theorem afterLast_eq_self (h : sep ∉ cs) : afterLast sep cs = cs := by
  rw [afterLast, cutLast?, cutFirst?_eq_none_iff.mpr (by simpa using h)]
  rfl

theorem not_mem_afterLast (sep : Char) (cs : List Char) : sep ∉ afterLast sep cs := by
  rw [afterLast, cutLast?]
  cases hcut : cutFirst? sep cs.reverse with
  | none => simpa using cutFirst?_eq_none_iff.mp hcut
  | some parts => simpa using (cutFirst?_eq_some_iff.mp hcut).2

theorem afterLast_subset (sep : Char) (cs : List Char) : afterLast sep cs ⊆ cs := by
  rw [afterLast, cutLast?]
  cases hcut : cutFirst? sep cs.reverse with
  | none => exact List.Subset.refl cs
  | some parts =>
    obtain ⟨front, back⟩ := parts
    intro c hc
    have hmem : c ∈ cs.reverse := by
      rw [(cutFirst?_eq_some_iff.mp hcut).1]
      exact List.mem_append_left _ (List.mem_reverse.mp hc)
    exact List.mem_reverse.mp hmem

/-- A text that does not hold a character is not changed where it is replaced. -/
theorem replaceChar_eq_self {old new : Char} (h : old ∉ cs) : replaceChar old new cs = cs := by
  have hsame : ∀ c ∈ cs, (if c = old then new else c) = id c := by
    intro c hc
    rw [if_neg fun heq : c = old => h (heq ▸ hc), id]
  rw [replaceChar, List.map_congr_left hsame, List.map_id]

theorem not_mem_replaceChar {old new : Char} (h : new ≠ old) (cs : List Char) :
    old ∉ replaceChar old new cs := by
  intro hmem
  obtain ⟨c, -, hc⟩ := List.mem_map.mp hmem
  split at hc
  · exact h hc
  · contradiction

end MediaGraph.Text
