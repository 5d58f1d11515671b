import MediaGraph.Proofs.Text.Blank
import MediaGraph.Proofs.Text.GlobSet

namespace MediaGraph.Text

/-!
# What a pattern matches

A pattern is a text, and what it matches is told by what stands in front of it: `*` matches any run
of characters, `?` any character, a closed bracket one of the characters that its inside stands for.
Everything else, a bracket that is not closed included, stands for itself.

* `SetInside`, `GlobMatches` — the inside of a bracket, and what a pattern matches.
* `cutSet?_eq_some_iff` — where a bracket is closed.
* `matchItems_run_iff`, `matchItems_cons_iff` — what the items of a pattern match, one by one.
* `matchItems_readGlob_iff`, `globMatches_iff` — a name is found to match where it matches.
-/

/-! ### Patterns -/

/-- Whether some characters can be the inside of a bracket: behind a mark, or without one, there is
    a character, which can be any, and no closing bracket behind it. -/
def SetInside (inside : List Char) : Prop :=
  ∃ mark first rest, inside = mark ++ first :: rest ∧ (mark = ['!'] ∨ mark = [] ∧ first ≠ '!') ∧
    ']' ∉ rest

/-- Whether no bracket can be opened in front of some characters, since none behind closes it. -/
def Unclosed (cs : List Char) : Prop :=
  ∀ inside after, SetInside inside → cs ≠ inside ++ ']' :: after

/-- What a pattern matches. -/
inductive GlobMatches : List Char → List Char → Prop where
  | nil : GlobMatches [] []
  | run {pattern name before} (rest : GlobMatches pattern name) :
      GlobMatches ('*' :: pattern) (before ++ name)
  | any {pattern name c} (rest : GlobMatches pattern name) :
      GlobMatches ('?' :: pattern) (c :: name)
  | oneOf {inside pattern name c} (closed : SetInside inside) (admits : Admits inside c)
      (rest : GlobMatches pattern name) :
      GlobMatches ('[' :: (inside ++ ']' :: pattern)) (c :: name)
  | bracket {pattern name} (unclosed : Unclosed pattern) (rest : GlobMatches pattern name) :
      GlobMatches ('[' :: pattern) ('[' :: name)
  | char {pattern name c} (plain : c ∉ ['*', '?', '[']) (rest : GlobMatches pattern name) :
      GlobMatches (c :: pattern) (c :: name)

/-! ### Where a bracket is closed -/

section

variable {cs inside after mark rest : List Char} {first : Char}

/-- The cut at the first closing bracket, told by what stands up to it and from there on. -/
theorem cutFirst?_eq_tail? (cs : List Char) :
    cutFirst? ']' cs = (cs.dropWhile fun c => !decide (c = ']')).tail?.map fun after =>
      (cs.takeWhile fun c => !decide (c = ']'), after) := by
  induction cs with
  | nil => rfl
  | cons c cs ih =>
    rw [cutFirst?]
    by_cases hc : c = ']'
    · simp [hc]
    · rw [if_neg hc, ih, List.dropWhile_cons_of_pos (by simpa using hc),
        List.takeWhile_cons_of_pos (by simpa using hc), Option.map_map]
      rfl

/-- **The inside of a bracket** is the mark, any one character, and what stands before the first
    closing bracket behind it. -/
theorem cutSet?_eq (h : mark = ['!'] ∨ mark = [] ∧ first ≠ '!') :
    cutSet? (mark ++ first :: rest)
      = (cutFirst? ']' rest).map fun (before, after) => (mark ++ first :: before, after) := by
  rw [cutFirst?_eq_tail?]
  -- A closing bracket in front is passed by itself, any other character on the way to the next.
  by_cases hclose : first = ']'
  · subst hclose
    rcases h with rfl | ⟨rfl, -⟩
    · cases hdrop : rest.dropWhile fun c => !decide (c = ']') <;> simp [cutSet?, hdrop]
    · cases hdrop : rest.dropWhile fun c => !decide (c = ']') <;> simp [cutSet?, hdrop]
  · rcases h with rfl | ⟨rfl, hfirst⟩
    · cases hdrop : rest.dropWhile fun c => !decide (c = ']') <;> simp [cutSet?, hclose, hdrop]
    · cases hdrop : rest.dropWhile fun c => !decide (c = ']') <;>
        simp [cutSet?, hclose, hfirst, hdrop]

/-- A bracket is closed where what stands before can be its inside. -/
theorem cutSet?_eq_some_iff :
    cutSet? cs = some (inside, after) ↔ SetInside inside ∧ cs = inside ++ ']' :: after := by
  constructor
  · intro h
    -- There is a character behind the mark, since otherwise nothing closes the bracket.
    obtain ⟨mark, first, rest, rfl, hmark⟩ : ∃ mark first rest, cs = mark ++ first :: rest ∧
        (mark = ['!'] ∨ mark = [] ∧ first ≠ '!') := by
      cases cs with
      | nil => cases h
      | cons a cs =>
        by_cases ha : a = '!'
        · subst ha
          cases cs with
          | nil => cases h
          | cons first rest => exact ⟨['!'], first, rest, rfl, .inl rfl⟩
        · exact ⟨[], a, cs, rfl, .inr ⟨rfl, ha⟩⟩
    rw [cutSet?_eq hmark, Option.map_eq_some_iff] at h
    obtain ⟨⟨before, after⟩, hcut, heq⟩ := h
    cases heq
    obtain ⟨rfl, hbefore⟩ := cutFirst?_eq_some_iff.mp hcut
    exact ⟨⟨mark, first, before, rfl, hmark, hbefore⟩, by simp⟩
  · rintro ⟨⟨mark, first, rest, rfl, hmark, hrest⟩, rfl⟩
    have hcut : cutFirst? ']' (rest ++ ']' :: after) = some (rest, after) :=
      cutFirst?_eq_some_iff.mpr ⟨rfl, hrest⟩
    rw [List.append_assoc, List.cons_append, cutSet?_eq hmark, hcut]
    rfl

/-- A bracket is not closed where no way of closing it is found. -/
theorem cutSet?_eq_none_iff : cutSet? cs = none ↔ Unclosed cs := by
  rw [Option.eq_none_iff_forall_ne_some, Prod.forall]
  simp only [ne_eq, cutSet?_eq_some_iff, not_and, Unclosed]

end

/-! ### Matching item by item -/

section

variable {items : List GlobItem} {item : GlobItem} {cs : List Char} {c : Char}

theorem matchTails_of_ne_run (h : item ≠ .run) (cs : List Char) (items : List GlobItem) :
    matchTails cs (item :: items)
      = List.zipWith (fun c rest => item.accepts c && rest) cs (matchTails cs items).tail
          ++ [false] := by
  cases item with
  | run => exact absurd rfl h
  | _ => rfl

/-- There is an answer for every tail, and the first is the one for all of the characters. -/
theorem matchTails_eq_cons (cs : List Char) (items : List GlobItem) :
    matchTails cs items = matchItems items cs :: (matchTails cs items).tail := by
  have hne : matchTails cs items ≠ [] := by
    induction items with
    | nil => simp [matchTails]
    | cons item items ih =>
      by_cases hitem : item = .run
      · obtain ⟨b, bs, hbs⟩ := List.exists_cons_of_ne_nil ih
        rw [hitem, matchTails, hbs]
        exact List.cons_ne_nil _ _
      · rw [matchTails_of_ne_run hitem]
        simp
  obtain ⟨b, bs, hbs⟩ := List.exists_cons_of_ne_nil hne
  rw [matchItems, hbs]
  rfl

/-- No tail stands behind the empty one. -/
theorem tail_matchTails_nil (items : List GlobItem) : (matchTails [] items).tail = [] := by
  induction items with
  | nil => rfl
  | cons item items ih =>
    by_cases hitem : item = .run
    · rw [hitem, matchTails, matchTails_eq_cons, ih]
      rfl
    · rw [matchTails_of_ne_run hitem]
      rfl

/-- **The answers behind the first** are those for what stands behind the first character. -/
theorem tail_matchTails (c : Char) (cs : List Char) (items : List GlobItem) :
    (matchTails (c :: cs) items).tail = matchTails cs items := by
  -- Every item works on the answers of the items behind it from the end of the name on.
  induction items with
  | nil => rfl
  | cons item items ih =>
    by_cases hitem : item = .run
    · rw [hitem, matchTails, matchTails_eq_cons, ih]
      rfl
    · rw [matchTails_of_ne_run hitem, matchTails_of_ne_run hitem, ih, matchTails_eq_cons cs items]
      rfl

/-- Where no item is left, nothing may be left of the characters. -/
theorem matchItems_nil_iff : matchItems [] cs = true ↔ cs = [] := by
  cases cs with
  | nil => exact iff_of_true rfl rfl
  | cons c cs => exact iff_of_false Bool.false_ne_true (List.cons_ne_nil c cs)

/-- An item that is no run matches one character. -/
theorem matchItems_cons_iff (h : item ≠ .run) :
    matchItems (item :: items) cs = true ↔
      ∃ c rest, cs = c :: rest ∧ item.accepts c = true ∧ matchItems items rest = true := by
  cases cs with
  | nil =>
    rw [matchItems, matchTails_of_ne_run h]
    simp
  | cons c cs =>
    have hstep : matchItems (item :: items) (c :: cs)
        = (item.accepts c && matchItems items cs) := by
      rw [matchItems, matchTails_of_ne_run h, tail_matchTails, matchTails_eq_cons]
      rfl
    rw [hstep, Bool.and_eq_true]
    constructor
    · intro hboth
      exact ⟨c, cs, rfl, hboth⟩
    · rintro ⟨_, _, ⟨⟩, hboth⟩
      exact hboth

/-- **A run matches** whatever stands before a tail that the other items match. -/
theorem matchItems_run_iff :
    matchItems (.run :: items) cs = true ↔ ∃ rest, rest <:+ cs ∧ matchItems items rest = true := by
  -- A run ends in front of the first character, or it is still a run behind it.
  induction cs with
  | nil =>
    rw [matchItems, matchTails, matchTails_eq_cons, tail_matchTails_nil]
    simp [anyFrom]
  | cons c cs ih =>
    have hstep : matchItems (.run :: items) (c :: cs)
        = (matchItems items (c :: cs) || matchItems (.run :: items) cs) := by
      rw [matchItems, matchTails, matchTails_eq_cons, tail_matchTails]
      rfl
    rw [hstep, Bool.or_eq_true, ih]
    simp only [List.suffix_cons_iff, or_and_right, exists_or, exists_eq_left]

end

/-! ### What is read off a pattern -/

section

variable {pattern name inside : List Char} {c : Char}

theorem globMatches_nil_iff : GlobMatches [] name ↔ name = [] := by
  constructor
  · rintro ⟨⟩
    rfl
  · rintro rfl
    exact .nil

theorem globMatches_run_iff :
    GlobMatches ('*' :: pattern) name ↔ ∃ rest, rest <:+ name ∧ GlobMatches pattern rest := by
  constructor
  · intro h
    cases h with
    | run rest => exact ⟨_, List.suffix_append _ _, rest⟩
    | char plain => simp at plain
  · rintro ⟨rest, ⟨before, rfl⟩, hrest⟩
    exact .run hrest

theorem globMatches_any_iff :
    GlobMatches ('?' :: pattern) name ↔ ∃ c rest, name = c :: rest ∧ GlobMatches pattern rest := by
  constructor
  · intro h
    cases h with
    | any rest => exact ⟨_, _, rfl, rest⟩
    | char plain => simp at plain
  · rintro ⟨c, rest, rfl, hrest⟩
    exact .any hrest

/-- A bracket that is closed can be closed in one way only. -/
theorem globMatches_oneOf_iff (closed : SetInside inside) :
    GlobMatches ('[' :: (inside ++ ']' :: pattern)) name ↔
      ∃ c rest, name = c :: rest ∧ Admits inside c ∧ GlobMatches pattern rest := by
  constructor
  · intro h
    -- The text does not show where the inside ends, but the cut does.
    generalize hopened : inside ++ ']' :: pattern = opened at h
    have hcut : cutSet? opened = some (inside, pattern) :=
      cutSet?_eq_some_iff.mpr ⟨closed, hopened.symm⟩
    cases h with
    | oneOf closed' admits rest =>
      rw [cutSet?_eq_some_iff.mpr ⟨closed', rfl⟩, Option.some.injEq, Prod.mk.injEq] at hcut
      obtain ⟨rfl, rfl⟩ := hcut
      exact ⟨_, _, rfl, admits, rest⟩
    | bracket unclosed => exact absurd hopened.symm (unclosed _ _ closed)
    | char plain => simp at plain
  · rintro ⟨c, rest, rfl, hadmits, hrest⟩
    exact .oneOf closed hadmits hrest

theorem globMatches_bracket_iff (unclosed : Unclosed pattern) :
    GlobMatches ('[' :: pattern) name ↔ ∃ rest, name = '[' :: rest ∧ GlobMatches pattern rest := by
  constructor
  · intro h
    cases h with
    | oneOf closed => exact absurd rfl (unclosed _ _ closed)
    | bracket _ rest => exact ⟨_, rfl, rest⟩
    | char plain => simp at plain
  · rintro ⟨rest, rfl, hrest⟩
    exact .bracket unclosed hrest

theorem globMatches_char_iff (plain : c ∉ ['*', '?', '[']) :
    GlobMatches (c :: pattern) name ↔ ∃ rest, name = c :: rest ∧ GlobMatches pattern rest := by
  constructor
  · intro h
    cases h with
    | char _ rest => exact ⟨_, rfl, rest⟩
    | _ => simp at plain
  · rintro ⟨rest, rfl, hrest⟩
    exact .char plain hrest

/-- An item that stands for one character matches this character. -/
theorem matchItems_char_iff {items : List GlobItem} :
    matchItems (.char c :: items) name = true ↔
      ∃ rest, name = c :: rest ∧ matchItems items rest = true := by
  have hchar : GlobItem.char c ≠ .run := nofun
  rw [matchItems_cons_iff hchar]
  constructor
  · rintro ⟨a, rest, rfl, ha, hrest⟩
    have hsame : c = a := of_decide_eq_true ha
    rw [hsame]
    exact ⟨rest, rfl, hrest⟩
  · rintro ⟨rest, rfl, hrest⟩
    exact ⟨c, rest, rfl, decide_eq_true rfl, hrest⟩

/-- An item that stands for any character matches any. -/
theorem matchItems_any_iff {items : List GlobItem} :
    matchItems (.any :: items) name = true ↔
      ∃ c rest, name = c :: rest ∧ matchItems items rest = true := by
  have hany : GlobItem.any ≠ .run := nofun
  rw [matchItems_cons_iff hany]
  simp only [GlobItem.accepts, true_and]

/-- A set that is read matches what the inside of the bracket stands for. -/
theorem matchItems_readSet_iff {items : List GlobItem} :
    matchItems (readSet inside :: items) name = true ↔
      ∃ c rest, name = c :: rest ∧ Admits inside c ∧ matchItems items rest = true := by
  have hset : readSet inside ≠ .run := by
    rw [readSet_eq]
    exact nofun
  simp only [matchItems_cons_iff hset, accepts_readSet_iff]

/-- **The items of a pattern match what the pattern matches.** -/
theorem matchItems_readGlob_iff {fuel : Nat} (hfuel : pattern.length ≤ fuel) :
    matchItems (readGlob fuel pattern) name = true ↔ GlobMatches pattern name := by
  -- Along the reading of the items: each constructor of the relation is one way to read on.
  fun_induction readGlob fuel pattern generalizing name with
  | case1 =>
    rw [List.eq_nil_of_length_eq_zero (Nat.le_zero.mp hfuel), matchItems_nil_iff,
      globMatches_nil_iff]
  | case2 => rw [matchItems_nil_iff, globMatches_nil_iff]
  | case3 fuel cs ih =>
    simp only [matchItems_run_iff, globMatches_run_iff, ih (Nat.le_of_succ_le_succ hfuel)]
  | case4 fuel cs ih =>
    simp only [matchItems_any_iff, globMatches_any_iff, ih (Nat.le_of_succ_le_succ hfuel)]
  | case5 fuel cs hcut ih =>
    have hunclosed : Unclosed cs := cutSet?_eq_none_iff.mp hcut
    simp only [matchItems_char_iff, globMatches_bracket_iff hunclosed,
      ih (Nat.le_of_succ_le_succ hfuel)]
  | case6 fuel cs inside after hcut ih =>
    obtain ⟨hclosed, rfl⟩ := cutSet?_eq_some_iff.mp hcut
    have hafter : after.length ≤ fuel := by
      simp only [List.length_cons, List.length_append] at hfuel
      omega
    simp only [matchItems_readSet_iff, globMatches_oneOf_iff hclosed, ih hafter]
  | case7 fuel c cs hrun hany hset ih =>
    have hplain : c ∉ ['*', '?', '['] := by
      simp only [List.mem_cons, List.not_mem_nil, or_false]
      rintro (h | h | h)
      · exact hrun h
      · exact hany h
      · exact hset h
    simp only [matchItems_char_iff, globMatches_char_iff hplain,
      ih (Nat.le_of_succ_le_succ hfuel)]

/-- **A name is found to match a pattern** exactly where it matches. -/
theorem globMatches_iff {pattern name : String} :
    globMatches pattern name = true ↔ GlobMatches pattern.toList name.toList :=
  matchItems_readGlob_iff (Nat.le_refl _)

end

end MediaGraph.Text
