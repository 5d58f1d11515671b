import MediaGraph.Proofs.MediaType.Normal
import Mathlib.Data.List.Dedup
import Mathlib.Data.List.Induction

namespace MediaGraph

/-!
# Merging parameters

Parameters are merged over those of a type in two passes.  The first takes names for the same that
agree in lower case, and the second, which builds the type, those that agree when they are trimmed
as well.  A name with blanks around it is a key of its own in the first pass, and of several
spellings of one name the second pass takes the one that came new last, with the value that was
given last under that spelling.

* `lastValue?` — the value of the last pair whose name is wanted.
* `Assoc.get?_putAll` — what a map answers after pairs were put one after another.
* `MediaType.newestSpelling?` — the spelling of a name that came new last.
* `MediaType.parameter?_withParameters_iff` — what a merged type answers for a name, and when that
  is the last value given for it.
* `MediaType.parameter?_withParameters_blank` — a type that answers with another value.
-/

/-! ### The last value -/

section

variable {κ ν : Type} {pairs : List (κ × ν)} {wanted : κ → Bool} {k : κ} {v : ν}

/-- The value of the last pair whose name is wanted. -/
def lastValue? (pairs : List (κ × ν)) (wanted : κ → Bool) : Option ν :=
  (pairs.reverse.find? fun p => wanted p.1).map (·.2)

/-- The last element with a property is followed by none that has it. -/
theorem find?_reverse_eq_some_iff {α : Type} {l : List α} {a : α} {p : α → Bool} :
    l.reverse.find? p = some a ↔
      ∃ before after, l = before ++ a :: after ∧ p a ∧ ∀ b ∈ after, p b = false := by
  rw [List.find?_eq_some_iff_append]
  constructor
  · rintro ⟨ha, after, before, hsplit, hafter⟩
    refine ⟨before.reverse, after.reverse, ?_, ha, fun b hb => ?_⟩
    · rw [← List.reverse_reverse l, hsplit, List.reverse_append, List.reverse_cons,
        List.append_assoc, List.singleton_append]
    · simpa using hafter b (List.mem_reverse.mp hb)
  · rintro ⟨before, after, rfl, ha, hafter⟩
    refine ⟨ha, after.reverse, before.reverse, by simp, fun b hb => ?_⟩
    simpa using hafter b (List.mem_reverse.mp hb)

theorem lastValue?_eq_some_iff :
    lastValue? pairs wanted = some v ↔
      ∃ before k after, pairs = before ++ (k, v) :: after ∧ wanted k ∧
        ∀ p ∈ after, wanted p.1 = false := by
  rw [lastValue?, Option.map_eq_some_iff]
  simp only [find?_reverse_eq_some_iff]
  constructor
  · rintro ⟨⟨k, _⟩, ⟨before, after, hsplit, hk, hafter⟩, rfl⟩
    exact ⟨before, k, after, hsplit, hk, hafter⟩
  · rintro ⟨before, k, after, hsplit, hk, hafter⟩
    exact ⟨(k, v), ⟨before, after, hsplit, hk, hafter⟩, rfl⟩

/-- There is no last value where no name is wanted. -/
theorem lastValue?_eq_none_iff :
    lastValue? pairs wanted = none ↔ ∀ p ∈ pairs, wanted p.1 = false := by
  simp [lastValue?]

/-- Names that are changed before the search are wanted for what they are changed to. -/
theorem lastValue?_map (f : κ → κ) :
    lastValue? (pairs.map fun p => (f p.1, p.2)) wanted
      = lastValue? pairs fun k => wanted (f k) := by
  rw [lastValue?, ← List.map_reverse, List.find?_map, Option.map_map]
  rfl

/-- **A map answers with the last value that was put**, and as before when none was. -/
theorem Assoc.get?_putAll [DecidableEq κ] (m : Assoc κ ν) (pairs : List (κ × ν)) (k : κ) :
    (m.putAll pairs).get? k = (lastValue? pairs fun k' => k' = k).or (m.get? k) := by
  ext v
  rw [Assoc.get?_putAll_eq_some_iff, Option.or_eq_some_iff, lastValue?_eq_some_iff,
    lastValue?_eq_none_iff]
  simp only [decide_eq_true_eq, decide_eq_false_iff_not]
  refine or_congr_left ⟨?_, ?_⟩
  · rintro ⟨before, after, hsplit, hafter⟩
    exact ⟨before, k, after, hsplit, rfl, hafter⟩
  · rintro ⟨before, _, after, hsplit, rfl, hafter⟩
    exact ⟨before, after, hsplit, hafter⟩

theorem Assoc.mem_keys_putAll [DecidableEq κ] {m : Assoc κ ν} :
    k ∈ (m.putAll pairs).keys ↔ k ∈ m.keys ++ pairs.map (·.1) := by
  induction pairs generalizing m with
  | nil => rw [List.map_nil, List.append_nil]; rfl
  | cons p pairs ih =>
    change k ∈ ((m.put p.1 p.2).putAll pairs).keys ↔ _
    rw [ih, Assoc.keys_put]
    by_cases hp : p.1 ∈ m.keys
    · rw [if_pos hp]
      simp only [List.mem_append, List.map_cons, List.mem_cons]
      -- The new key is an old one.
      have hold : k = p.1 → k ∈ m.keys := fun hk => hk ▸ hp
      tauto
    · rw [if_neg hp, List.map_cons, List.append_assoc, List.singleton_append]

end

namespace MediaType

variable {t : MediaType} {n s k : String} {written names : List String}
  {pairs : List (String × String)}

/-! ### Spellings of a name -/

/-- A name in lower case has the same normal form. -/
theorem normalName_lower (name : String) : normalName (Text.lower name) = normalName name := by
  apply String.toList_inj.mp
  rw [toList_normalName, toList_normalName, Text.lower, String.toList_ofList,
    Text.trimChars_lowerChars, Text.lowerChars_lowerChars]

theorem lower_lower (name : String) : Text.lower (Text.lower name) = Text.lower name := by
  apply String.toList_inj.mp
  simp only [Text.lower, String.toList_ofList, Text.lowerChars_lowerChars]

/-- Of the spellings of the name `n`, the one whose first use comes last. -/
def newestSpelling? (n : String) (written : List String) : Option String :=
  written.reverse.dedup.find? fun s => normalName s == n

theorem newestSpelling?_concat :
    newestSpelling? n (written ++ [k])
      = if normalName k = n ∧ k ∉ written then some k else newestSpelling? n written := by
  rw [newestSpelling?, List.reverse_concat]
  by_cases hold : k ∈ written
  · rw [List.dedup_cons_of_mem (List.mem_reverse.mpr hold), if_neg fun h => h.2 hold,
      newestSpelling?]
  · rw [List.dedup_cons_of_notMem (mt List.mem_reverse.mp hold), List.find?_cons]
    by_cases hname : normalName k = n
    · rw [if_pos ⟨hname, hold⟩, beq_iff_eq.mpr hname]
    · rw [if_neg fun h => hname h.1, beq_eq_false_iff_ne.mpr hname, newestSpelling?]

/-- The newest spelling is one of those that were written. -/
theorem newestSpelling?_some (h : newestSpelling? n written = some s) :
    normalName s = n ∧ s ∈ written := by
  have hname := List.find?_some h
  have hmem := List.mem_of_find?_eq_some h
  rw [beq_iff_eq] at hname
  rw [List.mem_dedup, List.mem_reverse] at hmem
  exact ⟨hname, hmem⟩

theorem newestSpelling?_eq_none_iff :
    newestSpelling? n written = none ↔ ∀ k ∈ written, normalName k ≠ n := by
  simp [newestSpelling?]

/-- Putting pairs into a map leaves its keys with the same newest spelling as writing them down. -/
theorem newestSpelling?_keys_putAll (m : Assoc String String) (pairs : List (String × String)) :
    newestSpelling? n (m.putAll pairs).keys = newestSpelling? n (m.keys ++ pairs.map (·.1)) := by
  induction pairs using List.reverseRecOn with
  | nil => rw [List.map_nil, List.append_nil]; rfl
  | append_singleton pairs p ih =>
    have hput : m.putAll (pairs ++ [p]) = (m.putAll pairs).put p.1 p.2 :=
      Assoc.putAll_append m pairs [p]
    rw [hput, Assoc.keys_put, List.map_append, List.map_singleton, ← List.append_assoc,
      newestSpelling?_concat, ← ih]
    simp only [← Assoc.mem_keys_putAll]
    by_cases hold : p.1 ∈ (m.putAll pairs).keys
    · rw [if_pos hold, if_neg fun h => h.2 hold]
    · rw [if_neg hold, newestSpelling?_concat]

/-- Of the values in a map, the last one with a name is that of its newest spelling. -/
theorem lastValue?_entries {m : Assoc String String} (h : m.keys.Nodup) :
    (lastValue? m.entries fun k => normalName k == n) = (newestSpelling? n m.keys).bind m.get? := by
  obtain ⟨es⟩ := m
  change (es.map (·.1)).Nodup at h
  change _ = (newestSpelling? n (es.map (·.1))).bind (Assoc.mk es).get?
  have hreverse : (es.map (·.1)).reverse.Nodup := List.nodup_reverse.mpr h
  rw [newestSpelling?, hreverse.dedup, ← List.map_reverse, List.find?_map, lastValue?]
  cases hlast : es.reverse.find? fun p => normalName p.1 == n with
  | none =>
    have hnone : es.reverse.find? ((fun k => normalName k == n) ∘ (·.1)) = none := hlast
    rw [hnone]
    rfl
  | some p =>
    have hsome : es.reverse.find? ((fun k => normalName k == n) ∘ (·.1)) = some p := hlast
    have hmem : (p.1, p.2) ∈ es := List.mem_reverse.mp (List.mem_of_find?_eq_some hlast)
    rw [hsome]
    exact ((Assoc.mem_entries_iff_get? h).mp hmem).symm

/-! ### What a type answers for a name -/

theorem lower_eq_self_of_normal (hn : normalName n = n) : Text.lower n = n := by
  rw [← hn, lower_normalName]

/-- A type answers for a normal name with the last value that it was built with. -/
theorem parameter?_of (type subtype : String) (pairs : List (String × String))
    (hn : normalName n = n) :
    (of type subtype pairs).parameter? n = lastValue? pairs fun k => normalName k == n := by
  have hnodup : (Assoc.mk (normalParameters pairs)).keys.Nodup :=
    (ordered_normalParameters pairs).nodup
  rw [parameter?, lower_eq_self_of_normal hn]
  ext v
  change (Assoc.mk (normalParameters pairs)).get? n = some v ↔ _
  rw [← Assoc.mem_entries_iff_get? hnodup, mem_normalParameters_iff, lastValue?_eq_some_iff]
  simp only [beq_iff_eq, beq_eq_false_iff_ne, ne_eq]

/-- The spellings that merging `names` over the parameters of a type goes through, in their order. -/
def spellings (t : MediaType) (names : List String) : List String :=
  t.parameters.map (·.1) ++ names.map Text.lower

theorem lower_of_mem_spellings (ht : t.Normal) (hs : s ∈ t.spellings names) : Text.lower s = s := by
  rcases List.mem_append.mp hs with hs | hs
  · obtain ⟨p, hp, rfl⟩ := List.mem_map.mp hs
    exact lower_eq_self_of_normal (ht.names p hp)
  · obtain ⟨name, -, rfl⟩ := List.mem_map.mp hs
    exact lower_lower name

/-- A merged type answers with what was last given under the newest spelling of the name, or with
    what the type had under it. -/
theorem parameter?_withParameters (ht : t.Normal) (hn : normalName n = n)
    (pairs : List (String × String)) :
    (t.withParameters pairs).parameter? n =
      (newestSpelling? n (t.spellings (pairs.map (·.1)))).bind fun s =>
        (lastValue? pairs fun k => Text.lower k = s).or (t.parameter? s) := by
  have hnodup : ((Assoc.mk t.parameters).putAll
      (pairs.map fun p => (Text.lower p.1, p.2))).keys.Nodup :=
    Assoc.nodup_keys_putAll (m := Assoc.mk t.parameters) ht.ordered.nodup _
  have hnames : (pairs.map fun p => (Text.lower p.1, p.2)).map (·.1)
      = (pairs.map (·.1)).map Text.lower := by
    rw [List.map_map, List.map_map]
    rfl
  rw [withParameters, parameter?_of _ _ _ hn, lastValue?_entries hnodup,
    newestSpelling?_keys_putAll, hnames]
  change (newestSpelling? n (t.spellings (pairs.map (·.1)))).bind _ = _
  cases hs : newestSpelling? n (t.spellings (pairs.map (·.1))) with
  | none => rfl
  | some s =>
    have hlower : Text.lower s = s := lower_of_mem_spellings ht (newestSpelling?_some hs).2
    change Assoc.get? _ s = (lastValue? pairs fun k => Text.lower k = s).or (t.parameter? s)
    rw [Assoc.get?_putAll, lastValue?_map, parameter?, hlower]
    rfl

/-- A spelling is the name itself, or it is that of a given name. -/
theorem eq_or_exists_of_mem_spellings (ht : t.Normal) (hs : s ∈ t.spellings names)
    (hname : normalName s = n) :
    s = n ∨ ∃ name ∈ names, normalName name = n ∧ Text.lower name = s := by
  rcases List.mem_append.mp hs with hs | hs
  · obtain ⟨p, hp, rfl⟩ := List.mem_map.mp hs
    exact .inl (by rw [← ht.names p hp, hname])
  · obtain ⟨name, hgiven, rfl⟩ := List.mem_map.mp hs
    exact .inr ⟨name, hgiven, by rw [← normalName_lower, hname], rfl⟩

theorem mem_spellings_of_mem (hs : s ∈ names) : Text.lower s ∈ t.spellings names :=
  List.mem_append_right _ (List.mem_map_of_mem hs)

/-- Pairs that do not name a parameter leave it as it is. -/
theorem parameter?_withParameters_of_unnamed (ht : t.Normal) (hn : normalName n = n)
    (h : ∀ p ∈ pairs, normalName p.1 ≠ n) :
    (t.withParameters pairs).parameter? n = t.parameter? n := by
  rw [parameter?_withParameters ht hn]
  cases hs : newestSpelling? n (t.spellings (pairs.map (·.1))) with
  | none =>
    -- The name itself would be a spelling, if the type had the parameter.
    have hfree : n ∉ t.parameters.map (·.1) := fun hmem =>
      newestSpelling?_eq_none_iff.mp hs n (List.mem_append_left _ hmem) hn
    have hget : (Assoc.mk t.parameters).get? n = none := by
      rw [Option.eq_none_iff_forall_ne_some]
      exact fun v hv => hfree (Assoc.mem_keys_of_get? hv)
    rw [parameter?, lower_eq_self_of_normal hn]
    exact hget.symm
  | some s =>
    obtain ⟨hname, hmem⟩ := newestSpelling?_some hs
    have hself : s = n := by
      refine (eq_or_exists_of_mem_spellings ht hmem hname).resolve_right ?_
      rintro ⟨name, hgiven, hnamed, -⟩
      obtain ⟨p, hp, rfl⟩ := List.mem_map.mp hgiven
      exact h p hp hnamed
    have hunspelled : (lastValue? pairs fun k => Text.lower k = n) = none := by
      refine lastValue?_eq_none_iff.mpr fun p hp => decide_eq_false fun hlower => h p hp ?_
      rw [← normalName_lower, hlower, hn]
    rw [hself, Option.bind_some, hunspelled, Option.none_or]

/-! ### The last spelling of a name -/

/-- The last of the names that stand for the name `n`, as it is written. -/
def lastSpelling? (n : String) (names : List String) : Option String :=
  names.reverse.find? fun name => normalName name == n

theorem lastSpelling?_eq_some_iff :
    lastSpelling? n names = some k ↔
      ∃ before after, names = before ++ k :: after ∧ normalName k = n ∧
        ∀ u ∈ after, normalName u ≠ n := by
  rw [lastSpelling?, find?_reverse_eq_some_iff]
  simp only [beq_iff_eq, beq_eq_false_iff_ne]

theorem lastSpelling?_eq_none_iff :
    lastSpelling? n names = none ↔ ∀ k ∈ names, normalName k ≠ n := by
  simp [lastSpelling?]

/-- The last spelling is one of the names. -/
theorem lastSpelling?_some (h : lastSpelling? n names = some k) : normalName k = n ∧ k ∈ names := by
  obtain ⟨before, after, rfl, hname, -⟩ := lastSpelling?_eq_some_iff.mp h
  exact ⟨hname, List.mem_append_right before List.mem_cons_self⟩

/-- A name that is given has a newest spelling. -/
theorem exists_newestSpelling? (t : MediaType) (h : lastSpelling? n names = some k) :
    ∃ s, newestSpelling? n (t.spellings names) = some s := by
  obtain ⟨hname, hgiven⟩ := lastSpelling?_some h
  rw [← Option.ne_none_iff_exists', ne_eq, newestSpelling?_eq_none_iff]
  intro hnone
  refine hnone (Text.lower k) (mem_spellings_of_mem hgiven) ?_
  rw [normalName_lower, hname]

/-- The last value that is given for a name is the last one under its last spelling. -/
theorem exists_lastValue? (h : lastSpelling? n (pairs.map (·.1)) = some k) :
    ∃ v, (lastValue? pairs fun k' => normalName k' == n) = some v ∧
      (lastValue? pairs fun k' => Text.lower k' = Text.lower k) = some v := by
  obtain ⟨before, after, hsplit, hk, hafter⟩ := lastSpelling?_eq_some_iff.mp h
  obtain ⟨before, rest, rfl, rfl, hrest⟩ := List.map_eq_append_iff.mp hsplit
  obtain ⟨⟨k, v⟩, after, rfl, rfl, rfl⟩ := List.map_eq_cons_iff.mp hrest
  have hunnamed : ∀ p ∈ after, normalName p.1 ≠ n := fun p hp =>
    hafter p.1 (List.mem_map_of_mem hp)
  refine ⟨v, ?_, ?_⟩
  · rw [lastValue?_eq_some_iff]
    exact ⟨before, k, after, rfl, beq_iff_eq.mpr hk, fun p hp =>
      beq_eq_false_iff_ne.mpr (hunnamed p hp)⟩
  · rw [lastValue?_eq_some_iff]
    refine ⟨before, k, after, rfl, decide_eq_true rfl, fun p hp => decide_eq_false ?_⟩
    -- What agrees in lower case stands for the same name.
    intro hlower
    apply hunnamed p hp
    rw [← normalName_lower, hlower, normalName_lower]
    exact hk

/-! ### Values that tell spellings apart -/

/-- The names with the value `x` where they are spelled like `k`, and with `y` elsewhere. -/
def markSpelling (k x y : String) (names : List String) : List (String × String) :=
  names.map fun name => (name, if Text.lower name = Text.lower k then x else y)

theorem names_markSpelling (k x y : String) (names : List String) :
    (markSpelling k x y names).map (·.1) = names := by
  simp [markSpelling, Function.comp_def]

theorem lastValue?_markSpelling {x y v : String} {wanted : String → Bool}
    (h : lastValue? (markSpelling k x y names) wanted = some v) :
    ∃ name, wanted name ∧ v = if Text.lower name = Text.lower k then x else y := by
  obtain ⟨before, name, after, hsplit, hname, -⟩ := lastValue?_eq_some_iff.mp h
  have hmem : (name, v) ∈ markSpelling k x y names := by
    rw [hsplit]
    exact List.mem_append_right before List.mem_cons_self
  obtain ⟨name', -, heq⟩ := List.mem_map.mp hmem
  obtain ⟨rfl, rfl⟩ := Prod.mk.inj heq
  exact ⟨name', hname, rfl⟩

/-- Under the spelling `k` the value is `x`, which is the last one for its name if `k` came last. -/
theorem lastValue?_markSpelling_last (x y : String) (h : lastSpelling? n names = some k) :
    (lastValue? (markSpelling k x y names) fun name => normalName name == n) = some x := by
  have hlast : lastSpelling? n ((markSpelling k x y names).map (·.1)) = some k := by
    rw [names_markSpelling, h]
  obtain ⟨v, hv, hspelled⟩ := exists_lastValue? hlast
  obtain ⟨name, hname, rfl⟩ := lastValue?_markSpelling hspelled
  rw [hv, if_pos (of_decide_eq_true hname)]

/-- Under any other spelling the value is `y`. -/
theorem lastValue?_markSpelling_other {x y v : String} (hne : s ≠ Text.lower k)
    (h : (lastValue? (markSpelling k x y names) fun name => Text.lower name = s) = some v) :
    v = y := by
  obtain ⟨name, hname, rfl⟩ := lastValue?_markSpelling h
  exact if_neg fun heq => hne ((of_decide_eq_true hname).symm.trans heq)

/-! ### When merging gives the last value -/

/-- The spelling that came last came new last, if merging gives the last value whatever it is. -/
theorem newestSpelling?_of_forall (ht : t.Normal) (hn : normalName n = n)
    (h : ∀ pairs, pairs.map (·.1) = names → (t.withParameters pairs).parameter? n =
      (lastValue? pairs fun k => normalName k == n).or (t.parameter? n))
    (hk : lastSpelling? n names = some k) :
    newestSpelling? n (t.spellings names) = some (Text.lower k) := by
  obtain ⟨s, hs⟩ := exists_newestSpelling? t hk
  by_contra hother
  have hne : s ≠ Text.lower k := fun heq => hother (by rw [hs, heq])
  -- One value under the last spelling, another one under all others.
  obtain ⟨x, y, hxy, hx⟩ : ∃ x y : String, x ≠ y ∧ t.parameter? s ≠ some x := by
    by_cases hone : t.parameter? s = some "1"
    · exact ⟨"0", "1", by decide, by rw [hone]; decide⟩
    · exact ⟨"1", "0", by decide, hone⟩
  have hanswer := h (markSpelling k x y names) (names_markSpelling k x y names)
  rw [parameter?_withParameters ht hn, names_markSpelling, hs, Option.bind_some,
    lastValue?_markSpelling_last x y hk, Option.some_or] at hanswer
  cases hgiven : lastValue? (markSpelling k x y names) fun name => Text.lower name = s with
  | none =>
    rw [hgiven, Option.none_or] at hanswer
    exact hx hanswer
  | some v =>
    rw [hgiven, lastValue?_markSpelling_other hne hgiven, Option.some_or, Option.some.injEq]
      at hanswer
    exact hxy hanswer.symm

/-- Merging gives the last value if the spelling that came last came new last. -/
theorem parameter?_withParameters_of_newest (ht : t.Normal) (hn : normalName n = n)
    (h : ∀ k, lastSpelling? n (pairs.map (·.1)) = some k →
      newestSpelling? n (t.spellings (pairs.map (·.1))) = some (Text.lower k)) :
    (t.withParameters pairs).parameter? n =
      (lastValue? pairs fun k => normalName k == n).or (t.parameter? n) := by
  cases hk : lastSpelling? n (pairs.map (·.1)) with
  | none =>
    have hunnamed : ∀ p ∈ pairs, normalName p.1 ≠ n := fun p hp =>
      lastSpelling?_eq_none_iff.mp hk p.1 (List.mem_map_of_mem hp)
    have hnone : (lastValue? pairs fun k => normalName k == n) = none :=
      lastValue?_eq_none_iff.mpr fun p hp => beq_eq_false_iff_ne.mpr (hunnamed p hp)
    rw [parameter?_withParameters_of_unnamed ht hn hunnamed, hnone, Option.none_or]
  | some k =>
    obtain ⟨v, hv, hspelled⟩ := exists_lastValue? hk
    rw [parameter?_withParameters ht hn, h k hk, Option.bind_some, hv, hspelled, Option.some_or,
      Option.some_or]

/-- **When merging gives the last value.**  What a merged type answers for a name is what was last
    given under the newest of its spellings, or what the type had under it; a name that is not given
    keeps what it had.  For names in a given order this is the last value given for the name, with
    whatever values, exactly when the spelling that came last is the one that came new last. -/
theorem parameter?_withParameters_iff (ht : t.Normal) (hn : normalName n = n) :
    (∀ pairs, (t.withParameters pairs).parameter? n =
      (newestSpelling? n (t.spellings (pairs.map (·.1)))).bind fun s =>
        (lastValue? pairs fun k => Text.lower k = s).or (t.parameter? s)) ∧
    (∀ pairs, (∀ p ∈ pairs, normalName p.1 ≠ n) →
      (t.withParameters pairs).parameter? n = t.parameter? n) ∧
    ∀ names,
      (∀ pairs, pairs.map (·.1) = names → (t.withParameters pairs).parameter? n =
        (lastValue? pairs fun k => normalName k == n).or (t.parameter? n)) ↔
      ∀ k, lastSpelling? n names = some k →
        newestSpelling? n (t.spellings names) = some (Text.lower k) := by
  refine ⟨parameter?_withParameters ht hn, fun pairs => parameter?_withParameters_of_unnamed ht hn,
    fun names => ⟨fun h k => newestSpelling?_of_forall ht hn h, ?_⟩⟩
  rintro h pairs rfl
  exact parameter?_withParameters_of_newest ht hn h

/-- A plain text with one parameter. -/
def lettered : MediaType := ⟨"text", "plain", [("a", "0")]⟩

/-- A name that is given with a blank, and then with a capital letter and the same blank, has the
    value that was given last. -/
theorem parameter?_withParameters_iff_lettered :
    lettered.Normal ∧ normalName "a" = "a" ∧
      (lettered.withParameters [(" a", "1"), (" A", "2")]).parameter? "a" = some "2" ∧
      (lettered.withParameters [("b", "1")]).parameter? "a" = some "0" := by
  have ht : lettered.Normal := by decide
  have hn : normalName "a" = "a" := by decide
  obtain ⟨-, hunnamed, hlast⟩ := parameter?_withParameters_iff ht hn
  have hnewest : ∀ k, lastSpelling? "a" [" a", " A"] = some k →
      newestSpelling? "a" (lettered.spellings [" a", " A"]) = some (Text.lower k) := by
    rintro k ⟨⟩
    decide
  refine ⟨ht, hn, ?_, hunnamed [("b", "1")] (by decide)⟩
  exact (hlast [" a", " A"]).mpr hnewest [(" a", "1"), (" A", "2")] rfl

/-- The value that is given with a blank counts, although another one is given after it. -/
theorem parameter?_withParameters_blank :
    ¬ ∀ t : MediaType, t.Normal → ∀ n, normalName n = n → ∀ pairs,
      (t.withParameters pairs).parameter? n =
        (lastValue? pairs fun k => normalName k == n).or (t.parameter? n) := by
  intro h
  have hlettered := h lettered (by decide) "a" (by decide) [(" a", "1"), ("a", "2")]
  exact absurd hlettered (by decide)

end MediaType

end MediaGraph
