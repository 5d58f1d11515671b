import Mathlib.Data.List.Induction
import Mathlib.Data.Nat.Find
import MediaGraph.Proofs.Service.Changes

namespace MediaGraph

/-!
# Which addition an entry comes from

The entries of a table can be told from the changes that were asked for, without following the
table: an entry is there when it was added while its name was free and its name was not dropped
since.

* `Created` — the change at some place of a history added an entry that is still there.
* `free_iff` — a name is free when no addition of it outlived the last time it was dropped.
* `ServiceTable.Records` — a table holds the entries that were created, in the order of their
  additions.
* `ServiceTable.records_step`, `records_applyAll` — every change keeps that, and so do all changes
  from the empty table on.
-/

variable {history : List TableChange} {family : Family} {name : String} {i j : Nat}
  {c : TableChange} {e d : Entry}

/-- Whether the change at place `i` added an entry that is there to the end: its name was free, as
    each earlier addition of it was followed by a drop, and it was not dropped afterwards. -/
structure Created (history : List TableChange) (family : Family) (i : Nat) (e : Entry) : Prop where
  put : history[i]? = some (.put family e)
  free : ∀ (j : Nat) (d : Entry), j < i → history[j]? = some (.put family d) → d.name = e.name →
    ∃ k : Nat, j < k ∧ k < i ∧ history[k]? = some (.drop family e.name)
  kept : ∀ k : Nat, i < k → history[k]? ≠ some (.drop family e.name)

/-- Whether each addition of a name was followed by a drop. -/
def FreeAfter (history : List TableChange) (family : Family) (name : String) : Prop :=
  ∀ (j : Nat) (d : Entry), history[j]? = some (.put family d) → d.name = name →
    ∃ k : Nat, j < k ∧ history[k]? = some (.drop family name)

/-- One name has one creator. -/
theorem Created.unique (hi : Created history family i e) (hj : Created history family j d)
    (hname : e.name = d.name) : i = j := by
  -- Of two additions the earlier one would have been dropped before the later one.
  have hlt : ∀ {i j e d}, Created history family i e → Created history family j d →
      e.name = d.name → ¬ i < j := by
    intro i j e d hi hj hname hij
    obtain ⟨k, hik, -, hk⟩ := hj.free i e hij hi.put hname
    exact hi.kept k hik (hname ▸ hk)
  have hij := hlt hi hj hname
  have hji := hlt hj hi hname.symm
  omega

/-- **When a name is free.**  Where every addition of it was dropped, no entry of it is left; and
    the first addition that was not dropped created one. -/
theorem free_iff :
    FreeAfter history family name ↔ ∀ i e, Created history family i e → e.name ≠ name := by
  constructor
  · rintro hfree i e hcreated rfl
    obtain ⟨k, hik, hk⟩ := hfree i e hcreated.put rfl
    exact hcreated.kept k hik hk
  · intro hnone j d hput hname
    by_contra hkept
    -- Take the first addition of the name that was not dropped.
    let Outlives (i : Nat) : Prop := ∃ e, history[i]? = some (.put family e) ∧ e.name = name ∧
      ¬ ∃ k : Nat, i < k ∧ history[k]? = some (.drop family name)
    have hex : ∃ i, Outlives i := ⟨j, d, hput, hname, hkept⟩
    classical
    obtain ⟨e, he, rfl, hlast⟩ := Nat.find_spec hex
    refine hnone (Nat.find hex) e ⟨he, ?_, fun k hk hdrop => hlast ⟨k, hk, hdrop⟩⟩ rfl
    intro i d hi hd hname
    have hdropped : ∃ k : Nat, i < k ∧ history[k]? = some (.drop family e.name) := by
      by_contra h
      exact Nat.find_min hex hi ⟨d, hd, hname, h⟩
    obtain ⟨k, hik, hk⟩ := hdropped
    have hlt : k < Nat.find hex := by
      rcases Nat.lt_trichotomy k (Nat.find hex) with h | h | h
      · exact h
      · rw [h, he] at hk
        cases hk
      · exact absurd ⟨k, h, hk⟩ hlast
    exact ⟨k, hik, hlt, hk⟩

/-! ### One more change -/

theorem getElem?_concat_eq_some_iff {c' : TableChange} :
    (history ++ [c])[i]? = some c' ↔ history[i]? = some c' ∨ i = history.length ∧ c = c' := by
  rcases Nat.lt_trichotomy i history.length with h | h | h
  · rw [List.getElem?_append_left h]
    simp [Nat.ne_of_lt h]
  · subst h
    simp
  · rw [List.getElem?_eq_none (by simp; omega), List.getElem?_eq_none (by omega)]
    simp [Nat.ne_of_gt h]

/-- A place of a history lies in front of its end. -/
theorem lt_length_of_getElem? {c' : TableChange} (h : history[i]? = some c') :
    i < history.length :=
  (List.getElem?_eq_some_iff.mp h).1

/-- What one more change creates and what it leaves: an entry that was there and whose name it does
    not drop, or the one that it adds under a free name. -/
theorem created_concat_iff :
    Created (history ++ [c]) family i e ↔
      Created history family i e ∧ c ≠ .drop family e.name ∨
        i = history.length ∧ c = .put family e ∧ FreeAfter history family e.name := by
  constructor
  · rintro ⟨hput, hfree, hkept⟩
    rcases getElem?_concat_eq_some_iff.mp hput with hput | ⟨rfl, rfl⟩
    · have hi := lt_length_of_getElem? hput
      refine .inl ⟨⟨hput, fun j d hj hd hname => ?_, fun k hk hdrop => ?_⟩, fun hc => ?_⟩
      · obtain ⟨k, hjk, hki, hk⟩ :=
          hfree j d hj (getElem?_concat_eq_some_iff.mpr (.inl hd)) hname
        rcases getElem?_concat_eq_some_iff.mp hk with hk | ⟨rfl, -⟩
        · exact ⟨k, hjk, hki, hk⟩
        · omega
      · exact hkept k hk (getElem?_concat_eq_some_iff.mpr (.inl hdrop))
      · exact hkept history.length hi (getElem?_concat_eq_some_iff.mpr (.inr ⟨rfl, hc⟩))
    · refine .inr ⟨rfl, rfl, fun j d hd hname => ?_⟩
      obtain ⟨k, hjk, hki, hk⟩ := hfree j d (lt_length_of_getElem? hd)
        (getElem?_concat_eq_some_iff.mpr (.inl hd)) hname
      rcases getElem?_concat_eq_some_iff.mp hk with hk | ⟨rfl, -⟩
      · exact ⟨k, hjk, hk⟩
      · omega
  · rintro (⟨⟨hput, hfree, hkept⟩, hc⟩ | ⟨rfl, rfl, hfree⟩)
    · refine ⟨getElem?_concat_eq_some_iff.mpr (.inl hput), fun j d hj hd hname => ?_,
        fun k hk hdrop => ?_⟩
      · have hi := lt_length_of_getElem? hput
        rcases getElem?_concat_eq_some_iff.mp hd with hd | ⟨rfl, -⟩
        · obtain ⟨k, hjk, hki, hk⟩ := hfree j d hj hd hname
          exact ⟨k, hjk, hki, getElem?_concat_eq_some_iff.mpr (.inl hk)⟩
        · omega
      · rcases getElem?_concat_eq_some_iff.mp hdrop with hdrop | ⟨-, h⟩
        · exact hkept k hk hdrop
        · exact hc h
    · refine ⟨getElem?_concat_eq_some_iff.mpr (.inr ⟨rfl, rfl⟩), fun j d hj hd hname => ?_,
        fun k hk hdrop => ?_⟩
      · rcases getElem?_concat_eq_some_iff.mp hd with hd | ⟨rfl, -⟩
        · obtain ⟨k, hjk, hk⟩ := hfree j d hd hname
          exact ⟨k, hjk, lt_length_of_getElem? hk, getElem?_concat_eq_some_iff.mpr (.inl hk)⟩
        · omega
      · rcases getElem?_concat_eq_some_iff.mp hdrop with hdrop | ⟨rfl, -⟩
        · have := lt_length_of_getElem? hdrop
          omega
        · omega

/-- A change of another family creates nothing and leaves everything. -/
theorem created_concat_of_ne (h : c.family ≠ family) :
    Created (history ++ [c]) family i e ↔ Created history family i e := by
  rw [created_concat_iff]
  constructor
  · rintro (⟨hcreated, -⟩ | ⟨-, rfl, -⟩)
    · exact hcreated
    · exact absurd rfl h
  · intro hcreated
    refine .inl ⟨hcreated, ?_⟩
    rintro rfl
    exact h rfl

/-! ### Tables and their histories -/

namespace ServiceTable

variable {t : ServiceTable}

/-- Whether a table holds exactly the entries that a history created, in the order in which they
    were added. -/
def Records (t : ServiceTable) (history : List TableChange) : Prop :=
  ∀ family, ∃ births : List (Nat × Entry),
    births.map (·.2) = t.entries family ∧
    births.Pairwise (fun a b => a.1 < b.1) ∧
    ∀ i e, (i, e) ∈ births ↔ Created history family i e

theorem records_empty : empty.Records [] := by
  intro family
  refine ⟨[], by cases family <;> rfl, .nil, fun i e => ?_⟩
  simp only [List.not_mem_nil, false_iff]
  rintro ⟨hput, -, -⟩
  cases hput

/-- What a table holds was created, and what was created is there. -/
theorem Records.mem_entries_iff (h : t.Records history) :
    e ∈ t.entries family ↔ ∃ i, Created history family i e := by
  obtain ⟨births, hentries, -, hborn⟩ := h family
  simp only [← hentries, List.mem_map, ← hborn, Prod.exists, exists_eq_right]

/-- A name that no entry has is free in the history. -/
theorem Records.free_iff (h : t.Records history) :
    FreeAfter history family name ↔ ∀ d ∈ t.entries family, d.name ≠ name := by
  simp only [MediaGraph.free_iff, h.mem_entries_iff]
  exact ⟨fun h d ⟨i, hi⟩ => h i d hi, fun h i d hi => h d ⟨i, hi⟩⟩

/-- **Every change keeps the record.** -/
theorem records_step (h : t.Records history) (c : TableChange) :
    (t.apply c).Records (history ++ [c]) := by
  intro family
  obtain ⟨births, hentries, hordered, hborn⟩ := h family
  by_cases hfamily : c.family = family
  · cases c with
    | drop own name =>
      obtain rfl : own = family := hfamily
      -- The entry of the name goes, and with it the place where it was added.
      refine ⟨births.filter fun b => b.2.name ≠ name, ?_, hordered.filter _, fun i e => ?_⟩
      · rw [entries_apply_drop, ← hentries, List.filter_map]
        rfl
      · rw [created_concat_iff, List.mem_filter, hborn]
        constructor
        · rintro ⟨h, hname⟩
          refine .inl ⟨h, fun heq => of_decide_eq_true hname ?_⟩
          cases heq
          rfl
        · rintro (⟨h, hc⟩ | ⟨-, heq, -⟩)
          · exact ⟨h, decide_eq_true fun hname => hc (hname ▸ rfl)⟩
          · cases heq
    | put own new =>
      obtain rfl : own = family := hfamily
      by_cases hfree : ∀ d ∈ t.entries own, d.name ≠ new.name
      · -- The new entry stands behind all others, and so does its place.
        refine ⟨births ++ [(history.length, new)], ?_, ?_, fun i e => ?_⟩
        · rw [entries_apply_put_of_free hfree, List.map_append, hentries]
          rfl
        · refine List.pairwise_append.mpr ⟨hordered, List.pairwise_singleton .., ?_⟩
          rintro ⟨i, e⟩ hmem b hb
          rw [List.mem_singleton.mp hb]
          exact lt_length_of_getElem? ((hborn i e).mp hmem).put
        · rw [created_concat_iff, List.mem_append, hborn, List.mem_singleton, Prod.mk.injEq]
          constructor
          · rintro (h | ⟨rfl, rfl⟩)
            · exact .inl ⟨h, nofun⟩
            · exact .inr ⟨rfl, rfl, h.free_iff.mpr hfree⟩
          · rintro (⟨h, -⟩ | ⟨rfl, heq, -⟩)
            · exact .inl h
            · cases heq
              exact .inr ⟨rfl, rfl⟩
      · rw [apply_put_of_taken (by simpa using hfree)]
        refine ⟨births, hentries, hordered, fun i e => ?_⟩
        rw [created_concat_iff, hborn]
        refine ⟨fun h => .inl ⟨h, nofun⟩, ?_⟩
        rintro (⟨h, -⟩ | ⟨-, heq, hafter⟩)
        · exact h
        · cases heq
          exact absurd (h.free_iff.mp hafter) hfree
  · refine ⟨births, hentries.trans (entries_apply_of_ne hfamily).symm, hordered, fun i e => ?_⟩
    rw [hborn, created_concat_of_ne hfamily]

/-- Some changes from the empty table on leave the record of them all. -/
theorem records_applyAll (history : List TableChange) :
    (empty.applyAll history).Records history := by
  induction history using List.reverseRecOn with
  | nil => exact records_empty
  | append_singleton history c ih =>
    rw [applyAll_append]
    exact records_step ih c

/-- A table that keeps a record has distinct names. -/
theorem Records.nodup_names (h : t.Records history) (family : Family) :
    (t.names family).Nodup := by
  obtain ⟨births, hentries, hordered, hborn⟩ := h family
  rw [names, ← hentries, List.map_map, List.Nodup, List.pairwise_map]
  refine hordered.imp_of_mem fun {a b} ha hb hlt heq => ?_
  have := ((hborn a.1 a.2).mp ha).unique ((hborn b.1 b.2).mp hb) heq
  omega

end ServiceTable

end MediaGraph
