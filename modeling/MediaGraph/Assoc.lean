namespace MediaGraph

/-!
# Maps that keep the order of insertion

A key that is put again keeps its place and takes the new value.

* `Assoc.get?_put` — what a map answers after `put`.
* `Assoc.mem_entries_of_get?` — an answer is one of the entries.
* `Assoc.keys_put` — the keys after `put`: a new key comes last, an old one stays where it is.
* `Assoc.mem_entries_of_mem_putAll` — entries of a map are entries that were put.
* `Assoc.putNew_of_get?`, `Assoc.entries_putNew_of_get?` — a key that has a value keeps it, another
  one is added at the end.
* `Assoc.entries_putAll` — pairs with different new keys are added at the end as they are.
* `Assoc.get?_putAll_eq_some_iff` — of several pairs with one key the last one counts.
* `Assoc.Consistent`, `Assoc.get?_putAll_perm` — pairs that may be put in any order.
-/

/-- A map from keys to values in the order in which the keys first came. -/
structure Assoc (κ ν : Type) where
  entries : List (κ × ν)
  deriving Repr, DecidableEq

namespace Assoc

variable {κ ν : Type} [DecidableEq κ]

/-- The map without entries. -/
def empty : Assoc κ ν := ⟨[]⟩

/-- The value stored first under `k`. -/
def lookup (k : κ) : List (κ × ν) → Option ν
  | [] => none
  | (k', v) :: rest => if k' = k then some v else lookup k rest

/-- The entries after `k` is given the value `v`. -/
def place (k : κ) (v : ν) : List (κ × ν) → List (κ × ν)
  | [] => [(k, v)]
  | (k', v') :: rest => if k' = k then (k', v) :: rest else (k', v') :: place k v rest

/-- The value stored under a key. -/
def get? (m : Assoc κ ν) (k : κ) : Option ν := lookup k m.entries

/-- Whether a key has a value. -/
def contains (m : Assoc κ ν) (k : κ) : Bool := (m.get? k).isSome

/-- The map after `k` is given the value `v`. -/
def put (m : Assoc κ ν) (k : κ) (v : ν) : Assoc κ ν := ⟨place k v m.entries⟩

/-- The map after `k` is given the value `v`, unless it has one already. -/
def putNew (m : Assoc κ ν) (k : κ) (v : ν) : Assoc κ ν := if m.contains k then m else m.put k v

/-- The map without the key `k`. -/
def erase (m : Assoc κ ν) (k : κ) : Assoc κ ν := ⟨m.entries.filter fun e => e.1 ≠ k⟩

/-- The map that the pairs leave behind when they are put one after another. -/
def ofList (pairs : List (κ × ν)) : Assoc κ ν := pairs.foldl (fun m p => m.put p.1 p.2) empty

/-- The map after all `pairs` are put one after another. -/
def putAll (m : Assoc κ ν) (pairs : List (κ × ν)) : Assoc κ ν :=
  pairs.foldl (fun m p => m.put p.1 p.2) m

/-- The keys in their order. -/
def keys (m : Assoc κ ν) : List κ := m.entries.map (·.1)

/-- The values in the order of their keys. -/
def values (m : Assoc κ ν) : List ν := m.entries.map (·.2)

/-- The number of entries. -/
def size (m : Assoc κ ν) : Nat := m.entries.length

/-! ### What a map answers -/

/-- Placing a value changes what is found under its own key only. -/
theorem lookup_place (k k' : κ) (v : ν) (es : List (κ × ν)) :
    lookup k' (place k v es) = if k = k' then some v else lookup k' es := by
  induction es with
  | nil => simp [place, lookup]
  | cons e es ih =>
    obtain ⟨a, b⟩ := e
    by_cases h : a = k
    · subst h
      by_cases hk : a = k' <;> simp [place, lookup, hk]
    · rw [place, if_neg h, lookup, lookup, ih]
      by_cases ha : a = k'
      · have hk : ¬ k = k' := fun hk => h (ha.trans hk.symm)
        simp [ha, hk]
      · simp [ha]

/-- Putting a value changes what is found under its own key only. -/
theorem get?_put (m : Assoc κ ν) (k k' : κ) (v : ν) :
    (m.put k v).get? k' = if k = k' then some v else m.get? k' :=
  lookup_place k k' v m.entries

/-- What a map answers for a key is one of its entries. -/
theorem mem_entries_of_get? {m : Assoc κ ν} {k : κ} {v : ν} (h : m.get? k = some v) :
    (k, v) ∈ m.entries := by
  obtain ⟨es⟩ := m
  change lookup k es = some v at h
  change (k, v) ∈ es
  induction es with
  | nil => exact absurd h (by simp [lookup])
  | cons e es ih =>
    obtain ⟨k', v'⟩ := e
    rw [lookup] at h
    split at h
    · rename_i hkey
      rw [Option.some.injEq] at h
      simp [hkey, h]
    · exact List.mem_cons_of_mem _ (ih h)

/-- What a map answers is one of its values. -/
theorem mem_values_of_get? {m : Assoc κ ν} {k : κ} {v : ν} (h : m.get? k = some v) :
    v ∈ m.values :=
  List.mem_map_of_mem (mem_entries_of_get? h)

/-- A key for which a map answers is one of its keys. -/
theorem mem_keys_of_get? {m : Assoc κ ν} {k : κ} {v : ν} (h : m.get? k = some v) : k ∈ m.keys :=
  List.mem_map_of_mem (mem_entries_of_get? h)

/-- Placing a value under a new key adds that key at the end, and no key otherwise. -/
theorem keys_place (k : κ) (v : ν) (es : List (κ × ν)) :
    (place k v es).map (·.1)
      = if k ∈ es.map (·.1) then es.map (·.1) else es.map (·.1) ++ [k] := by
  induction es with
  | nil => simp [place]
  | cons e es ih =>
    obtain ⟨a, b⟩ := e
    by_cases h : a = k
    · simp [place, h]
    · have h' : ¬ k = a := fun hk => h hk.symm
      simp only [place, h, if_false, List.map_cons, ih, List.mem_cons, h', false_or]
      split <;> simp

/-- Putting a value under a new key adds that key at the end, and no key otherwise. -/
theorem keys_put (m : Assoc κ ν) (k : κ) (v : ν) :
    (m.put k v).keys = if k ∈ m.keys then m.keys else m.keys ++ [k] :=
  keys_place k v m.entries

/-- A map answers for all of its keys. -/
theorem exists_get?_of_mem_keys {m : Assoc κ ν} {k : κ} (h : k ∈ m.keys) :
    ∃ v, m.get? k = some v := by
  obtain ⟨es⟩ := m
  change k ∈ es.map (·.1) at h
  change ∃ v, lookup k es = some v
  induction es with
  | nil => exact absurd h (by simp)
  | cons e es ih =>
    obtain ⟨a, b⟩ := e
    rw [lookup]
    by_cases ha : a = k
    · exact ⟨b, if_pos ha⟩
    · rw [if_neg ha]
      rw [List.map_cons, List.mem_cons] at h
      exact ih (h.resolve_left fun hk => ha hk.symm)

/-- Putting a value adds that entry and no other. -/
theorem mem_entries_of_mem_put {m : Assoc κ ν} {k : κ} {v : ν} {e : κ × ν}
    (h : e ∈ (m.put k v).entries) : e = (k, v) ∨ e ∈ m.entries := by
  obtain ⟨es⟩ := m
  change e ∈ place k v es at h
  change e = (k, v) ∨ e ∈ es
  induction es with
  | nil => exact .inl (List.mem_singleton.mp h)
  | cons e' es ih =>
    obtain ⟨a, b⟩ := e'
    rw [place] at h
    split at h
    · rename_i hkey
      rw [hkey] at h
      rcases List.mem_cons.mp h with h | h
      · exact .inl h
      · exact .inr (List.mem_cons_of_mem _ h)
    · rcases List.mem_cons.mp h with h | h
      · exact .inr (h ▸ List.mem_cons_self)
      · exact (ih h).imp_right (List.mem_cons_of_mem _)

/-- Putting pairs one by one adds those entries and no others. -/
theorem mem_entries_of_mem_putAll {m : Assoc κ ν} {pairs : List (κ × ν)} {e : κ × ν}
    (h : e ∈ (m.putAll pairs).entries) : e ∈ pairs ∨ e ∈ m.entries := by
  induction pairs generalizing m with
  | nil => exact .inr h
  | cons p pairs ih =>
    rcases ih h with h | h
    · exact .inl (List.mem_cons_of_mem _ h)
    · exact (mem_entries_of_mem_put h).imp_left fun heq => List.mem_cons.mpr (.inl heq)

/-- Different keys stay different when a value is put. -/
theorem nodup_keys_put {m : Assoc κ ν} (h : m.keys.Nodup) (k : κ) (v : ν) :
    (m.put k v).keys.Nodup := by
  rw [keys_put]
  split
  · exact h
  · rename_i hk
    rw [List.nodup_append]
    exact ⟨h, by simp, by rintro a ha b hb rfl; exact hk (List.mem_singleton.mp hb ▸ ha)⟩

/-- The keys of a map that was filled one by one are different. -/
theorem nodup_keys_putAll {m : Assoc κ ν} (h : m.keys.Nodup) (pairs : List (κ × ν)) :
    (m.putAll pairs).keys.Nodup := by
  induction pairs generalizing m with
  | nil => exact h
  | cons p pairs ih => exact ih (nodup_keys_put h p.1 p.2)

/-- A value under a new key is added at the end. -/
theorem place_of_not_mem {k : κ} {es : List (κ × ν)} (h : k ∉ es.map (·.1)) (v : ν) :
    place k v es = es ++ [(k, v)] := by
  induction es with
  | nil => rfl
  | cons e es ih =>
    obtain ⟨a, b⟩ := e
    rw [List.map_cons, List.mem_cons, not_or] at h
    rw [place, if_neg fun ha => h.1 ha.symm, ih h.2, List.cons_append]

/-- A map answers for no key but its own. -/
theorem not_mem_keys_of_get? {m : Assoc κ ν} {k : κ} (h : m.get? k = none) : k ∉ m.keys := by
  intro hk
  obtain ⟨v, hv⟩ := exists_get?_of_mem_keys hk
  rw [h] at hv
  cases hv

/-- A key that has a value keeps it. -/
theorem putNew_of_get? {m : Assoc κ ν} {k : κ} {v' : ν} (h : m.get? k = some v') (v : ν) :
    m.putNew k v = m := by
  rw [putNew, contains, h, Option.isSome_some, if_pos rfl]

/-- A key without a value is added at the end. -/
theorem entries_putNew_of_get? {m : Assoc κ ν} {k : κ} (h : m.get? k = none) (v : ν) :
    (m.putNew k v).entries = m.entries ++ [(k, v)] := by
  rw [putNew, contains, h, Option.isSome_none, if_neg Bool.false_ne_true]
  exact place_of_not_mem (not_mem_keys_of_get? h) v

/-- Pairs with different new keys are added at the end as they are. -/
theorem entries_putAll {m : Assoc κ ν} {pairs : List (κ × ν)}
    (h : (m.keys ++ pairs.map (·.1)).Nodup) : (m.putAll pairs).entries = m.entries ++ pairs := by
  induction pairs generalizing m with
  | nil => simp [putAll]
  | cons p pairs ih =>
    have hp : p.1 ∉ m.keys := fun hmem =>
      (List.nodup_append.mp h).2.2 p.1 hmem p.1 (by simp) rfl
    have hput : (m.put p.1 p.2).entries = m.entries ++ [p] := place_of_not_mem hp p.2
    have hkeys : ((m.put p.1 p.2).keys ++ pairs.map (·.1)).Nodup := by
      rw [keys_put, if_neg hp, List.append_assoc]
      exact h
    calc ((m.put p.1 p.2).putAll pairs).entries = (m.put p.1 p.2).entries ++ pairs := ih hkeys
      _ = m.entries ++ p :: pairs := by rw [hput, List.append_assoc, List.singleton_append]

/-- An entry of a map with different keys is what the map answers. -/
theorem mem_entries_iff_get? {m : Assoc κ ν} (h : m.keys.Nodup) {k : κ} {v : ν} :
    (k, v) ∈ m.entries ↔ m.get? k = some v := by
  refine ⟨fun hmem => ?_, mem_entries_of_get?⟩
  obtain ⟨es⟩ := m
  change (k, v) ∈ es at hmem
  change lookup k es = some v
  induction es with
  | nil => cases hmem
  | cons e es ih =>
    obtain ⟨a, b⟩ := e
    obtain ⟨ha, hes⟩ := List.nodup_cons.mp h
    rw [lookup]
    rcases List.mem_cons.mp hmem with heq | hmem
    · rw [Prod.mk.injEq] at heq
      rw [if_pos heq.1.symm, heq.2]
    · -- The key stands further back, so it is not the first one.
      have hkey : k ∈ es.map (·.1) := List.mem_map_of_mem hmem
      have hk : a ≠ k := fun hak => ha (hak ▸ hkey)
      rw [if_neg hk]
      exact ih hes hmem

/-- **The last pair with a key counts**, and what was there before when no pair has the key. -/
theorem get?_putAll_eq_some_iff {m : Assoc κ ν} {pairs : List (κ × ν)} {k : κ} {v : ν} :
    (m.putAll pairs).get? k = some v ↔
      (∃ before after, pairs = before ++ (k, v) :: after ∧ ∀ p ∈ after, p.1 ≠ k) ∨
        (∀ p ∈ pairs, p.1 ≠ k) ∧ m.get? k = some v := by
  induction pairs generalizing m with
  | nil => simp [putAll]
  | cons p pairs ih =>
    change ((m.put p.1 p.2).putAll pairs).get? k = some v ↔ _
    rw [ih, get?_put, List.forall_mem_cons]
    constructor
    · rintro (⟨before, after, rfl, hafter⟩ | ⟨hpairs, hget⟩)
      · exact .inl ⟨p :: before, after, rfl, hafter⟩
      · by_cases hp : p.1 = k
        · rw [if_pos hp, Option.some.injEq] at hget
          exact .inl ⟨[], pairs, by rw [← hp, ← hget, List.nil_append], hpairs⟩
        · rw [if_neg hp] at hget
          exact .inr ⟨⟨hp, hpairs⟩, hget⟩
    · rintro (⟨before, after, hsplit, hafter⟩ | ⟨⟨hp, hpairs⟩, hget⟩)
      · cases before with
        | nil =>
          rw [List.nil_append, List.cons.injEq] at hsplit
          obtain ⟨rfl, rfl⟩ := hsplit
          exact .inr ⟨hafter, if_pos rfl⟩
        | cons q before =>
          rw [List.cons_append, List.cons.injEq] at hsplit
          exact .inl ⟨before, after, hsplit.2, hafter⟩
      · exact .inr ⟨hpairs, by rw [if_neg hp, hget]⟩

/-! ### Pairs in any order -/

section

variable {m : Assoc κ ν} {pairs pairs' : List (κ × ν)} {k : κ} {v : ν}

/-- Whether no key is paired with two values. -/
def Consistent {α β : Type} (pairs : List (α × β)) : Prop :=
  ∀ k v v', (k, v) ∈ pairs → (k, v') ∈ pairs → v = v'

/-- The last of some consistent pairs with a key is like any other one with the key. -/
theorem Consistent.exists_last {α β : Type} {pairs : List (α × β)} {k : α} {v : β}
    (h : Consistent pairs) (hmem : (k, v) ∈ pairs) :
    ∃ before after, pairs = before ++ (k, v) :: after ∧ ∀ p ∈ after, p.1 ≠ k := by
  induction pairs with
  | nil => cases hmem
  | cons p pairs ih =>
    have hrest : Consistent pairs := fun k v v' hv hv' =>
      h k v v' (List.mem_cons_of_mem p hv) (List.mem_cons_of_mem p hv')
    by_cases hlater : ∃ q ∈ pairs, q.1 = k
    · obtain ⟨⟨_, v'⟩, hq, rfl⟩ := hlater
      cases h _ v v' hmem (List.mem_cons_of_mem p hq)
      obtain ⟨before, after, rfl, hafter⟩ := ih hrest hq
      exact ⟨p :: before, after, rfl, hafter⟩
    · rcases List.mem_cons.mp hmem with rfl | hmem
      · exact ⟨[], pairs, rfl, fun q hq hk => hlater ⟨q, hq, hk⟩⟩
      · exact absurd ⟨_, hmem, rfl⟩ hlater

/-- A map that is filled with consistent pairs answers with them, and as before for other keys. -/
theorem get?_putAll_of_consistent (h : Consistent pairs) :
    (m.putAll pairs).get? k = some v ↔
      (k, v) ∈ pairs ∨ (∀ p ∈ pairs, p.1 ≠ k) ∧ m.get? k = some v := by
  rw [get?_putAll_eq_some_iff]
  refine or_congr_left ⟨?_, h.exists_last⟩
  rintro ⟨before, after, rfl, -⟩
  exact List.mem_append_right before List.mem_cons_self

/-- **A map does not depend on the order** in which consistent pairs are put. -/
theorem get?_putAll_perm (h : Consistent pairs) (hperm : pairs.Perm pairs') (k : κ) :
    (m.putAll pairs).get? k = (m.putAll pairs').get? k := by
  have h' : Consistent pairs' := fun k v v' hv hv' =>
    h k v v' (hperm.mem_iff.mpr hv) (hperm.mem_iff.mpr hv')
  ext v
  rw [get?_putAll_of_consistent h, get?_putAll_of_consistent h']
  simp only [hperm.mem_iff]

/-- Pairs that are put after others are put together with them. -/
theorem putAll_append (m : Assoc κ ν) (pairs pairs' : List (κ × ν)) :
    m.putAll (pairs ++ pairs') = (m.putAll pairs).putAll pairs' := List.foldl_append

end

end Assoc

end MediaGraph
