import Mathlib.Data.List.Perm.Subperm
import MediaGraph.Registry.Draft

namespace MediaGraph.Registry

/-!
# The way up from a type

`Registry.walk` lists a way up that may never end: explicit supertypes can lead back to a type that
was passed before.  The walk stops at the first repetition and takes no more than `Registry.reach`
steps.  This file proves that nothing is lost by that:

* `ancestor?` — the type some number of steps up, without any bound and without memory.
* `Enough` — a bound on the steps that a walk does not run into.
* `mem_walk_iff` — the walk holds exactly the types that lie some number of steps up.
* `findSome?_walk_eq_some_iff`, `findSome?_walk_eq_none_iff` — a search along the walk finds what a
  search along the unbounded way up finds first.
-/

variable {r : Registry} {t u s : MediaType}

/-! ### Steps -/

/-- The type that lies `n` steps up from `t`, if the way up is that long. -/
def ancestor? (r : Registry) (t : MediaType) : Nat → Option MediaType
  | 0 => some t
  | n + 1 => (r.ancestor? t n).bind r.supertype?

@[simp] theorem ancestor?_zero (r : Registry) (t : MediaType) : r.ancestor? t 0 = some t := rfl

theorem ancestor?_succ (r : Registry) (t : MediaType) (n : Nat) :
    r.ancestor? t (n + 1) = (r.ancestor? t n).bind r.supertype? := rfl

/-- The first step can be taken off as well as the last one. -/
theorem ancestor?_succ' (r : Registry) (t : MediaType) (n : Nat) :
    r.ancestor? t (n + 1) = (r.supertype? t).bind fun s => r.ancestor? s n := by
  induction n with
  | zero => cases h : r.supertype? t <;> simp [ancestor?, h]
  | succ n ih =>
    rw [ancestor?_succ, ih]
    cases r.supertype? t <;> rfl

/-- What holds all the way up holds of the type itself and of what is further up. -/
theorem forall_ancestor?_iff {r : Registry} {t : MediaType} {P : MediaType → Prop} :
    (∀ n u, r.ancestor? t n = some u → P u) ↔
      P t ∧ ∀ n u, r.ancestor? t (n + 1) = some u → P u := by
  constructor
  · intro h
    exact ⟨h 0 t rfl, fun n => h (n + 1)⟩
  · rintro ⟨ht, hup⟩ n u hu
    cases n with
    | zero =>
      cases hu
      exact ht
    | succ n => exact hup n u hu

/-! ### The types that a way up can pass

A step leads to the type without its parameters, to a recorded supertype, or to one of the five
types that names imply.  So the types above `t` lie in a finite list, whatever the links are.
-/

/-- The types that names imply. -/
def impliedTypes : List MediaType :=
  [.applicationXml, .applicationZip, .textPlain, .emptyDocument, .octetStream]

/-- All types that a way up from `t` can pass. -/
def region (r : Registry) (t : MediaType) : List MediaType :=
  t :: t.base :: impliedTypes ++ (r.links.values ++ r.links.values.map MediaType.base)

/-- The way up is given one step more than there are types to pass. -/
theorem length_region (r : Registry) (t : MediaType) : (r.region t).length + 1 = r.reach := by
  simp only [region, impliedTypes, reach, Assoc.values, Assoc.size, List.length_append,
    List.length_cons, List.length_map, List.length_nil]
  omega

theorem impliedSupertype?_mem (h : impliedSupertype? t = some s) : s ∈ impliedTypes := by
  unfold impliedSupertype? at h
  repeat' split at h
  all_goals first
    | (rw [Option.some.injEq] at h; subst h; simp [impliedTypes])
    | exact absurd h (by simp)

/-- The base of a type that can be passed can be passed. -/
theorem base_mem_region (h : u ∈ r.region t) : u.base ∈ r.region t := by
  simp only [region, List.mem_append, List.mem_cons, List.mem_map] at h ⊢
  have implied : ∀ v ∈ impliedTypes, v.base = v := by decide
  rcases h with (rfl | rfl | h) | h | ⟨v, hv, rfl⟩
  · exact .inl (.inr (.inl rfl))
  · exact .inl (.inr (.inl rfl))
  · rw [implied u h]
    exact .inl (.inr (.inr h))
  · exact .inr (.inr ⟨u, h, rfl⟩)
  · exact .inr (.inr ⟨v, hv, rfl⟩)

/-- A step from a type that can be passed leads to one that can be passed. -/
theorem supertype?_mem_region (hu : u ∈ r.region t) (h : r.supertype? u = some s) :
    s ∈ r.region t := by
  unfold supertype? at h
  split at h
  · rw [Option.some.injEq] at h
    exact h ▸ base_mem_region hu
  · split at h
    · rename_i s' hs'
      rw [Option.some.injEq] at h
      subst h
      have hv : s' ∈ r.links.values := Assoc.mem_values_of_get? hs'
      simp [region, hv]
    · have hi : s ∈ impliedTypes := impliedSupertype?_mem h
      simp [region, hi]

/-! ### The walk follows the way up -/

/-- Whatever the bound and the types seen, the walk lists types of the way up in their order. -/
theorem getElem?_walkFrom (r : Registry) (fuel : Nat) (seen : List MediaType) (t : MediaType)
    {i : Nat} (h : (r.walkFrom seen fuel t)[i]? = some u) : r.ancestor? t i = some u := by
  induction fuel generalizing seen t i with
  | zero => simp [walkFrom] at h
  | succ fuel ih =>
    rw [walkFrom] at h
    split at h
    · simp at h
    · cases i with
      | zero => simpa using h
      | succ i =>
        rw [List.getElem?_cons_succ] at h
        cases hs : r.supertype? t with
        | none => simp [hs] at h
        | some s =>
          rw [hs] at h
          rw [ancestor?_succ', hs]
          exact ih (t :: seen) s h

/-- Whether `fuel` steps are enough for the walk on from `t`: the types seen and those still to come
    lie in a finite list that no step leaves, and the walk has more steps left than this list has
    types that were not seen. -/
structure Enough (r : Registry) (types seen : List MediaType) (fuel : Nat) (t : MediaType) :
    Prop where
  closed : ∀ v ∈ types, ∀ w, r.supertype? v = some w → w ∈ types
  mem : t ∈ types
  seen_subset : seen ⊆ types
  nodup : seen.Nodup
  lt : types.length < fuel + seen.length

namespace Enough

variable {types seen : List MediaType} {fuel : Nat}

/-- The walk does not run out of steps: it would have seen more types than there are. -/
theorem fuel_ne_zero (h : r.Enough types seen fuel t) : fuel ≠ 0 := by
  rintro rfl
  have hlen : seen.length ≤ types.length :=
    (List.subperm_of_subset h.nodup h.seen_subset).length_le
  have hlt := h.lt
  omega

/-- What is enough is still enough after a step from a type that was not seen. -/
theorem next (h : r.Enough types seen (fuel + 1) t) (ht : t ∉ seen) (hs : r.supertype? t = some s) :
    r.Enough types (t :: seen) fuel s where
  closed := h.closed
  mem := h.closed t h.mem s hs
  seen_subset := List.cons_subset.mpr ⟨h.mem, h.seen_subset⟩
  nodup := List.nodup_cons.mpr ⟨ht, h.nodup⟩
  lt := by
    have hlt := h.lt
    rw [List.length_cons]
    omega

/-- The walk is given enough steps. -/
theorem walk (r : Registry) (t : MediaType) : r.Enough (r.region t) [] r.reach t where
  closed _ hv _ hw := supertype?_mem_region hv hw
  mem := by simp [region]
  seen_subset := List.nil_subset _
  nodup := List.nodup_nil
  lt := by
    rw [← length_region r t, List.length_nil]
    omega

end Enough

/-- With enough steps left, the walk leaves out no supertype of a type that it passes. -/
theorem supertype?_mem_walkFrom {types seen : List MediaType} {fuel : Nat}
    (h : r.Enough types seen fuel t) (hu : u ∈ r.walkFrom seen fuel t)
    (hs : r.supertype? u = some s) : s ∈ r.walkFrom seen fuel t ∨ s ∈ seen := by
  induction fuel generalizing seen t with
  | zero => simp [walkFrom] at hu
  | succ fuel ih =>
    rw [walkFrom] at hu ⊢
    by_cases hmem : t ∈ seen
    · simp [hmem] at hu
    · rw [if_neg hmem] at hu ⊢
      cases hnext : r.supertype? t with
      | none =>
        rw [hnext] at hu
        have hut : u = t := by simpa using hu
        rw [hut, hnext] at hs
        exact absurd hs (by simp)
      | some next =>
        simp only [hnext, List.mem_cons] at hu ⊢
        have hmore := h.next hmem hnext
        rcases hu with rfl | hu
        · -- The supertype of the first type comes next, unless it was seen or is `t` itself.
          have hsn : s = next := by
            rw [hnext, Option.some.injEq] at hs
            exact hs.symm
          subst hsn
          obtain ⟨fuel, rfl⟩ := Nat.exists_eq_succ_of_ne_zero hmore.fuel_ne_zero
          rw [walkFrom]
          by_cases hn : s ∈ u :: seen
          · rcases List.mem_cons.mp hn with rfl | hn
            · exact .inl (.inl rfl)
            · exact .inr hn
          · rw [if_neg hn]
            exact .inl (.inr List.mem_cons_self)
        · rcases ih hmore hu with hlater | hlater
          · exact .inl (.inr hlater)
          · rcases List.mem_cons.mp hlater with rfl | hlater
            · exact .inl (.inl rfl)
            · exact .inr hlater

/-- The walk leaves out no supertype of a type that it passes. -/
theorem supertype?_mem_walk (hu : u ∈ r.walk t) (hs : r.supertype? u = some s) : s ∈ r.walk t := by
  have h := supertype?_mem_walkFrom (Enough.walk r t) hu hs
  simpa [Registry.walk] using h

/-- The walk begins with the type itself. -/
theorem self_mem_walk (r : Registry) (t : MediaType) : t ∈ r.walk t := by
  unfold walk
  rw [← length_region r t, walkFrom]
  simp

/-- **The walk is complete.**  It holds exactly the types that lie some number of steps up. -/
theorem mem_walk_iff : u ∈ r.walk t ↔ ∃ n, r.ancestor? t n = some u := by
  constructor
  · intro h
    obtain ⟨i, hi⟩ := List.mem_iff_getElem?.mp h
    exact ⟨i, getElem?_walkFrom r r.reach [] t hi⟩
  · rintro ⟨n, hn⟩
    induction n generalizing u with
    | zero =>
      rw [ancestor?_zero, Option.some.injEq] at hn
      exact hn ▸ self_mem_walk r t
    | succ n ih =>
      obtain ⟨v, hv, hs⟩ := Option.bind_eq_some_iff.mp hn
      exact supertype?_mem_walk (ih hv) hs

/-! ### Searching along the walk -/

section Search

variable {β : Type} {f : MediaType → Option β} {b : β}

/-- A search along the walk finds nothing exactly when nothing on the way up is a hit. -/
theorem findSome?_walk_eq_none_iff :
    (r.walk t).findSome? f = none ↔ ∀ n u, r.ancestor? t n = some u → f u = none := by
  rw [List.findSome?_eq_none_iff]
  constructor
  · intro h n u hu
    exact h u (mem_walk_iff.mpr ⟨n, hu⟩)
  · intro h u hu
    obtain ⟨n, hn⟩ := mem_walk_iff.mp hu
    exact h n u hn

/-- What a search along the walk finds is the nearest hit on the way up. -/
theorem exists_of_findSome?_walk (h : (r.walk t).findSome? f = some b) :
    ∃ n u, r.ancestor? t n = some u ∧ f u = some b ∧
      ∀ m < n, ∀ v, r.ancestor? t m = some v → f v = none := by
  obtain ⟨before, u, after, hw, hu, hbefore⟩ := List.findSome?_eq_some_iff.mp h
  have entry : ∀ i v, (before ++ u :: after)[i]? = some v → r.ancestor? t i = some v := by
    intro i v hi
    rw [← hw] at hi
    exact getElem?_walkFrom r r.reach [] t hi
  refine ⟨before.length, u, entry _ _ (by simp), hu, ?_⟩
  intro m hm v hv
  have hmem : before[m]? = some before[m] := List.getElem?_eq_getElem hm
  have hm' : r.ancestor? t m = some before[m] :=
    entry m _ (by rw [List.getElem?_append_left hm, hmem])
  rw [hv, Option.some.injEq] at hm'
  exact hm' ▸ hbefore _ (List.getElem_mem hm)

/-- **A bounded search is as good as an unbounded one.**  A search along the walk finds `b` exactly
    when `b` is the answer for the nearest hit on the way up. -/
theorem findSome?_walk_eq_some_iff :
    (r.walk t).findSome? f = some b ↔
      ∃ n u, r.ancestor? t n = some u ∧ f u = some b ∧
        ∀ m < n, ∀ v, r.ancestor? t m = some v → f v = none := by
  refine ⟨exists_of_findSome?_walk, ?_⟩
  rintro ⟨n, u, hu, hb, hbefore⟩
  cases hfind : (r.walk t).findSome? f with
  | none =>
    have hn := findSome?_walk_eq_none_iff.mp hfind n u hu
    rw [hn] at hb
    exact absurd hb (by simp)
  | some c =>
    -- Two nearest hits are the same number of steps up, since neither lies before the other.
    obtain ⟨n', u', hu', hc, hbefore'⟩ := exists_of_findSome?_walk hfind
    have h₁ : ¬ n' < n := fun hlt => by simp [hbefore n' hlt u' hu'] at hc
    have h₂ : ¬ n < n' := fun hlt => by simp [hbefore' n hlt u hu] at hb
    obtain rfl : n' = n := by omega
    rw [hu, Option.some.injEq] at hu'
    rw [← hc, ← hu', hb]

end Search

end MediaGraph.Registry
