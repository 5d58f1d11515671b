import Mathlib.Order.Preorder.Finite
import MediaGraph.Proofs.Registry.Walk
import MediaGraph.Repository.Packaged

namespace MediaGraph.Registry

/-!
# The order of media types

A type specializes another one when the other one lies strictly above it.  A draft takes any
supertype, so the way up can lead back to where it began, and a type on such a cycle lies strictly
above itself.  This file says what is left of an order then, and where it is a strict order with
`application/octet-stream` on top.

* `isInstance_iff`, `isSpecialization_iff` — the order, in steps upwards.
* `isInstance_trans`, `isSpecialization_trans_isInstance` — ways up follow one another.
* `OnCycle` — the way up from a type leads back to it.
* `exists_linked_of_onCycle` — every cycle passes a type with a recorded supertype, since the
  supertypes that names imply only lead to lower `height`.
* `isInstance_octetStream_or_onCycle` — a way up passes the top or runs into a cycle.
* `specialization_order` — the order of every registry.
* `specialization_cyclic` — a registry in which a type specializes itself.
-/

variable {r : Registry} {t u s a b c : MediaType}

/-! ### Steps upwards -/

/-- Steps upwards add up. -/
theorem ancestor?_add (r : Registry) (t : MediaType) (m n : Nat) :
    r.ancestor? t (m + n) = (r.ancestor? t m).bind fun u => r.ancestor? u n := by
  induction n with
  | zero => simp
  | succ n ih =>
    rw [← Nat.add_assoc, ancestor?_succ, ih]
    cases r.ancestor? t m <;> rfl

/-- A way up that goes on from where another one ends. -/
theorem ancestor?_trans {m n : Nat} (hb : r.ancestor? a m = some b)
    (hc : r.ancestor? b n = some c) : r.ancestor? a (m + n) = some c := by
  rw [ancestor?_add, hb, Option.bind_some, hc]

/-- The rest of a way up that passes a type begins there. -/
theorem ancestor?_sub {m n : Nat} (hmn : m ≤ n) (hb : r.ancestor? a m = some b)
    (hc : r.ancestor? a n = some c) : r.ancestor? b (n - m) = some c := by
  rw [← Nat.add_sub_cancel' hmn, ancestor?_add, hb, Option.bind_some] at hc
  exact hc

theorem isInstance_iff : r.isInstance a b = true ↔ ∃ n, r.ancestor? a n = some b := by
  rw [isInstance, List.contains_iff_mem, mem_walk_iff]

theorem isSpecialization_iff :
    r.isSpecialization a b = true ↔ ∃ n, r.ancestor? a (n + 1) = some b := by
  unfold isSpecialization
  simp only [ancestor?_succ']
  cases r.supertype? a with
  | none => simp
  | some s => simpa using isInstance_iff

theorem isInstance_refl (r : Registry) (a : MediaType) : r.isInstance a a = true :=
  isInstance_iff.mpr ⟨0, rfl⟩

theorem isInstance_trans (hab : r.isInstance a b = true) (hbc : r.isInstance b c = true) :
    r.isInstance a c = true := by
  obtain ⟨m, hm⟩ := isInstance_iff.mp hab
  obtain ⟨n, hn⟩ := isInstance_iff.mp hbc
  exact isInstance_iff.mpr ⟨m + n, ancestor?_trans hm hn⟩

/-- A specialization is an instance. -/
theorem isInstance_of_isSpecialization (h : r.isSpecialization a b = true) :
    r.isInstance a b = true := by
  obtain ⟨n, hn⟩ := isSpecialization_iff.mp h
  exact isInstance_iff.mpr ⟨n + 1, hn⟩

/-- What specializes a type specializes whatever this type is an instance of. -/
theorem isSpecialization_trans_isInstance (hab : r.isSpecialization a b = true)
    (hbc : r.isInstance b c = true) : r.isSpecialization a c = true := by
  obtain ⟨m, hm⟩ := isSpecialization_iff.mp hab
  obtain ⟨n, hn⟩ := isInstance_iff.mp hbc
  refine isSpecialization_iff.mpr ⟨m + n, ?_⟩
  rw [Nat.add_right_comm]
  exact ancestor?_trans hm hn

/-- An instance of a type is this type or a specialization of it. -/
theorem eq_or_isSpecialization_of_isInstance (h : r.isInstance a b = true) :
    a = b ∨ r.isSpecialization a b = true := by
  obtain ⟨n, hn⟩ := isInstance_iff.mp h
  cases n with
  | zero =>
    rw [ancestor?_zero, Option.some.injEq] at hn
    exact .inl hn
  | succ n => exact .inr (isSpecialization_iff.mpr ⟨n, hn⟩)

/-! ### Cycles -/

/-- Whether some steps, at least one, lead from a type back to itself. -/
def OnCycle (r : Registry) (t : MediaType) : Prop := ∃ n, r.ancestor? t (n + 1) = some t

/-- Types that lie above each other, one of them strictly, are on a cycle. -/
theorem onCycle_of_ancestor? {m n : Nat} (hb : r.ancestor? a m = some b)
    (ha : r.ancestor? b n = some a) (hpos : 0 < m + n) : r.OnCycle a := by
  refine ⟨m + n - 1, ?_⟩
  rw [Nat.sub_add_cancel hpos]
  exact ancestor?_trans hb ha

/-- Whether the supertype of a type is a recorded one. -/
def Linked (r : Registry) (t : MediaType) : Prop :=
  t.hasParameters = false ∧ ∃ s, r.links.get? t = some s

/-- How far a type is from the top where nothing is recorded: a bound on the number of steps. -/
def height (t : MediaType) : Nat :=
  if t.hasParameters then 3
  else if t = .octetStream then 0
  else if t ∈ impliedTypes then 1
  else 2

theorem height_base_le (t : MediaType) : height t.base ≤ 2 := by
  unfold height
  rw [MediaType.hasParameters, MediaType.base_parameters]
  split
  · contradiction
  · split
    · omega
    · split <;> omega

/-- The supertypes that names imply lead down in height. -/
theorem height_lt_of_impliedSupertype? (h : impliedSupertype? t = some s) :
    height s < height t := by
  have implied : ∀ v ∈ impliedTypes, height v ≤ 1 := by decide
  have among : ∀ v ∈ impliedTypes, ∀ w ∈ impliedSupertype? v, height w < height v := by decide
  by_cases ht : t ∈ impliedTypes
  · exact among t ht s h
  · have hs : height s ≤ 1 := implied s (impliedSupertype?_mem h)
    have htop : t ≠ .octetStream := by
      rintro rfl
      exact ht (by decide)
    have ht : 2 ≤ height t := by
      unfold height
      rw [if_neg htop, if_neg ht]
      split <;> omega
    omega

/-- A step that follows no recorded supertype leads down in height. -/
theorem height_lt_of_supertype? (h : r.supertype? t = some s) (ht : ¬ r.Linked t) :
    height s < height t := by
  unfold supertype? at h
  cases hp : t.hasParameters with
  | true =>
    rw [hp, if_pos rfl, Option.some.injEq] at h
    have hle := height_base_le t
    have hheight : height t = 3 := by rw [height, if_pos hp]
    rw [h] at hle
    omega
  | false =>
    rw [hp, if_neg Bool.false_ne_true] at h
    cases hlink : r.links.get? t with
    | none =>
      rw [hlink] at h
      exact height_lt_of_impliedSupertype? h
    | some link => exact absurd ⟨hp, link, hlink⟩ ht

/-- A way up along which nothing is recorded is no longer than the height that it loses. -/
theorem height_add_le {n : Nat} (h : r.ancestor? t n = some u)
    (hfree : ∀ m < n, ∀ v, r.ancestor? t m = some v → ¬ r.Linked v) :
    height u + n ≤ height t := by
  induction n generalizing u with
  | zero =>
    rw [ancestor?_zero, Option.some.injEq] at h
    rw [h]
    omega
  | succ n ih =>
    obtain ⟨v, hv, hu⟩ := Option.bind_eq_some_iff.mp h
    have hle := ih hv fun m hm => hfree m (by omega)
    have hlt := height_lt_of_supertype? hu (hfree n (by omega) v hv)
    omega

/-- **No cycle without a recorded supertype.**  A cycle passes a type whose supertype is recorded,
    which is then on the same cycle. -/
theorem exists_linked_of_onCycle (h : r.OnCycle t) :
    ∃ k, r.Linked k ∧ r.OnCycle k ∧ r.isInstance t k = true ∧ r.isInstance k t = true := by
  obtain ⟨n, hn⟩ := h
  by_contra hnone
  have hfree : ∀ m < n + 1, ∀ v, r.ancestor? t m = some v → ¬ r.Linked v := by
    intro m hm v hv hlinked
    have hback : r.ancestor? v (n + 1 - m) = some t := ancestor?_sub (by omega) hv hn
    have hcycle : r.OnCycle v := onCycle_of_ancestor? hback hv (by omega)
    exact hnone ⟨v, hlinked, hcycle, isInstance_iff.mpr ⟨m, hv⟩, isInstance_iff.mpr ⟨_, hback⟩⟩
  -- Around the cycle the height would have to be lost and be the same again.
  have hle := height_add_le hn hfree
  omega

/-- Where no type with a recorded supertype specializes itself, there are no cycles. -/
theorem not_onCycle_of_keys (h : ∀ k ∈ r.links.keys, r.isSpecialization k k = false) :
    ¬ r.OnCycle t := by
  intro hcycle
  obtain ⟨k, ⟨-, s, hs⟩, hk, -⟩ := exists_linked_of_onCycle hcycle
  have hself : r.isSpecialization k k = true := isSpecialization_iff.mpr hk
  rw [h k (Assoc.mem_keys_of_get? hs)] at hself
  cases hself

/-! ### The top -/

/-- Names imply a supertype for every type but the top. -/
theorem eq_octetStream_of_impliedSupertype? (h : impliedSupertype? t = none) :
    t = .octetStream := by
  unfold impliedSupertype? at h
  repeat' split at h
  all_goals first
    | exact not_not.mp ‹¬ t ≠ .octetStream›
    | exact absurd h (by simp)

/-- The way up ends nowhere but at the top. -/
theorem eq_octetStream_of_supertype? (h : r.supertype? t = none) : t = .octetStream := by
  unfold supertype? at h
  split at h
  · cases h
  · split at h
    · cases h
    · exact eq_octetStream_of_impliedSupertype? h

theorem mem_region_of_ancestor? {n : Nat} (h : r.ancestor? t n = some u) : u ∈ r.region t := by
  induction n generalizing u with
  | zero =>
    rw [ancestor?_zero, Option.some.injEq] at h
    simp [region, h]
  | succ n ih =>
    obtain ⟨v, hv, hu⟩ := Option.bind_eq_some_iff.mp h
    exact supertype?_mem_region (ih hv) hu

/-- An endless way up runs into a cycle, since there are only finitely many types to pass. -/
theorem exists_onCycle_of_endless (h : ∀ n, r.ancestor? t n ≠ none) :
    ∃ c, r.isInstance t c = true ∧ r.OnCycle c := by
  have hregion : ∀ n, r.ancestor? t n ∈ {o | o ∈ (r.region t).map some} := by
    intro n
    obtain ⟨u, hu⟩ := Option.ne_none_iff_exists'.mp (h n)
    rw [hu]
    exact List.mem_map_of_mem (mem_region_of_ancestor? hu)
  obtain ⟨m, n, hmn, heq⟩ :=
    Set.Finite.exists_lt_map_eq_of_forall_mem hregion (List.finite_toSet _)
  obtain ⟨c, hc⟩ := Option.ne_none_iff_exists'.mp (h m)
  have hagain : r.ancestor? c (n - m) = some c := ancestor?_sub hmn.le hc (heq ▸ hc)
  refine ⟨c, isInstance_iff.mpr ⟨m, hc⟩, ?_⟩
  exact onCycle_of_ancestor? hagain (ancestor?_zero r c) (by omega)

/-- **Every way up passes the top**, unless it runs into a cycle away from the top. -/
theorem isInstance_octetStream_or_onCycle (r : Registry) (t : MediaType) :
    r.isInstance t .octetStream = true ∨
      ∃ c, r.isInstance t c = true ∧ r.OnCycle c ∧ r.isInstance c .octetStream = false := by
  refine or_iff_not_imp_left.mpr fun htop => ?_
  have hendless : ∀ n, r.ancestor? t n ≠ none := by
    intro n
    induction n with
    | zero => simp
    | succ n ih =>
      obtain ⟨u, hu⟩ := Option.ne_none_iff_exists'.mp ih
      rw [ancestor?_succ, hu, Option.bind_some]
      intro hnone
      exact htop (isInstance_iff.mpr ⟨n, eq_octetStream_of_supertype? hnone ▸ hu⟩)
  obtain ⟨c, hc, hcycle⟩ := exists_onCycle_of_endless hendless
  refine ⟨c, hc, hcycle, ?_⟩
  rw [← Bool.not_eq_true]
  intro habove
  obtain ⟨m, hm⟩ := isInstance_iff.mp hc
  obtain ⟨n, hn⟩ := isInstance_iff.mp habove
  exact htop (isInstance_iff.mpr ⟨m + n, ancestor?_trans hm hn⟩)

/-! ### The order -/

/-- Types specialize each other exactly where they are on one cycle. -/
theorem isSpecialization_both_iff :
    r.isSpecialization a b = true ∧ r.isSpecialization b a = true ↔
      r.OnCycle a ∧ r.isInstance a b = true ∧ r.isInstance b a = true := by
  simp only [isSpecialization_iff, isInstance_iff]
  constructor
  · rintro ⟨⟨m, hb⟩, n, ha⟩
    exact ⟨onCycle_of_ancestor? hb ha (by omega), ⟨_, hb⟩, _, ha⟩
  · rintro ⟨⟨k, hk⟩, ⟨m, hb⟩, n, ha⟩
    refine ⟨⟨k + m, ?_⟩, n + k, ?_⟩
    · rw [Nat.add_right_comm]
      exact ancestor?_trans hk hb
    · rw [Nat.add_assoc]
      exact ancestor?_trans ha hk

/-- **The order of media types.**  In every registry, whatever is recorded in it, a type specializes
    itself exactly where its way up leads back to it, and two types specialize each other exactly
    where they are on one such cycle; specializing is transitive; and every type is an instance of
    `application/octet-stream` unless its way up runs into a cycle away from it.  Every cycle passes
    a type whose supertype is recorded.  So where none of these is on a cycle, specializing is a
    strict order, and `application/octet-stream` is on top. -/
theorem specialization_order (r : Registry) :
    (∀ a, r.isSpecialization a a = true ↔ r.OnCycle a) ∧
    (∀ a b, r.isSpecialization a b = true ∧ r.isSpecialization b a = true ↔
      r.OnCycle a ∧ r.isInstance a b = true ∧ r.isInstance b a = true) ∧
    (∀ a b c, r.isSpecialization a b = true → r.isSpecialization b c = true →
      r.isSpecialization a c = true) ∧
    (∀ a, r.isInstance a .octetStream = true ∨
      ∃ c, r.isInstance a c = true ∧ r.OnCycle c ∧ r.isInstance c .octetStream = false) ∧
    (∀ a, r.OnCycle a →
      ∃ k, r.Linked k ∧ r.OnCycle k ∧ r.isInstance a k = true ∧ r.isInstance k a = true) ∧
    ((∀ k, r.Linked k → ¬ r.OnCycle k) → ∀ a b,
      r.isSpecialization a a = false ∧
      ¬ (r.isSpecialization a b = true ∧ r.isSpecialization b a = true) ∧
      r.isInstance a .octetStream = true) := by
  refine ⟨fun a => isSpecialization_iff, fun a b => isSpecialization_both_iff, ?_,
    isInstance_octetStream_or_onCycle r, fun a => exists_linked_of_onCycle, ?_⟩
  · intro a b c hab hbc
    obtain ⟨m, hm⟩ := isSpecialization_iff.mp hab
    obtain ⟨n, hn⟩ := isSpecialization_iff.mp hbc
    refine isSpecialization_iff.mpr ⟨m + 1 + n, ?_⟩
    rw [Nat.add_assoc]
    exact ancestor?_trans hm hn
  · intro hlinked a b
    have hacyclic : ∀ v, ¬ r.OnCycle v := by
      intro v hv
      obtain ⟨k, hk, hcycle, -⟩ := exists_linked_of_onCycle hv
      exact hlinked k hk hcycle
    refine ⟨?_, ?_, ?_⟩
    · rw [← Bool.not_eq_true]
      exact fun h => hacyclic a (isSpecialization_iff.mp h)
    · exact fun h => hacyclic a (isSpecialization_both_iff.mp h).1
    · rcases isInstance_octetStream_or_onCycle r a with htop | ⟨c, -, hcycle, -⟩
      · exact htop
      · exact absurd hcycle (hacyclic c)

/-- The recorded supertypes of the packaged registry lead to no cycle, so specializing is a strict
    order there, with `application/octet-stream` on top. -/
theorem specialization_order_packaged :
    (∀ k, Repository.Packaged.repository.registry.Linked k →
      ¬ Repository.Packaged.repository.registry.OnCycle k) ∧
    ∀ a b, Repository.Packaged.repository.registry.isSpecialization a a = false ∧
      ¬ (Repository.Packaged.repository.registry.isSpecialization a b = true ∧
        Repository.Packaged.repository.registry.isSpecialization b a = true) ∧
      Repository.Packaged.repository.registry.isInstance a .octetStream = true := by
  have hacyclic : ∀ k, Repository.Packaged.repository.registry.Linked k →
      ¬ Repository.Packaged.repository.registry.OnCycle k := by
    rintro k ⟨-, s, hs⟩
    have hkey : k ∈ Repository.Packaged.repository.registry.links.keys :=
      Assoc.mem_keys_of_get? hs
    have hfree : ∀ k ∈ Repository.Packaged.repository.registry.links.keys,
        Repository.Packaged.repository.registry.isSpecialization k k = false := by
      decide
    intro hcycle
    have hself := isSpecialization_iff.mpr hcycle
    rw [hfree k hkey] at hself
    cases hself
  exact ⟨hacyclic, (specialization_order Repository.Packaged.repository.registry).2.2.2.2.2 hacyclic⟩

/-- Two types, each of which is recorded as the supertype of the other. -/
def circular : Registry :=
  ((Draft.empty.addSupertype (.ofApplication "x-a") (.ofApplication "x-b")).addSupertype
    (.ofApplication "x-b") (.ofApplication "x-a")).freeze

/-- In this registry a type specializes itself, two types specialize each other, and neither is an
    instance of `application/octet-stream`. -/
theorem specialization_cyclic :
    circular.isSpecialization (.ofApplication "x-a") (.ofApplication "x-a") = true ∧
      circular.isSpecialization (.ofApplication "x-a") (.ofApplication "x-b") = true ∧
      circular.isSpecialization (.ofApplication "x-b") (.ofApplication "x-a") = true ∧
      circular.isInstance (.ofApplication "x-a") .octetStream = false := by
  decide

end MediaGraph.Registry
