import Mathlib.Data.List.Dedup
import MediaGraph.Proofs.Registry.Building
import MediaGraph.Proofs.Registry.Order

namespace MediaGraph.Registry

/-!
# Looking for a type on the way up

Whether one type is an instance of another is found out by a loop that climbs from type to type.
It stops at the type that it looks for, at the top, or at a type that it has seen before, and no
number of steps is fixed in advance.

* `Climb` — the loop: the types it passes and the answer it ends with.
* `Climb.unique`, `exists_climb` — it has one outcome, and it has one.
* `length_climb_le` — how many types it passes in a registry that was built.
* `climb_built` — the loop and the order of types, in every registry that was built.
-/

/-! ### The loop -/

/-- The loop that looks for `b` from the current type upwards, when it has passed the types `seen`:
    the types that it still passes, and its answer.  There is no current type above the top. -/
inductive Climb (r : Registry) (b : MediaType) :
    List MediaType → Option MediaType → List MediaType → Bool → Prop
  | top {seen : List MediaType} : Climb r b seen none [] false
  | repeated {seen : List MediaType} {t : MediaType} : t ∈ seen → Climb r b seen (some t) [] false
  | found {seen : List MediaType} : b ∉ seen → Climb r b seen (some b) [b] true
  | step {seen visited : List MediaType} {t : MediaType} {answer : Bool} : t ∉ seen → t ≠ b →
      Climb r b (t :: seen) (r.supertype? t) visited answer →
      Climb r b seen (some t) (t :: visited) answer

variable {r : Registry} {a b c t u : MediaType} {seen visited : List MediaType}

namespace Climb

variable {current : Option MediaType} {answer : Bool}

/-- The loop passes the same types and gives the same answer whenever it is run. -/
theorem unique {visited' : List MediaType} {answer' : Bool}
    (h : r.Climb b seen current visited answer) (h' : r.Climb b seen current visited' answer') :
    visited' = visited ∧ answer' = answer := by
  -- The rules exclude each other: a type was seen or not, and it is `b` or not.
  induction h generalizing visited' answer' with
  | top =>
    cases h'
    exact ⟨rfl, rfl⟩
  | repeated hmem =>
    cases h' with
    | repeated => exact ⟨rfl, rfl⟩
    | found hnew => exact absurd hmem hnew
    | step hnew => exact absurd hmem hnew
  | found hnew =>
    cases h' with
    | repeated hmem => exact absurd hmem hnew
    | found => exact ⟨rfl, rfl⟩
    | step _ hne => exact absurd rfl hne
  | step hnew hne _ ih =>
    cases h' with
    | repeated hmem => exact absurd hmem hnew
    | found => exact absurd rfl hne
    | step _ _ hrest =>
      obtain ⟨rfl, rfl⟩ := ih hrest
      exact ⟨rfl, rfl⟩

/-- No type is passed twice, and none that was passed before. -/
theorem nodup (h : r.Climb b seen current visited answer) :
    visited.Nodup ∧ ∀ u ∈ visited, u ∉ seen := by
  -- What is passed from here on was not seen before, and a type counts as seen once it is passed.
  induction h with
  | top => simp
  | repeated => simp
  | found hnew => simpa using hnew
  | step hnew _ _ ih =>
    obtain ⟨hnodup, hrest⟩ := ih
    refine ⟨List.nodup_cons.mpr ⟨fun hmem => hrest _ hmem List.mem_cons_self, hnodup⟩, ?_⟩
    intro u hu
    rcases List.mem_cons.mp hu with rfl | hu
    · exact hnew
    · exact fun hseen => hrest u hu (List.mem_cons_of_mem _ hseen)

/-- The types that are passed lie on the way up. -/
theorem ancestor (h : r.Climb b seen current visited answer) (ht : current = some t)
    (hu : u ∈ visited) : ∃ n, r.ancestor? t n = some u := by
  induction h generalizing t with
  | top => cases hu
  | repeated => cases hu
  | found =>
    cases ht
    rw [List.mem_singleton.mp hu]
    exact ⟨0, rfl⟩
  | @step _ _ v _ _ _ hrest ih =>
    cases ht
    rcases List.mem_cons.mp hu with rfl | hu
    · exact ⟨0, rfl⟩
    · cases hs : r.supertype? v with
      | none =>
        rw [hs] at hrest
        cases hrest
        cases hu
      | some s =>
        obtain ⟨n, hn⟩ := ih hs hu
        exact ⟨n + 1, by rw [ancestor?_succ', hs, Option.bind_some, hn]⟩

end Climb

/-- Where the walk has enough steps, the loop ends, and its answer is whether the walk passes `b`. -/
theorem climb_walkFrom {types : List MediaType} {fuel : Nat} (h : r.Enough types seen fuel t)
    (b : MediaType) :
    ∃ visited, r.Climb b seen (some t) visited ((r.walkFrom seen fuel t).contains b) := by
  induction fuel generalizing seen t with
  | zero => exact absurd rfl h.fuel_ne_zero
  | succ fuel ih =>
    rw [walkFrom]
    by_cases hmem : t ∈ seen
    · rw [if_pos hmem]
      exact ⟨[], .repeated hmem⟩
    · rw [if_neg hmem, List.contains_cons]
      -- The walk goes on behind `b` and the loop does not, but either has found it then.
      by_cases hb : b = t
      · subst hb
        rw [beq_self_eq_true, Bool.true_or]
        exact ⟨[b], .found hmem⟩
      · rw [beq_eq_false_iff_ne.mpr hb, Bool.false_or]
        have htb : t ≠ b := fun heq => hb heq.symm
        cases hs : r.supertype? t with
        | none =>
          refine ⟨[t], .step hmem htb ?_⟩
          rw [hs]
          exact .top
        | some s =>
          obtain ⟨visited, hclimb⟩ := ih (h.next hmem hs)
          refine ⟨t :: visited, .step hmem htb ?_⟩
          rw [hs]
          exact hclimb

/-- **The loop ends**, from every type and whatever supertypes are recorded, and its answer is
    whether the one type is an instance of the other. -/
theorem exists_climb (r : Registry) (a b : MediaType) :
    ∃ visited, r.Climb b [] (some a) visited (r.isInstance a b) :=
  climb_walkFrom (Enough.walk r a) b

/-! ### The length of the way up -/

/-- In a registry that was built, the way up passes the type, its base, types that names imply, and
    recorded supertypes. -/
theorem mem_of_ancestor? (hr : r.Built) {n : Nat} (h : r.ancestor? a n = some u) :
    u ∈ a :: a.base :: impliedTypes ++ r.links.values.dedup := by
  have hbase : ∀ v ∈ r.links.values, v.base = v := by
    intro v hv
    obtain ⟨e, he, rfl⟩ := List.mem_map.mp hv
    exact (hr.sound.links e he).2.1.base_eq
  have hmap : r.links.values.map MediaType.base = r.links.values :=
    (List.map_congr_left hbase).trans (List.map_id _)
  -- Recorded supertypes are their own bases, so nothing is added by dropping their parameters.
  have hregion := mem_region_of_ancestor? h
  rw [region, hmap] at hregion
  simpa [or_assoc] using hregion

/-- **How far the loop climbs.**  It passes no more types than the type, its base, the five types
    that names imply, and the different recorded supertypes. -/
theorem length_climb_le (hr : r.Built) {answer : Bool}
    (h : r.Climb b [] (some a) visited answer) :
    visited.length ≤ 7 + r.links.values.dedup.length := by
  have hsubset : visited ⊆ a :: a.base :: impliedTypes ++ r.links.values.dedup := by
    intro u hu
    obtain ⟨n, hn⟩ := h.ancestor rfl hu
    exact mem_of_ancestor? hr hn
  have hlen := (List.subperm_of_subset h.nodup.1 hsubset).length_le
  rw [List.length_append] at hlen
  exact hlen

/-! ### The order that the loop decides -/

/-- Two types on one way up lie on one way up themselves. -/
theorem isInstance_or_of_isInstance (hb : r.isInstance a b = true) (hc : r.isInstance a c = true) :
    r.isInstance b c = true ∨ r.isInstance c b = true := by
  obtain ⟨m, hm⟩ := isInstance_iff.mp hb
  obtain ⟨n, hn⟩ := isInstance_iff.mp hc
  rcases Nat.le_total m n with hmn | hnm
  · exact .inl (isInstance_iff.mpr ⟨n - m, ancestor?_sub hmn hm hn⟩)
  · exact .inr (isInstance_iff.mpr ⟨m - n, ancestor?_sub hnm hn hm⟩)

/-- **Looking for a type on the way up**, in every registry that was built, recorded supertypes that
    lead in circles included.  The loop ends, with one outcome, after passing different types, at
    most seven and one for each different recorded supertype.  A type is an instance of those that
    some steps lead to, and a specialization of those that one step or more lead to.  So being an
    instance is reflexive and transitive, and of two types that a type is an instance of, one is an
    instance of the other. -/
theorem climb_built (hr : r.Built) :
    (∀ a b, ∃ visited,
      (∀ types answer, r.Climb b [] (some a) types answer ↔
        types = visited ∧ answer = r.isInstance a b) ∧
      visited.Nodup ∧ visited.length ≤ 7 + r.links.values.dedup.length) ∧
    (∀ a b, r.isInstance a b = true ↔ ∃ n, r.ancestor? a n = some b) ∧
    (∀ a b, r.isSpecialization a b = true ↔ ∃ n, r.ancestor? a (n + 1) = some b) ∧
    (∀ a, r.isInstance a a = true) ∧
    (∀ a b c, r.isInstance a b = true → r.isInstance b c = true → r.isInstance a c = true) ∧
    (∀ a b c, r.isInstance a b = true → r.isInstance a c = true →
      r.isInstance b c = true ∨ r.isInstance c b = true) := by
  refine ⟨fun a b => ?_, fun a b => isInstance_iff, fun a b => isSpecialization_iff,
    fun a => isInstance_iff.mpr ⟨0, rfl⟩, fun a b c hb hc => ?_,
    fun a b c => isInstance_or_of_isInstance⟩
  · obtain ⟨visited, hclimb⟩ := exists_climb r a b
    refine ⟨visited, fun types answer => ⟨hclimb.unique, ?_⟩, hclimb.nodup.1,
      length_climb_le hr hclimb⟩
    rintro ⟨rfl, rfl⟩
    exact hclimb
  · obtain ⟨m, hm⟩ := isInstance_iff.mp hb
    obtain ⟨n, hn⟩ := isInstance_iff.mp hc
    exact isInstance_iff.mpr ⟨m + n, ancestor?_trans hm hn⟩

/-- Where two types are recorded as each other's supertypes, the search for the top from one of them
    with parameters passes three types and ends without finding it, and each of the two types is an
    instance of itself by way of the other one. -/
theorem climb_built_circular :
    circular.Built ∧
    (∀ types answer, circular.Climb .octetStream []
        (some (.of "application" "x-a" [("charset", "utf-8")])) types answer ↔
      types = [.of "application" "x-a" [("charset", "utf-8")], .ofApplication "x-a",
        .ofApplication "x-b"] ∧ answer = false) ∧
    circular.isSpecialization (.ofApplication "x-b") (.ofApplication "x-b") = true ∧
    ∀ a, circular.isInstance (.ofApplication "x-b") a = true →
      circular.isInstance (.ofApplication "x-a") a = true := by
  have hbuilt : circular.Built :=
    ⟨[.addSupertype (.ofApplication "x-a") (.ofApplication "x-b"),
      .addSupertype (.ofApplication "x-b") (.ofApplication "x-a"), .freeze], by decide, by decide⟩
  obtain ⟨hclimb, -, hspecialization, -, htrans, -⟩ := climb_built hbuilt
  refine ⟨hbuilt, fun types answer => ?_, ?_, fun a => ?_⟩
  · have hrun : circular.Climb .octetStream []
        (some (.of "application" "x-a" [("charset", "utf-8")]))
        [.of "application" "x-a" [("charset", "utf-8")], .ofApplication "x-a",
          .ofApplication "x-b"] false :=
      .step (by decide) (by decide) <| .step (by decide) (by decide) <|
        .step (by decide) (by decide) <| .repeated (by decide)
    obtain ⟨visited, hunique, -, -⟩ := hclimb (.of "application" "x-a" [("charset", "utf-8")])
      .octetStream
    obtain ⟨hvisited, hanswer⟩ := (hunique _ _).mp hrun
    rw [hunique, ← hvisited, ← hanswer]
  · exact (hspecialization _ _).mpr ⟨1, by decide⟩
  · exact htrans _ _ a (by decide)

end MediaGraph.Registry
