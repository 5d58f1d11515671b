import MediaGraph.Repository.Packaged

namespace MediaGraph.Registry

/-!
# Canonical types

Normalizing puts the type that an alias stands for in the place of the alias, once.  What comes out
is canonical where no alias stands for another alias.

* `Settled` — no alias stands for another one.
* `normalize_normalize` — with settled aliases, normalizing twice is normalizing once.
* `settled_packaged` — the packaged registry is settled.
-/

/-- Whether every alias stands for a type that is written in its normal form, without parameters,
    and is no alias itself. -/
def Settled (r : Registry) : Prop :=
  ∀ c ∈ r.aliases.values, MediaType.of c.type c.subtype [] = c ∧ r.aliases.get? c = none

instance (r : Registry) : Decidable r.Settled :=
  inferInstanceAs (Decidable (∀ c ∈ r.aliases.values, _ ∧ _))

/-- Parameters do not change the name of a type, apart from bringing it into its normal form. -/
theorem base_withParameters (t : MediaType) (pairs : List (String × String)) :
    (t.withParameters pairs).base = MediaType.of t.type t.subtype [] := rfl

variable {r : Registry} {t : MediaType}

/-- A type whose name is no alias is its own canonical type. -/
theorem normalize_of_get? (h : r.aliases.get? t.base = none) : r.normalize t = t := by
  rw [normalize, h]

/-- The canonical type of an alias goes by the name that the alias stands for. -/
theorem base_normalize_of_get? {c : MediaType} (h : r.aliases.get? t.base = some c)
    (hc : MediaType.of c.type c.subtype [] = c) : (r.normalize t).base = c := by
  have hparameters : c.parameters = [] := by rw [← hc]; rfl
  rw [normalize, h]
  dsimp only
  split
  · rw [base_withParameters, hc]
  · exact MediaType.base_eq_self hparameters

/-- **Normalizing once is enough** where no alias stands for another one. -/
theorem normalize_normalize (hr : r.Settled) (t : MediaType) :
    r.normalize (r.normalize t) = r.normalize t := by
  cases h : r.aliases.get? t.base with
  | none =>
    have hself : r.normalize t = t := normalize_of_get? h
    rw [hself, hself]
  | some c =>
    obtain ⟨hform, hnone⟩ := hr c (Assoc.mem_values_of_get? h)
    apply normalize_of_get?
    rw [base_normalize_of_get? h hform, hnone]

/-- No alias of the packaged registry stands for another one. -/
theorem settled_packaged : Repository.Packaged.repository.registry.Settled := by decide

end MediaGraph.Registry
