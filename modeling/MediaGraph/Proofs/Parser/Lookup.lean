import MediaGraph.Parser.Packaged
import MediaGraph.Proofs.Parser.Table
import MediaGraph.Proofs.Registry.Walk

namespace MediaGraph.Parser

/-!
# Looking a type up

A composite looks a type up by its table and its registry.  This file says the outcome without
either of them: on the way up from the type, which may be endless, the nearest type that some child
claims decides, and of the children that claim it the last one is chosen.

* `Selects` — what a lookup has to find.
* `selected` — what it finds; `selects_iff` — the two agree.
* `find?_selects_and_mem_types` — the lookup and the advertised types of every composite.
* `never_found_iff` — when no composite whatever finds a child for a type.
-/

variable {registry : Registry} {children : List Parser} {fallback found : Parser} {t : MediaType}

/-- Whether `found` is the parser for `t`: the last child that claims the nearest claimed type on
    the way up, or the fallback when nothing on the way up is claimed. -/
def Selects (registry : Registry) (children : List Parser) (fallback : Parser) (t : MediaType)
    (found : Parser) : Prop :=
  (∃ n u i, registry.ancestor? t n = some u ∧
      LastClaimant registry children (registry.normalize u) i found ∧
      ∀ m < n, ∀ v, registry.ancestor? t m = some v →
        Unclaimed registry children (registry.normalize v)) ∨
    (∀ n u, registry.ancestor? t n = some u →
      Unclaimed registry children (registry.normalize u)) ∧ found = fallback

/-- The parser that a lookup finds for a type. -/
def selected (registry : Registry) (children : List Parser) (fallback : Parser)
    (t : MediaType) : Parser :=
  ((choose registry children (some t)).bind (children[·]?)).getD fallback

/-- A lookup in a composite finds the selected parser. -/
theorem result_find?_composite (cls : ClassRef) (detector : Option Detector)
    (registry : Registry) (children : List Parser) (excluded : List ClassRef) (fallback : Parser)
    (t : MediaType) :
    ((Parser.composite cls detector registry children excluded fallback).find? (some t)).map
        (·.result)
      = some (.ok (selected registry children fallback t)) := rfl

/-! ### The number of the child -/

/-- A lookup chooses no child exactly when nothing on the way up is claimed. -/
theorem choose_eq_none_iff :
    choose registry children (some t) = none ↔
      ∀ n u, registry.ancestor? t n = some u →
        Unclaimed registry children (registry.normalize u) := by
  unfold choose claimant?
  rw [Option.bind_some, Registry.findSome?_walk_eq_none_iff]
  simp only [get?_dispatchTable_eq_none_iff]

/-- A lookup chooses the last claimant of the nearest claimed type on the way up. -/
theorem choose_eq_some_iff {i : Nat} :
    choose registry children (some t) = some i ↔
      ∃ n u child, registry.ancestor? t n = some u ∧
        LastClaimant registry children (registry.normalize u) i child ∧
        ∀ m < n, ∀ v, registry.ancestor? t m = some v →
          Unclaimed registry children (registry.normalize v) := by
  unfold choose claimant?
  rw [Option.bind_some, Registry.findSome?_walk_eq_some_iff]
  simp only [get?_dispatchTable_eq_none_iff, get?_dispatchTable_eq_some_iff]
  constructor
  · rintro ⟨n, u, hu, ⟨child, hchild⟩, hbefore⟩
    exact ⟨n, u, child, hu, hchild, hbefore⟩
  · rintro ⟨n, u, child, hu, hchild, hbefore⟩
    exact ⟨n, u, hu, ⟨child, hchild⟩, hbefore⟩

/-- The child that a lookup chooses is there. -/
theorem getElem?_of_choose {t : Option MediaType} {i : Nat}
    (h : choose registry children t = some i) : ∃ child, children[i]? = some child := by
  cases t with
  | none => cases h
  | some t =>
    obtain ⟨_, _, child, _, hclaims, _⟩ := choose_eq_some_iff.mp h
    exact ⟨child, hclaims.1⟩

/-- Where a child is chosen, it is the selected parser. -/
theorem selected_of_choose {i : Nat} {child : Parser}
    (h : choose registry children (some t) = some i) (hc : children[i]? = some child) :
    selected registry children fallback t = child := by
  rw [selected, h, Option.bind_some, hc, Option.getD_some]

/-- Where no child is chosen, the fallback is the selected parser. -/
theorem selected_of_choose_none (h : choose registry children (some t) = none) :
    selected registry children fallback t = fallback := by
  rw [selected, h, Option.bind_none, Option.getD_none]

/-! ### The parser -/

/-- The parser that a lookup finds is the one that it has to find. -/
theorem selects_selected (registry : Registry) (children : List Parser) (fallback : Parser)
    (t : MediaType) :
    Selects registry children fallback t (selected registry children fallback t) := by
  cases h : choose registry children (some t) with
  | none => exact .inr ⟨choose_eq_none_iff.mp h, selected_of_choose_none h⟩
  | some i =>
    obtain ⟨n, u, child, hu, hchild, hbefore⟩ := choose_eq_some_iff.mp h
    rw [selected_of_choose h hchild.1]
    exact .inl ⟨n, u, i, hu, hchild, hbefore⟩

/-- **A lookup finds one parser only.**  The rule for the parser of a type leaves no choice, and the
    lookup follows it. -/
theorem selects_iff :
    Selects registry children fallback t found ↔
      selected registry children fallback t = found := by
  constructor
  · rintro (⟨n, u, i, hu, hfound, hbefore⟩ | ⟨hnone, rfl⟩)
    · exact selected_of_choose (choose_eq_some_iff.mpr ⟨n, u, found, hu, hfound, hbefore⟩) hfound.1
    · exact selected_of_choose_none (choose_eq_none_iff.mpr hnone)
  · rintro rfl
    exact selects_selected registry children fallback t

/-- A composite advertises the canonical types of what its children advertise. -/
theorem mem_types_composite (cls : ClassRef) (detector : Option Detector) (registry : Registry)
    (children : List Parser) (excluded : List ClassRef) (fallback : Parser) (u : MediaType) :
    u ∈ (Parser.composite cls detector registry children excluded fallback).types ↔
      ∃ child ∈ children, Claims registry child.types u := by
  rw [types, TypeSet.mem_ofList, typesOfAll_eq_map, List.mem_map]
  simp only [List.mem_flatten, List.mem_map, Claims]
  constructor
  · rintro ⟨w, ⟨_, ⟨child, hchild, rfl⟩, hw⟩, hu⟩
    exact ⟨child, hchild, w, hw, hu⟩
  · rintro ⟨child, hchild, w, hw, hu⟩
    exact ⟨w, ⟨_, ⟨child, hchild, rfl⟩, hw⟩, hu⟩

/-- **Dispatch of a composite.**  For every registry, with cyclic supertypes and aliases of aliases
    too, every list of children, every fallback and every type, a lookup finds the last child that
    claims the nearest claimed type on the way up, and the fallback when no type of the whole way
    up is claimed; nothing else fits that rule.  The composite advertises the canonical types of
    what its children advertise, and no others. -/
theorem find?_selects_and_mem_types (cls : ClassRef) (detector : Option Detector)
    (registry : Registry) (children : List Parser) (excluded : List ClassRef)
    (fallback : Parser) :
    (∀ t, ∃ found,
      ((Parser.composite cls detector registry children excluded fallback).find? (some t)).map
          (·.result) = some (.ok found) ∧
        Selects registry children fallback t found ∧
        ∀ other, Selects registry children fallback t other → other = found) ∧
      ∀ u, u ∈ (Parser.composite cls detector registry children excluded fallback).types ↔
        ∃ child ∈ children, ∃ w ∈ child.types, registry.normalize w = u := by
  constructor
  · intro t
    refine ⟨_, result_find?_composite cls detector registry children excluded fallback t,
      selects_selected registry children fallback t, ?_⟩
    intro other h
    exact (selects_iff.mp h).symm
  · intro u
    exact mem_types_composite cls detector registry children excluded fallback u

/-! ### One child -/

/-- Whether a parser claims some type on the way up from `t`. -/
def Reaches (registry : Registry) (p : Parser) (t : MediaType) : Prop :=
  ∃ n u, registry.ancestor? t n = some u ∧ Claims registry p.types (registry.normalize u)

/-- A parser that does not reach a type is found for it as the fallback only. -/
theorem Selects.eq_fallback (h : Selects registry children fallback t found)
    (hfound : ¬ Reaches registry found t) : found = fallback := by
  rcases h with ⟨n, u, i, hu, ⟨-, hclaims, -⟩, -⟩ | ⟨-, h⟩
  · exact absurd ⟨n, u, hu, hclaims⟩ hfound
  · exact h

/-- A parser that reaches a type is found for it where it is the only child. -/
theorem selected_singleton {child : Parser} (h : Reaches registry child t) :
    selected registry [child] fallback t = child := by
  obtain ⟨n, u, hu, hclaims⟩ := h
  rcases selects_selected registry [child] fallback t with
    ⟨-, -, i, -, ⟨hchild, -⟩, -⟩ | ⟨hnone, -⟩
  · exact List.mem_singleton.mp (List.mem_of_getElem? hchild)
  · exact absurd hclaims (hnone n u hu child (List.mem_singleton_self child))

/-- A lookup in a parser that holds others finds the selected one. -/
theorem result_find?_of_holding {p : Parser} (h : p.holding? = some (registry, fallback))
    (t : MediaType) :
    (p.find? (some t)).map (·.result)
      = some (.ok (selected registry p.children fallback t)) := by
  rw [find?, h]
  rfl

/-- **When a child is never found.**  No composite over a registry, whatever its other children and
    its fallback, finds a child for a type (except as its fallback), exactly when the child claims
    nothing on the way up from the type. -/
theorem never_found_iff {child : Parser} (hchild : nothing ≠ child) :
    (∀ (p : Parser) fallback, p.holding? = some (registry, fallback) → child ∈ p.children →
        fallback ≠ child → (p.find? (some t)).map (·.result) ≠ some (.ok child)) ↔
      ¬ Reaches registry child t := by
  constructor
  · intro h hreaches
    refine h (.composite compositeClass none registry [child] [] nothing) nothing rfl
      (List.mem_singleton_self child) hchild ?_
    rw [result_find?_composite, selected_singleton hreaches]
  · intro h p fallback hholding _ hfallback hfind
    rw [result_find?_of_holding hholding, Option.some.injEq, Except.ok.injEq] at hfind
    exact hfallback ((selects_iff.mpr hfind).eq_fallback h).symm

end MediaGraph.Parser
