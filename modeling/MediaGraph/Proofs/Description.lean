import Mathlib.Data.List.Basic
import Mathlib.Data.List.Flatten
import MediaGraph.Description

namespace MediaGraph

/-!
# The lines of a component tree

A tree is listed in lines, one for a component and those for its parts behind it, each level two
blanks further in.  The parts of a component are what it wraps and what it holds.  A description
tells either the one or the others: where a parser wraps another one and holds some as well, the
one that it wraps is left out, with all that stands inside it, and nothing else ever is.

* `Nesting` — what counts as the parts of a component; `Nesting.preorder` — a tree part by part.
* `Nesting.whole`, `Nesting.told` — all parts of a component, and those that a description tells.
* `Component.lineOf` — the line of a component at some depth.
* `Component.lines_of_describe` — the lines of a tree.
* `Component.lines_of_twofold` — a tree with a component that has no line.
-/

/-! ### Parts of components -/

namespace Component

/-- What a component wraps. -/
def wrapped? : Component → Option Component
  | .parser (.decorator _ _ inner) => some (.parser inner)
  | .parser (.bundle _ _ _ _ inner) => some (.parser inner)
  | _ => none

/-- Whether a component holds others and wraps one as well. -/
def Twofold (c : Component) : Prop := ∃ cs p, c.children = some cs ∧ c.wrapped? = some p

variable {c p : Component} {cs : List Component}

/-- What a component holds is smaller. -/
theorem sizeOf_lt_of_children (h : c.children = some cs) (hp : p ∈ cs) : sizeOf p < sizeOf c := by
  cases c with
  | detector d =>
    cases d with
    | composite cls r ds =>
      cases h
      obtain ⟨d, hd, rfl⟩ := List.mem_map.mp hp
      have hlt := List.sizeOf_lt_of_mem hd
      simp only [detector.sizeOf_spec, Detector.composite.sizeOf_spec]
      omega
    | _ => cases h
  | parser q =>
    cases q with
    | composite cls detector registry ps excluded fallback =>
      cases h
      obtain ⟨q, hq, rfl⟩ := List.mem_map.mp hp
      have hlt := List.sizeOf_lt_of_mem hq
      simp only [parser.sizeOf_spec, Parser.composite.sizeOf_spec, Parser.children] at hlt ⊢
      omega
    | bundle cls registry ps fallback inner =>
      cases h
      obtain ⟨q, hq, rfl⟩ := List.mem_map.mp hp
      have hlt := List.sizeOf_lt_of_mem hq
      simp only [parser.sizeOf_spec, Parser.bundle.sizeOf_spec, Parser.children] at hlt ⊢
      omega
    | _ => cases h
  | translator t =>
    cases t with
    | chooser cls ts =>
      cases h
      obtain ⟨t, ht, rfl⟩ := List.mem_map.mp hp
      have hlt := List.sizeOf_lt_of_mem ht
      simp only [translator.sizeOf_spec, Translator.chooser.sizeOf_spec]
      omega
    | _ => cases h

/-- What a component wraps is smaller. -/
theorem sizeOf_lt_of_wrapped (h : c.wrapped? = some p) : sizeOf p < sizeOf c := by
  cases c with
  | parser q =>
    cases q with
    | decorator cls effect inner =>
      cases h
      simp only [parser.sizeOf_spec, Parser.decorator.sizeOf_spec]
      omega
    | bundle cls registry ps fallback inner =>
      cases h
      simp only [parser.sizeOf_spec, Parser.bundle.sizeOf_spec]
      omega
    | _ => cases h
  | _ => cases h

end Component

/-- What counts as the parts of a component; a part is smaller than what it is a part of. -/
structure Nesting where
  parts : Component → List Component
  smaller : ∀ {c p}, p ∈ parts c → sizeOf p < sizeOf c

namespace Nesting

variable {c p : Component}

/-- The components of a tree with their depths: the component itself, then its parts. -/
def preorder (n : Nesting) (depth : Nat) (c : Component) : List (Nat × Component) :=
  (depth, c) :: (n.parts c).attach.flatMap fun p => n.preorder (depth + 1) p.1
termination_by sizeOf c
decreasing_by exact n.smaller p.2

theorem preorder_eq (n : Nesting) (depth : Nat) (c : Component) :
    n.preorder depth c = (depth, c) :: (n.parts c).flatMap (n.preorder (depth + 1)) := by
  rw [preorder]
  simp

/-- What holds of a component when it holds of its parts, one level further in, holds of every
    component. -/
theorem induction (n : Nesting) {motive : Nat → Component → Prop}
    (step : ∀ depth c, (∀ p ∈ n.parts c, motive (depth + 1) p) → motive depth c) (depth : Nat)
    (c : Component) : motive depth c :=
  step depth c fun p _ => n.induction step (depth + 1) p
termination_by sizeOf c
decreasing_by exact n.smaller ‹_›

/-- All parts: what is wrapped, then what is held. -/
def whole : Nesting where
  parts c := c.wrapped?.toList ++ c.children.getD []
  smaller {c p} h := by
    rcases List.mem_append.mp h with h | h
    · exact Component.sizeOf_lt_of_wrapped (Option.mem_toList.mp h)
    · cases hc : c.children with
      | none =>
        rw [hc] at h
        cases h
      | some cs =>
        rw [hc] at h
        exact Component.sizeOf_lt_of_children hc h

/-- The parts that are told: what is held, and only where nothing can be held what is wrapped. -/
def told : Nesting where
  parts c := c.children.getD c.wrapped?.toList
  smaller {c p} h := by
    cases hc : c.children with
    | none =>
      rw [hc] at h
      exact Component.sizeOf_lt_of_wrapped (Option.mem_toList.mp h)
    | some cs =>
      rw [hc] at h
      exact Component.sizeOf_lt_of_children hc h

/-! ### What is told and what is there -/

/-- All parts are told of a component that does not both hold and wrap. -/
theorem told_parts_of_not_twofold (h : ¬ c.Twofold) : told.parts c = whole.parts c := by
  unfold told whole
  dsimp only
  cases hc : c.children with
  | none => rw [Option.getD_none, Option.getD_none, List.append_nil]
  | some cs =>
    cases hw : c.wrapped? with
    | none => rfl
    | some p => exact absurd ⟨cs, p, hc, hw⟩ h

/-- Of one that does, the part that it wraps is not. -/
theorem whole_parts_of_twofold (h : c.Twofold) : ∃ p, whole.parts c = p :: told.parts c := by
  obtain ⟨cs, p, hc, hw⟩ := h
  refine ⟨p, ?_⟩
  unfold told whole
  dsimp only
  rw [hc, hw]
  rfl

theorem told_parts_sublist (c : Component) : (told.parts c).Sublist (whole.parts c) := by
  by_cases h : c.Twofold
  · obtain ⟨p, hp⟩ := whole_parts_of_twofold h
    rw [hp]
    exact List.sublist_cons_self _ _
  · exact told_parts_of_not_twofold h ▸ List.Sublist.refl _

/-- What is told is there, in the same order. -/
theorem told_sublist_whole (depth : Nat) (c : Component) :
    (told.preorder depth c).Sublist (whole.preorder depth c) := by
  induction depth, c using told.induction with
  | step depth c ih =>
    rw [preorder_eq, preorder_eq]
    refine List.Sublist.cons_cons _ ?_
    exact (List.Sublist.flatMap_right _ ih).trans ((told_parts_sublist c).flatMap _)

/-- Pieces of lists that are the same when put together are the same piece by piece, when each
    piece of the one list is a part of that of the other. -/
theorem eq_of_flatMap_eq {α β : Type} {f g : α → List β} {as : List α}
    (hsub : ∀ a ∈ as, (f a).Sublist (g a)) (h : as.flatMap f = as.flatMap g) :
    ∀ a ∈ as, f a = g a := by
  induction as with
  | nil => nofun
  | cons a as ih =>
    obtain ⟨ha, has⟩ := List.forall_mem_cons.mp hsub
    rw [List.flatMap_cons, List.flatMap_cons] at h
    have hlen : (f a).length + (as.flatMap f).length = (g a).length + (as.flatMap g).length := by
      rw [← List.length_append, h, List.length_append]
    have hrest : (as.flatMap f).length ≤ (as.flatMap g).length :=
      (List.Sublist.flatMap_right _ has).length_le
    have hfirst : (f a).length = (g a).length := by
      have hle := ha.length_le
      omega
    obtain ⟨heq, hrest⟩ := List.append_inj h hfirst
    exact List.forall_mem_cons.mpr ⟨heq, ih has hrest⟩

/-- **All components are told** where none both holds and wraps, and there alone. -/
theorem told_eq_whole_iff (depth : Nat) (c : Component) :
    told.preorder depth c = whole.preorder depth c ↔
      ∀ place ∈ whole.preorder depth c, ¬ place.2.Twofold := by
  induction depth, c using whole.induction with
  | step depth c ih =>
    rw [preorder_eq, preorder_eq, List.cons.injEq, List.forall_mem_cons]
    by_cases h : c.Twofold
    · -- The part that is wrapped is missing, so there are fewer components.
      simp only [h, not_true_eq_false, false_and, true_and, iff_false]
      obtain ⟨p, hp⟩ := whole_parts_of_twofold h
      intro heq
      have hlen := congrArg List.length heq
      have hle : ((told.parts c).flatMap (told.preorder (depth + 1))).length
          ≤ ((told.parts c).flatMap (whole.preorder (depth + 1))).length :=
        (List.Sublist.flatMap_right _ fun p _ => told_sublist_whole _ p).length_le
      rw [hp, List.flatMap_cons, List.length_append, preorder_eq whole, List.length_cons] at hlen
      omega
    · rw [told_parts_of_not_twofold h]
      simp only [h, not_false_eq_true, true_and]
      constructor
      · intro heq place hplace
        obtain ⟨p, hp, hplace⟩ := List.mem_flatMap.mp hplace
        have hpart := eq_of_flatMap_eq (fun p _ => told_sublist_whole _ p) heq p hp
        exact (ih p hp).mp hpart place hplace
      · intro hnone
        refine List.flatMap_congr fun p hp => (ih p hp).mpr fun place hplace => ?_
        exact hnone place (List.mem_flatMap.mpr ⟨p, hp, hplace⟩)

end Nesting

/-! ### Descriptions -/

theorem Detector.describeAll_eq_map (ds : List Detector) :
    describeAll ds = ds.map describe := by
  induction ds with
  | nil => rfl
  | cons d ds ih => rw [describeAll, ih, List.map_cons]

theorem Parser.describeAll_eq_map (ps : List Parser) : describeAll ps = ps.map describe := by
  induction ps with
  | nil => rfl
  | cons p ps ih => rw [describeAll, ih, List.map_cons]

theorem Translator.describeAll_eq_map (ts : List Translator) :
    describeAll ts = ts.map describe := by
  induction ts with
  | nil => rfl
  | cons t ts ih => rw [describeAll, ih, List.map_cons]

namespace Component

open Nesting

variable {c p : Component} {cs : List Component}

/-- The types that are listed for a component: those of a parser. -/
def listedTypes? : Component → Option (List String)
  | .parser p => Parser.listedTypes p.types
  | _ => none

/-- What is told about a component. -/
def description : Component → Description
  | .detector d => d.describe
  | .parser p => p.describe
  | .translator t => t.describe

/-- Every component can be described. -/
theorem result_describe (c : Component) : c.describe.result = .ok c.description := by
  cases c <;> rfl

/-- What can hold others is described by them. -/
theorem description_of_children (h : c.children = some cs) :
    c.description = .group c.cls.qualified c.listedTypes? (cs.map description) := by
  -- One case for each class that can hold others; for all other classes there are no children.
  cases c with
  | detector d =>
    cases d with
    | composite cls r ds =>
      cases h
      rw [List.map_map]
      exact congrArg _ (Detector.describeAll_eq_map ds)
    | _ => cases h
  | parser q =>
    cases q with
    | composite cls detector registry ps excluded fallback =>
      cases h
      rw [List.map_map]
      exact congrArg _ (Parser.describeAll_eq_map ps)
    | bundle cls registry ps fallback inner =>
      cases h
      rw [List.map_map]
      exact congrArg _ (Parser.describeAll_eq_map ps)
    | _ => cases h
  | translator t =>
    cases t with
    | chooser cls ts =>
      cases h
      rw [List.map_map]
      exact congrArg _ (Translator.describeAll_eq_map ts)
    | _ => cases h

/-- What only wraps another component is described around it. -/
theorem description_of_wrapped (hnone : c.children = none) (h : c.wrapped? = some p) :
    c.description = .wrapper c.cls.qualified c.listedTypes? p.description := by
  cases c with
  | parser q =>
    cases q with
    | decorator cls effect inner =>
      cases h
      rfl
    | bundle => cases hnone
    | _ => cases h
  | _ => cases h

/-- What does neither is described by itself. -/
theorem description_of_neither (hnone : c.children = none) (h : c.wrapped? = none) :
    c.description = .leaf c.cls.qualified c.listedTypes? := by
  cases c with
  | detector d =>
    cases d with
    | composite => cases hnone
    | _ => rfl
  | parser q =>
    cases q with
    | leaf => rfl
    | decorator => cases h
    | _ => cases hnone
  | translator t =>
    cases t with
    | leaf => rfl
    | chooser => cases hnone

/-! ### Lines -/

/-- What stands behind the class of a component: its types, if types are listed. -/
def typesNote : Option (List String) → String
  | none => ""
  | some [] => " [no types]"
  | some names => " [" ++ Text.joinWith ", " names ++ "]"

/-- The line of a component at some depth: twice as many blanks as the start and the depth together,
    the name of its class, and the types of a parser that cannot hold others. -/
def lineOf (k : Int) (place : Nat × Component) : String :=
  String.ofList (List.replicate (2 * (k + place.1).toNat) ' ') ++ "- " ++ place.2.cls.qualified ++
    typesNote (if place.2.children.isSome then none else place.2.listedTypes?)

theorem line_eq (indent : Int) (cls : String) (types : Option (List String)) :
    Description.line indent cls types
      = String.ofList (List.replicate (2 * indent.toNat) ' ') ++ "- " ++ cls ++ typesNote types := by
  rfl

theorem linesOfAll_eq_flatMap (indent : Int) (ds : List Description) :
    Description.linesOfAll indent ds = ds.flatMap (Description.lines indent) := by
  induction ds with
  | nil => rfl
  | cons d ds ih => rw [Description.linesOfAll, ih, List.flatMap_cons]

/-- The lines of a component: its own, then those of the parts that are told. -/
theorem lines_description_eq (k : Int) (depth : Nat) (c : Component) :
    c.description.lines (k + depth)
      = lineOf k (depth, c) ::
          (told.parts c).flatMap fun p => p.description.lines (k + depth + 1) := by
  -- The cases of the description: held parts come first, a wrapped one only without them.
  cases hchildren : c.children with
  | some cs =>
    have hparts : told.parts c = cs := by
      unfold told
      dsimp only
      rw [hchildren, Option.getD_some]
    rw [description_of_children hchildren, Description.lines, linesOfAll_eq_flatMap,
      List.flatMap_map, hparts, line_eq, lineOf, hchildren]
    rfl
  | none =>
    have hparts : told.parts c = c.wrapped?.toList := by
      unfold told
      dsimp only
      rw [hchildren, Option.getD_none]
    cases hwrapped : c.wrapped? with
    | some p =>
      rw [description_of_wrapped hchildren hwrapped, Description.lines, hparts, hwrapped, line_eq,
        lineOf, hchildren, Option.toList_some, List.flatMap_singleton]
      rfl
    | none =>
      rw [description_of_neither hchildren hwrapped, Description.lines, hparts, hwrapped, line_eq,
        lineOf, hchildren]
      rfl

/-- There is one line for each component that is told, in their order. -/
theorem lines_description (k : Int) (depth : Nat) (c : Component) :
    c.description.lines (k + depth) = (told.preorder depth c).map (lineOf k) := by
  induction depth, c using told.induction with
  | step depth c ih =>
    have hdeeper : k + depth + 1 = k + (depth + 1 : Nat) := by omega
    rw [lines_description_eq, preorder_eq, List.map_cons, List.map_flatMap, hdeeper]
    exact congrArg _ (List.flatMap_congr ih)

/-- **The lines of a tree.**  Whatever the component and the start: it can be described, and there
    is one line for each component that is told, part by part, with two blanks for each level, the
    start included.  The components that are told are some of all, in their order.  They are all of
    them, and the lines are those of the whole tree, exactly where no component both holds others
    and wraps one. -/
theorem lines_of_describe (c : Component) (k : Int) :
    ∃ d, c.describe.result = .ok d ∧ d.lines k = (told.preorder 0 c).map (lineOf k) ∧
      (told.preorder 0 c).Sublist (whole.preorder 0 c) ∧
      (d.lines k = (whole.preorder 0 c).map (lineOf k) ↔
        ∀ place ∈ whole.preorder 0 c, ¬ place.2.Twofold) := by
  have hlines : c.description.lines k = (told.preorder 0 c).map (lineOf k) := by
    have hstart : k + (0 : Nat) = k := by omega
    rw [← lines_description k 0 c, hstart]
  have hsub := told_sublist_whole 0 c
  refine ⟨c.description, result_describe c, hlines, hsub, ?_⟩
  rw [hlines, ← told_eq_whole_iff]
  constructor
  · intro h
    have hlen := congrArg List.length h
    rw [List.length_map, List.length_map] at hlen
    exact hsub.eq_of_length hlen
  · intro h
    rw [h]

/-- A parser of no types. -/
def plainParser (name : String) : Parser := .leaf ⟨"samples", name, []⟩ (.fixed "" [])

/-- A parser that wraps one parser and holds another. -/
def twofold : Component :=
  .parser (.bundle ⟨"samples", "Twofold", []⟩ .empty [plainParser "Held"] (plainParser "Fallback")
    (plainParser "Wrapped"))

/-- Its tree has three components, but there are two lines: the one that it wraps is left out. -/
theorem lines_of_twofold :
    (whole.preorder 0 twofold).map (lineOf 0)
        = ["- samples.Twofold", "  - samples.Wrapped [no types]", "  - samples.Held [no types]"] ∧
      ∃ d, twofold.describe.result = .ok d ∧
        d.lines 0 = ["- samples.Twofold", "  - samples.Held [no types]"] ∧
        d.lines 0 ≠ (whole.preorder 0 twofold).map (lineOf 0) := by
  have hleaf : ∀ name, whole.preorder 1 (.parser (plainParser name))
      = [(1, .parser (plainParser name))] := by
    intro name
    rw [preorder_eq]
    rfl
  have hparts : whole.parts twofold
      = [.parser (plainParser "Wrapped"), .parser (plainParser "Held")] := rfl
  have hwhole : (whole.preorder 0 twofold).map (lineOf 0)
      = ["- samples.Twofold", "  - samples.Wrapped [no types]",
         "  - samples.Held [no types]"] := by
    rw [preorder_eq, hparts, List.flatMap_cons, List.flatMap_cons, hleaf, hleaf]
    decide +kernel
  have hlines : twofold.description.lines 0
      = ["- samples.Twofold", "  - samples.Held [no types]"] := by
    decide +kernel
  refine ⟨hwhole, twofold.description, rfl, hlines, ?_⟩
  rw [hwhole, hlines]
  exact nofun

end Component

end MediaGraph
