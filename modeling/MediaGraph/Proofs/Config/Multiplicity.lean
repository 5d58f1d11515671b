import Mathlib.Algebra.Group.Nat.Defs
import MediaGraph.Proofs.Config.Structure
import MediaGraph.Proofs.Config.TypeFilter
import MediaGraph.Proofs.Parser.Numbering
import MediaGraph.Proofs.Xml.Nesting

namespace MediaGraph.Config

/-!
# How often an item is loaded

An item that holds others is given all items at any depth below it, those inside other such items
too, and each of these is given its own again.  So an item is loaded once for each way to pick some
of the composites around it, where the outermost one is always picked.

* `PlainItem` — items without settings, of leaves and of plain composites.
* `Sourced`, `sourced_nodes` — a part with a number is what the item of that number is loaded as.
* `PlainItem.occurrences_below`, `occurrences_nodes` — every composite around an item doubles how
  often it occurs.
* `multiplicity_of_items` — how often every item of a document occurs.
-/

open MediaGraph.Parser (numbered numberedAll numbered_eq numberedAll_append occurrences
  occurrences_cons occurrences_append occurrences_eq_zero)

variable {w : World} {repository : Repository} {services : ServiceTable}

/-! ### Plain items -/

/-- Whether an item names a class whose instances hold others. -/
def namesComposite (w : World) (services : ServiceTable) (e : Xml.Element) : Bool :=
  match e.className with
  | .error _ => false
  | .ok name =>
    match (resolveClass w services .parsers name).result with
    | .error _ => false
    | .ok i => i.isCompositeParser

theorem namesComposite_of_namesClass {e : Xml.Element} {i : Implementation}
    (h : NamesClass w services .parsers e i) : namesComposite w services e = i.isCompositeParser := by
  obtain ⟨name, hname, hclass⟩ := namesClass_iff.mp h
  simp only [namesComposite, hname, hclass]

/-- Whether an item is one of a leaf or of a plain composite, with no types to advertise or to leave
    out, and with no excluded classes below. -/
structure PlainItem (w : World) (services : ServiceTable) (e : Xml.Element) : Prop where
  kind : ∀ i, NamesClass w services .parsers e i →
    TakesParsers i ∨ i.isCompositeParser = false ∧ i.isDecorator = false
  included : e.children "mime" = []
  leftOut : e.children "mime-exclude" = []
  excluded : e.descendants "parser-exclude" = []

/-- An item without settings is loaded as it is built. -/
theorem PlainItem.result_filterTypes {e : Xml.Element} (h : PlainItem w services e) (p : Parser) :
    (Capability.filterTypes p e).result = .ok p := by
  have hread : ∀ tag, e.children tag = [] → Capability.readTypes e tag = .ok [] := by
    intro tag hnone
    rw [Capability.readTypes, Xml.Element.childTexts, hnone]
    rfl
  exact filterTypes_eq_ok_iff.mpr ⟨[], [], p, hread _ h.included, hread _ h.leftOut, rfl, rfl⟩

/-- A parser that is built without arguments is a leaf, unless its class holds others. -/
theorem children_of_newParser {i : Implementation} {p : Parser}
    (hi : i.isCompositeParser = false) (h : (i.newParser w).result = .ok p) : p.children = [] := by
  unfold Implementation.newParser at h
  unfold Implementation.isCompositeParser at hi
  split at h
  · cases h
    rfl
  -- The designs of composites are excluded, and no other is built without arguments.
  all_goals simp_all

/-- **What a plain item is loaded as**: a composite of all items below it, one for each, or a leaf
    without children. -/
theorem PlainItem.children_of_loadItem {e : Xml.Element} (h : PlainItem w services e) {p : Parser}
    (hload : (loadItem (.parsers w repository services) w services e).result = .ok p) :
    namesComposite w services e = true ∧
        LoadedAll (.parsers w repository services) w services (e.descendants "parser") p.children ∨
      namesComposite w services e = false ∧ p.children = [] := by
  cases loadItem_eq_ok_iff.mp hload with
  | @plain i built names _ leaf instantiated decorated =>
    have hleaf : i.isCompositeParser = false := (Bool.or_eq_false_iff.mp leaf).1
    have hp : built = p := Except.ok.inj ((h.result_filterTypes built).symm.trans decorated)
    rw [← hp]
    exact .inr ⟨(namesComposite_of_namesClass names.namesClass).trans hleaf,
      children_of_newParser hleaf instantiated⟩
  | @holding i _ _ _ names _ holds =>
    have hi : NamesClass w services .parsers e i := names.namesClass
    have takes : TakesParsers i := by
      rcases h.kind i hi with takes | ⟨hcomposite, hdecorator⟩
      · exact takes
      · exact absurd holds (by simp [Capability.parsers, hcomposite, hdecorator])
    refine .inl ⟨(namesComposite_of_namesClass hi).trans takes.isCompositeParser, ?_⟩
    obtain ⟨-, children, excluded, loaded, classes, decorated⟩ :=
      (takes.loadItem_eq_ok_iff hi).mp hload
    -- No class is excluded, so every child is kept.
    rw [ClassesOf, h.excluded, List.forall₂_nil_left_iff] at classes
    rw [classes, h.result_filterTypes, Except.ok.injEq] at decorated
    rw [← decorated]
    simpa [Parser.children, ClassRef.derivesFromAny] using loaded

/-! ### Items in some content -/

/-- The instances of two lists of items, one after the other. -/
theorem loadedAll_append {ι : Type} {c : Capability ι} {es ds : List Xml.Element} {xs : List ι} :
    LoadedAll c w services (es ++ ds) xs ↔
      ∃ ys zs, LoadedAll c w services es ys ∧ LoadedAll c w services ds zs ∧ ys ++ zs = xs := by
  rw [← loadItems_eq_ok_iff, loadItems_append]
  simp only [result_bind_eq_ok, loadItems_eq_ok_iff, Traced.result_pure, Except.ok.injEq]
  constructor
  · rintro ⟨ys, hys, zs, hzs, h⟩
    exact ⟨ys, zs, hys, hzs, h⟩
  · rintro ⟨ys, zs, hys, hzs, h⟩
    exact ⟨ys, hys, zs, hzs, h⟩

/-- The items in some content, in document order. -/
def itemsIn (ns : List Xml.Node) : List Xml.Element :=
  (Xml.elementsIn ns).filter fun d => d.isNamed "parser"

/-- The items in a piece of content, in document order. -/
def itemsInNode (n : Xml.Node) : List Xml.Element := n.elements.filter fun d => d.isNamed "parser"

theorem itemsIn_cons (n : Xml.Node) (ns : List Xml.Node) :
    itemsIn (n :: ns) = itemsInNode n ++ itemsIn ns := List.filter_append ..

/-- An item comes in front of the items in it. -/
theorem itemsInNode_item (attributes : List (String × String)) (content : List Xml.Node) :
    itemsInNode (.element "parser" attributes content)
      = ⟨"parser", attributes, content⟩ :: itemsIn content := rfl

/-- An element of another name adds nothing to the items in it. -/
theorem itemsInNode_other {tag : String} (htag : tag ≠ "parser")
    (attributes : List (String × String)) (content : List Xml.Node) :
    itemsInNode (.element tag attributes content) = itemsIn content := by
  have hname : (Xml.Element.mk tag attributes content).isNamed "parser" = false := by
    simp [Xml.Element.isNamed, htag]
  rw [itemsInNode, Xml.Node.elements, List.filter_cons, hname]
  rfl

/-! ### What is numbered -/

/-- Whether every part of some trees is what the item of its number is loaded as, where `items` are
    the items from number `n` on. -/
def Sourced (w : World) (repository : Repository) (services : ServiceTable) (n : Nat)
    (items : List Xml.Element) (parts : List (Nat × Parser)) : Prop :=
  ∀ part ∈ parts, ∃ m d, part.1 = n + m ∧ items[m]? = some d ∧
    (loadItem (.parsers w repository services) w services d).result = .ok part.2

section

variable {n : Nat} {es ds : List Xml.Element} {parts others : List (Nat × Parser)}

theorem Sourced.append (h : Sourced w repository services n es parts)
    (hothers : Sourced w repository services n es others) :
    Sourced w repository services n es (parts ++ others) := by
  intro part hpart
  exact (List.mem_append.mp hpart).elim (h part) (hothers part)

/-- Items that follow leave the numbers as they are. -/
theorem Sourced.followed (h : Sourced w repository services n es parts) :
    Sourced w repository services n (es ++ ds) parts := by
  intro part hpart
  obtain ⟨m, d, hm, hd, hload⟩ := h part hpart
  obtain ⟨hlt, -⟩ := List.getElem?_eq_some_iff.mp hd
  exact ⟨m, d, hm, by rw [List.getElem?_append_left hlt, hd], hload⟩

/-- Items in front are numbered before. -/
theorem Sourced.preceded (h : Sourced w repository services (n + es.length) ds parts) :
    Sourced w repository services n (es ++ ds) parts := by
  intro part hpart
  obtain ⟨m, d, hm, hd, hload⟩ := h part hpart
  refine ⟨es.length + m, d, by rw [hm, Nat.add_assoc], ?_, hload⟩
  rw [List.getElem?_append_right (Nat.le_add_right ..), Nat.add_sub_cancel_left, hd]

/-- An item in front is numbered before. -/
theorem Sourced.under {e : Xml.Element}
    (h : Sourced w repository services (n + 1) ds parts) :
    Sourced w repository services n (e :: ds) parts :=
  @Sourced.preceded w repository services n [e] ds parts h

/-- The numbers are those of the items. -/
theorem Sourced.bounds (h : Sourced w repository services n es parts) {part : Nat × Parser}
    (hpart : part ∈ parts) : n ≤ part.1 ∧ part.1 < n + es.length := by
  obtain ⟨m, d, hm, hd, -⟩ := h part hpart
  obtain ⟨hlt, -⟩ := List.getElem?_eq_some_iff.mp hd
  omega

/-- An item that is not among the numbered ones does not occur. -/
theorem Sourced.occurrences_eq_zero (h : Sourced w repository services n es parts) {k : Nat}
    (hk : k < n ∨ n + es.length ≤ k) : occurrences parts k = 0 := by
  refine Parser.occurrences_eq_zero ?_
  rintro part hpart rfl
  have hbounds := h.bounds hpart
  omega

/-- The tree of a plain item is sourced where the trees of the items in it are. -/
theorem PlainItem.sourced_numbered {e : Xml.Element} (he : PlainItem w services e) {x : Parser}
    (hload : (loadItem (.parsers w repository services) w services e).result = .ok x)
    (hbelow : ∀ qs, LoadedAll (.parsers w repository services) w services
      (e.descendants "parser") qs →
        Sourced w repository services n (e :: e.descendants "parser") (numberedAll (n + 1) qs)) :
    Sourced w repository services n (e :: e.descendants "parser") (numbered n x) := by
  rw [numbered_eq]
  intro part hpart
  rcases List.mem_cons.mp hpart with rfl | hpart
  · exact ⟨0, e, rfl, rfl, hload⟩
  · rcases he.children_of_loadItem hload with ⟨-, hchildren⟩ | ⟨-, hchildren⟩
    · exact hbelow _ hchildren part hpart
    · rw [hchildren] at hpart
      cases hpart

mutual

theorem sourced_node (nd : Xml.Node) (plain : ∀ d ∈ itemsInNode nd, PlainItem w services d)
    {n : Nat} {ps : List Parser}
    (h : LoadedAll (.parsers w repository services) w services (itemsInNode nd) ps) :
    Sourced w repository services n (itemsInNode nd) (numberedAll n ps) := by
  cases nd with
  | text s =>
    cases h
    exact nofun
  | element tag attributes content =>
    by_cases htag : tag = "parser"
    · subst htag
      rw [itemsInNode_item] at plain h ⊢
      obtain ⟨he, hcontent⟩ := List.forall_mem_cons.mp plain
      obtain ⟨x, ys, hx, hys, rfl⟩ := List.forall₂_cons_left_iff.mp h
      have hbelow : ∀ qs, LoadedAll (.parsers w repository services) w services
          (itemsIn content) qs → Sourced w repository services n
            (⟨"parser", attributes, content⟩ :: itemsIn content) (numberedAll (n + 1) qs) :=
        fun qs hqs => (sourced_nodes content hcontent hqs).under
      exact (he.sourced_numbered hx hbelow).append (hbelow ys hys)
    · rw [itemsInNode_other htag] at plain h ⊢
      exact sourced_nodes content plain h

/-- **What is numbered**: in the trees that plain items are loaded as, every part is what the item of
    its number is loaded as. -/
theorem sourced_nodes (ns : List Xml.Node) (plain : ∀ d ∈ itemsIn ns, PlainItem w services d)
    {n : Nat} {ps : List Parser}
    (h : LoadedAll (.parsers w repository services) w services (itemsIn ns) ps) :
    Sourced w repository services n (itemsIn ns) (numberedAll n ps) := by
  cases ns with
  | nil =>
    cases h
    exact nofun
  | cons nd ns =>
    rw [itemsIn_cons] at plain h ⊢
    obtain ⟨hnode, hnodes⟩ := List.forall_mem_append.mp plain
    obtain ⟨ys, zs, hys, hzs, rfl⟩ := loadedAll_append.mp h
    rw [numberedAll_append, ← List.Forall₂.length_eq hys]
    exact (sourced_node nd hnode hys).followed.append (sourced_nodes ns hnodes hzs).preceded

end

end

/-! ### What occurs how often -/

/-- The number of composites among some items. -/
def composites (w : World) (services : ServiceTable) (items : List Xml.Element) : Nat :=
  items.countP (namesComposite w services)

section

variable {n : Nat} {e : Xml.Element} {x : Parser}

/-- The parser of an item is no part of the trees below it. -/
theorem PlainItem.occurrences_numbered_self (he : PlainItem w services e)
    (hload : (loadItem (.parsers w repository services) w services e).result = .ok x)
    (hbelow : ∀ qs, LoadedAll (.parsers w repository services) w services
      (e.descendants "parser") qs →
        occurrences (numberedAll (n + 1) qs) n = 0) :
    occurrences (numbered n x) n = 1 := by
  have hnone : occurrences (numberedAll (n + 1) x.children) n = 0 := by
    rcases he.children_of_loadItem hload with ⟨-, hchildren⟩ | ⟨-, hchildren⟩
    · exact hbelow _ hchildren
    · rw [hchildren]
      rfl
  rw [numbered_eq, occurrences_cons, hnone, if_pos rfl]

/-- **An item below a composite occurs twice as often**: in the tree of the composite, and again in
    its own place.  Below a leaf it occurs in its own place only. -/
theorem PlainItem.occurrences_below (he : PlainItem w services e)
    (hload : (loadItem (.parsers w repository services) w services e).result = .ok x)
    {ys : List Parser} {around : List Xml.Element} {k b : Nat} (hk : n < k)
    (hys : LoadedAll (.parsers w repository services) w services (e.descendants "parser") ys)
    (hbelow : ∀ qs, LoadedAll (.parsers w repository services) w services
      (e.descendants "parser") qs →
        occurrences (numberedAll (n + 1) qs) k * 2 ^ composites w services (e :: around) = b) :
    (occurrences (numbered n x) k + occurrences (numberedAll (n + 1) ys) k)
      * 2 ^ composites w services around = b := by
  rw [numbered_eq, occurrences_cons, if_neg (Nat.ne_of_lt hk), Nat.add_zero, Nat.add_mul]
  rcases he.children_of_loadItem hload with ⟨hcomposite, hchildren⟩ | ⟨hleaf, hchildren⟩
  · have hcount : composites w services (e :: around) = composites w services around + 1 :=
      List.countP_cons_of_pos hcomposite
    simp only [hcount, Nat.pow_succ, ← Nat.mul_assoc] at hbelow
    have hinside := hbelow _ hchildren
    have hbehind := hbelow ys hys
    omega
  · have hcount : composites w services (e :: around) = composites w services around :=
      List.countP_cons_of_neg (by simp [hleaf])
    have hinside : occurrences (numberedAll (n + 1) x.children) k = 0 := by
      rw [hchildren]
      rfl
    rw [hcount] at hbelow
    rw [hinside, Nat.zero_mul, Nat.zero_add, hbelow ys hys]

end

/-- As many items are listed with what is around them as there are. -/
theorem length_nested_items (around : List Xml.Element) (nd : Xml.Node) :
    (nd.nested "parser" around).length = (itemsInNode nd).length := by
  rw [itemsInNode, ← Xml.Node.map_fst_nested (by decide) around nd, List.length_map]

mutual

theorem occurrences_node (nd : Xml.Node) (plain : ∀ d ∈ itemsInNode nd, PlainItem w services d)
    {n m : Nat} {ps : List Parser} {d : Xml.Element} {around above : List Xml.Element}
    (h : LoadedAll (.parsers w repository services) w services (itemsInNode nd) ps)
    (hm : (nd.nested "parser" around)[m]? = some (d, above)) :
    occurrences (numberedAll n ps) (n + m) * 2 ^ composites w services around
      = 2 ^ composites w services above := by
  cases nd with
  | text s => cases hm
  | element tag attributes content =>
    by_cases htag : tag = "parser"
    · subst htag
      rw [itemsInNode_item] at plain h
      obtain ⟨he, hcontent⟩ := List.forall_mem_cons.mp plain
      obtain ⟨x, ys, hx, hys, rfl⟩ := List.forall₂_cons_left_iff.mp h
      rw [Xml.Node.nested, if_pos rfl] at hm
      rw [numberedAll, occurrences_append]
      cases m with
      | zero =>
        obtain ⟨rfl, rfl⟩ := Prod.mk.inj (Option.some.inj hm)
        have hnone : ∀ qs, LoadedAll (.parsers w repository services) w services
            (itemsIn content) qs → occurrences (numberedAll (n + 1) qs) n = 0 :=
          fun qs hqs => (sourced_nodes content hcontent hqs).occurrences_eq_zero (.inl n.lt_succ_self)
        rw [Nat.add_zero, he.occurrences_numbered_self hx hnone, hnone ys hys, Nat.add_zero,
          Nat.one_mul]
      | succ m =>
        refine he.occurrences_below hx (by omega) hys fun qs hqs => ?_
        rw [Nat.add_comm m, ← Nat.add_assoc]
        exact occurrences_nodes content hcontent hqs hm
    · rw [itemsInNode_other htag] at plain h
      rw [Xml.Node.nested, if_neg htag] at hm
      exact occurrences_nodes content plain h hm

/-- **How often an item occurs** in the trees that the plain items in some content are loaded as:
    twice as often for every composite around it within the content. -/
theorem occurrences_nodes (ns : List Xml.Node) (plain : ∀ d ∈ itemsIn ns, PlainItem w services d)
    {n m : Nat} {ps : List Parser} {d : Xml.Element} {around above : List Xml.Element}
    (h : LoadedAll (.parsers w repository services) w services (itemsIn ns) ps)
    (hm : (Xml.nestedIn "parser" around ns)[m]? = some (d, above)) :
    occurrences (numberedAll n ps) (n + m) * 2 ^ composites w services around
      = 2 ^ composites w services above := by
  cases ns with
  | nil => cases hm
  | cons nd ns =>
    rw [itemsIn_cons] at plain h
    obtain ⟨hnode, hnodes⟩ := List.forall_mem_append.mp plain
    obtain ⟨ys, zs, hys, hzs, rfl⟩ := loadedAll_append.mp h
    have hlength : (nd.nested "parser" around).length = ys.length := by
      rw [length_nested_items, List.Forall₂.length_eq hys]
    rw [numberedAll_append, occurrences_append]
    rw [Xml.nestedIn] at hm
    -- The item is in the piece or behind it, and then it does not occur on the other side.
    by_cases hlt : m < ys.length
    · have hbehind : occurrences (numberedAll (n + ys.length) zs) (n + m) = 0 :=
        (sourced_nodes ns hnodes hzs).occurrences_eq_zero (.inl (by omega))
      rw [List.getElem?_append_left (by omega)] at hm
      rw [hbehind, Nat.add_zero]
      exact occurrences_node nd hnode hys hm
    · obtain ⟨j, rfl⟩ := Nat.exists_eq_add_of_le (Nat.le_of_not_lt hlt)
      have hbefore : occurrences (numberedAll n ys) (n + (ys.length + j)) = 0 := by
        refine (sourced_node nd hnode hys).occurrences_eq_zero (.inr ?_)
        rw [List.Forall₂.length_eq hys]
        omega
      rw [List.getElem?_append_right (by omega), hlength, Nat.add_sub_cancel_left] at hm
      rw [hbefore, Nat.zero_add, ← Nat.add_assoc]
      exact occurrences_nodes ns hnodes hzs hm

end

/-! ### The whole document -/

/-- Whether the tree `q` of an item `e` directly below the container, where `e` is number zero, holds
    every item as often as it has to: every part is what the item of its number is loaded as; `e`
    itself occurs once; an item below a composite occurs once, doubled for every further composite
    around it; nothing below a leaf occurs. -/
structure Multiplies (w : World) (repository : Repository) (services : ServiceTable)
    (e : Xml.Element) (q : Parser) : Prop where
  sourced : Sourced w repository services 0 (e :: e.descendants "parser") (q.numbered 0)
  once : occurrences (q.numbered 0) 0 = 1
  below : namesComposite w services e = true → ∀ m d, (e.descendants "parser")[m]? = some d →
    ∃ around, (e.nested "parser")[m]? = some (d, around) ∧ 1 ≤ composites w services around ∧
      occurrences (q.numbered 0) (m + 1) = 2 ^ (composites w services around - 1)
  leaf : namesComposite w services e = false → q.numbered 0 = [(0, q)]

/-- The tree of a plain item with plain items below it multiplies them. -/
theorem PlainItem.multiplies {e : Xml.Element} (he : PlainItem w services e)
    (plain : ∀ d ∈ e.descendants "parser", PlainItem w services d) {q : Parser}
    (hload : (loadItem (.parsers w repository services) w services e).result = .ok q) :
    Multiplies w repository services e q := by
  have hsourced : ∀ n qs, LoadedAll (.parsers w repository services) w services
      (e.descendants "parser") qs →
        Sourced w repository services n (e.descendants "parser") (numberedAll n qs) :=
    fun n qs hqs => sourced_nodes e.content plain hqs
  have hchildren := he.children_of_loadItem hload
  constructor
  case sourced =>
    exact he.sourced_numbered hload fun qs hqs => (hsourced _ qs hqs).under
  case once =>
    exact he.occurrences_numbered_self hload
      fun qs hqs => (hsourced _ qs hqs).occurrences_eq_zero (.inl (Nat.lt_succ_self 0))
  case below =>
    intro hcomposite m d hd
    rw [← Xml.Element.map_fst_nested (by decide) e, List.getElem?_map, Option.map_eq_some_iff]
      at hd
    obtain ⟨⟨_, around⟩, hm, rfl⟩ := hd
    refine ⟨around, hm, ?_⟩
    have hloaded : LoadedAll (.parsers w repository services) w services
        (e.descendants "parser") q.children := by
      rcases hchildren with ⟨-, hloaded⟩ | ⟨hleaf, -⟩
      · exact hloaded
      · exact absurd hcomposite (by simp [hleaf])
    -- The item itself is the one composite around all that is below it.
    have hself : composites w services [e] = 1 := List.countP_cons_of_pos hcomposite
    have hcount := occurrences_nodes (n := 1) e.content plain hloaded hm
    rw [hself, Nat.pow_one, Nat.add_comm 1 m] at hcount
    rw [numbered_eq, occurrences_cons, if_neg (Nat.zero_ne_add_one m), Nat.add_zero]
    cases hk : composites w services around with
    | zero =>
      rw [hk, Nat.pow_zero] at hcount
      omega
    | succ k =>
      rw [hk, Nat.pow_succ] at hcount
      exact ⟨Nat.le_add_left 1 k, Nat.eq_of_mul_eq_mul_right Nat.two_pos hcount⟩
  case leaf =>
    intro hleaf
    rcases hchildren with ⟨hcomposite, -⟩ | ⟨-, hnone⟩
    · exact absurd hcomposite (by simp [hleaf])
    · rw [numbered_eq, hnone]
      rfl

/-- The trees of plain items with plain items below them multiply these. -/
theorem multiplies_of_loadedAll {es : List Xml.Element} {qs : List Parser}
    (plain : ∀ e ∈ es, ∀ d ∈ e :: e.descendants "parser", PlainItem w services d)
    (h : LoadedAll (.parsers w repository services) w services es qs) :
    List.Forall₂ (Multiplies w repository services) es qs := by
  induction h with
  | nil => exact .nil
  | cons hload _ ih =>
    obtain ⟨hfirst, hrest⟩ := List.forall_mem_cons.mp plain
    obtain ⟨he, hbelow⟩ := List.forall_mem_cons.mp hfirst
    exact .cons (he.multiplies hbelow hload) (ih hrest)

/-- **How often every item occurs.**  Let all items at any depth below the container of a document be
    plain.  If the parsers of the document are loaded, there is one tree for each item directly below
    the container, in document order; these trees are the parser itself, where there is only one of
    them, or the children of a plain composite.  In the tree of a composite, the item itself occurs
    once, and an item below it occurs `2 ^ (k - 1)` times, where `k` is the number of composites
    around it; the tree of a leaf holds nothing else. -/
theorem multiplicity_of_items (w : World) (repository : Repository) (services : ServiceTable)
    {root : Xml.Element} {p : Parser}
    (plain : ∀ e ∈ itemsBelow (.parsers w repository services) root,
      ∀ d ∈ e :: e.descendants "parser", PlainItem w services d)
    (h : (loadOverall (.parsers w repository services) w services root).result = .ok p) :
    ∃ qs, LoadedAll (.parsers w repository services) w services
        (itemsBelow (.parsers w repository services) root) qs ∧
      (itemsBelow (.parsers w repository services) root ≠ [] →
        qs = [p] ∨ p = plainParsers repository qs) ∧
      List.Forall₂ (Multiplies w repository services)
        (itemsBelow (.parsers w repository services) root) qs := by
  obtain ⟨-, assembled⟩ := (loadOverall_eq_ok_iff_assembled result_createComposite_parsers).mp h
  generalize itemsBelow (.parsers w repository services) root = items at plain assembled
  cases assembled with
  | default created => exact ⟨[], .nil, fun hne => absurd rfl hne, .nil⟩
  | single loaded holds =>
    exact ⟨[p], .cons loaded .nil, fun _ => .inl rfl,
      multiplies_of_loadedAll plain (.cons loaded .nil)⟩
  | @composed _ qs declared loaded other =>
    exact ⟨qs, loaded, fun _ => .inr rfl, multiplies_of_loadedAll plain loaded⟩

/-- A composite of a leaf that holds a leaf, and of a composite that holds one. -/
def sharedItem : Xml.Element :=
  parserItem "CompositeParser"
    [(parserItem "TextParser" [(parserItem "TextParser" []).toNode]).toNode,
     (parserItem "CompositeParser" [(parserItem "TextParser" []).toNode]).toNode]

/-- What it is loaded as; the leaf in the inner composite is there twice. -/
def sharedParser : Parser :=
  let leaf : Parser := .leaf Parser.textClass (.plainText .listed)
  plainParsers .empty [leaf, leaf, plainParsers .empty [leaf], leaf]

/-- Every item of the document is plain. -/
theorem plainItem_sharedItem :
    ∀ d ∈ sharedItem :: sharedItem.descendants "parser", PlainItem bareWorld pairServices d := by
  have hleaf : ∀ content i, NamesClass bareWorld pairServices .parsers
      (parserItem "TextParser" content) i → i = Packaged.textParser .listed :=
    fun content i hi => hi.unique ⟨"TextParser", rfl, by decide, _, rfl, .inl rfl, rfl⟩
  have hcomposite : ∀ content i, NamesClass bareWorld pairServices .parsers
      (parserItem "CompositeParser" content) i → i = Packaged.compositeParser :=
    fun content i hi => hi.unique ⟨"CompositeParser", rfl, by decide, _, rfl, .inl rfl, rfl⟩
  have takes : TakesParsers Packaged.compositeParser := ⟨fun _ => Iff.rfl, none, rfl⟩
  have hitems : sharedItem :: sharedItem.descendants "parser"
      = [sharedItem, parserItem "TextParser" [(parserItem "TextParser" []).toNode],
         parserItem "TextParser" [],
         parserItem "CompositeParser" [(parserItem "TextParser" []).toNode],
         parserItem "TextParser" []] := rfl
  rw [hitems]
  simp only [List.forall_mem_cons]
  refine ⟨?_, ?_, ?_, ?_, ?_, nofun⟩
  · exact ⟨fun i hi => .inl (hcomposite _ i hi ▸ takes), rfl, rfl, rfl⟩
  · exact ⟨fun i hi => .inr (hleaf _ i hi ▸ ⟨rfl, rfl⟩), rfl, rfl, rfl⟩
  · exact ⟨fun i hi => .inr (hleaf _ i hi ▸ ⟨rfl, rfl⟩), rfl, rfl, rfl⟩
  · exact ⟨fun i hi => .inl (hcomposite _ i hi ▸ takes), rfl, rfl, rfl⟩
  · exact ⟨fun i hi => .inr (hleaf _ i hi ▸ ⟨rfl, rfl⟩), rfl, rfl, rfl⟩

/-- The leaf in a leaf occurs once, the leaf in the inner composite twice. -/
theorem multiplicity_of_items_shared :
    (∀ e ∈ itemsBelow pairParsers (parsersDocument [sharedItem]),
        ∀ d ∈ e :: e.descendants "parser", PlainItem bareWorld pairServices d) ∧
      (loadOverall pairParsers bareWorld pairServices (parsersDocument [sharedItem])).result
        = .ok sharedParser ∧
      occurrences (sharedParser.numbered 0) 2 = 1 ∧
      occurrences (sharedParser.numbered 0) 4 = 2 := by
  have hload : (loadOverall pairParsers bareWorld pairServices
      (parsersDocument [sharedItem])).result = .ok sharedParser := rfl
  have hitem : (loadItem pairParsers bareWorld pairServices sharedItem).result
      = .ok sharedParser := rfl
  have plain : ∀ e ∈ itemsBelow pairParsers (parsersDocument [sharedItem]),
      ∀ d ∈ e :: e.descendants "parser", PlainItem bareWorld pairServices d := by
    intro e he
    rw [List.mem_singleton.mp he]
    exact plainItem_sharedItem
  obtain ⟨qs, loaded, -, multiplied⟩ :=
    multiplicity_of_items bareWorld .empty pairServices plain hload
  change List.Forall₂ _ [sharedItem] qs at loaded
  change List.Forall₂ _ [sharedItem] qs at multiplied
  obtain ⟨q, _, hq, -, rfl⟩ := List.forall₂_cons_left_iff.mp loaded
  obtain ⟨_, _, hmultiplies, -, ⟨⟩⟩ := List.forall₂_cons_left_iff.mp multiplied
  obtain rfl : sharedParser = q := Except.ok.inj (hitem.symm.trans hq)
  obtain ⟨_, ⟨⟩, -, honce⟩ := hmultiplies.below rfl 1 _ rfl
  obtain ⟨_, ⟨⟩, -, htwice⟩ := hmultiplies.below rfl 3 _ rfl
  exact ⟨plain, hload, honce, htwice⟩

end MediaGraph.Config
