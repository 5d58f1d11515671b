import MediaGraph.Proofs.Config.Faults
import MediaGraph.Proofs.Xml.Below
import MediaGraph.Service.Packaged

namespace MediaGraph.Config

/-!
# What a load gives

Loading an item succeeds in one of two ways, and loading a family puts together what its items are
loaded as.  Everything else about a successful load is read off these statements:

* `NamesClass` — an element names an available class of a family.
* `Loaded`, `loadItem_eq_ok_iff` — the two ways to load an item, and what is checked in each.
* `LoadedAll`, `loadItems_eq_ok_iff` — items are loaded one by one, in their order.
* `TopLevel`, `mem_itemsBelow_iff` — the items that a family is made of.
* `loadOverall_eq_ok_iff` — what a family is loaded as.
-/

variable {ι : Type} {c : Capability ι} {w : World} {services : ServiceTable} {family : Family}
  {e root : Xml.Element} {i : Implementation} {x : ι}

/-- In a list that is related to another one item by item, every item has a partner. -/
theorem exists_of_mem_forall₂ {α β : Type} {R : α → β → Prop} {as : List α} {bs : List β}
    (h : List.Forall₂ R as bs) {a : α} (ha : a ∈ as) : ∃ b, R a b := by
  obtain ⟨n, hn, rfl⟩ := List.getElem_of_mem ha
  have hlt : n < bs.length := h.length_eq ▸ hn
  exact ⟨bs[n], h.get hn hlt⟩

/-! ### Names of classes -/

/-- Whether an element names an available class of a family: its class attribute is not blank, and
    what it says is the name of the class. -/
def NamesClass (w : World) (services : ServiceTable) (family : Family) (e : Xml.Element)
    (i : Implementation) : Prop :=
  ∃ value, e.attribute? "class" = some value ∧ Text.trim value ≠ "" ∧
    services.Provides w.modules family (Text.trim value) i

/-- An element names a class when the name in it can be looked up. -/
theorem namesClass_iff :
    NamesClass w services family e i ↔
      ∃ name, e.className = .ok name ∧ (resolveClass w services family name).result = .ok i := by
  simp only [Xml.className_eq_ok_iff, resolveClass_eq_ok_iff]
  constructor
  · rintro ⟨value, hvalue, hblank, hclass⟩
    exact ⟨_, ⟨value, hvalue, rfl, hblank⟩, hclass⟩
  · rintro ⟨_, ⟨value, hvalue, rfl, hblank⟩, hclass⟩
    exact ⟨value, hvalue, hblank, hclass⟩

/-- An item that may be declared names an available class. -/
theorem Names.namesClass (h : Names c w services e i) : NamesClass w services c.family e i := by
  obtain ⟨name, hname, hclass, -⟩ := h
  exact namesClass_iff.mpr ⟨name, hname, hclass⟩

/-- An element names one class at most. -/
theorem NamesClass.unique {j : Implementation} (hi : NamesClass w services family e i)
    (hj : NamesClass w services family e j) : i = j := by
  obtain ⟨name, hname, hi⟩ := namesClass_iff.mp hi
  obtain ⟨name', hname', hj⟩ := namesClass_iff.mp hj
  rw [hname, Except.ok.injEq] at hname'
  rw [← hname', hi, Except.ok.injEq] at hj
  exact hj

/-- Every available class of detectors may be declared. -/
theorem names_detectors_iff {repository : Repository} :
    Names (.detectors w repository services) w services e i ↔
      NamesClass w services .detectors e i := by
  refine ⟨Names.namesClass, ?_⟩
  intro h
  obtain ⟨name, hname, hclass⟩ := namesClass_iff.mp h
  exact ⟨name, hname, hclass, rfl⟩

/-- Every available class of parsers may be declared, apart from the auto-detecting parser. -/
theorem names_parsers_iff {repository : Repository} :
    Names (.parsers w repository services) w services e i ↔
      NamesClass w services .parsers e i ∧ i.isAutoDetecting = false := by
  have hallowed (name : String) :
      (Capability.parsers w repository services).checkAllowed i name = .ok () ↔
      i.isAutoDetecting = false := by
    change (if i.isAutoDetecting then _ else _) = _ ↔ _
    cases i.isAutoDetecting <;> simp
  constructor
  · rintro ⟨name, hname, hclass, h⟩
    exact ⟨namesClass_iff.mpr ⟨name, hname, hclass⟩, (hallowed name).mp h⟩
  · rintro ⟨h, hauto⟩
    obtain ⟨name, hname, hclass⟩ := namesClass_iff.mp h
    exact ⟨name, hname, hclass, (hallowed name).mpr hauto⟩

/-- Names of excluded classes are read like names of items. -/
theorem excludedClass_eq_ok_iff :
    (excludedClass w services family e).result = .ok i ↔ NamesClass w services family e i := by
  unfold excludedClass
  simp only [result_bind_eq_ok, Traced.result_ofExcept, namesClass_iff]

/-- Whether `classes` are the classes that some elements name, in their order. -/
def ClassesOf (w : World) (services : ServiceTable) (family : Family) (es : List Xml.Element)
    (classes : List ClassRef) : Prop :=
  List.Forall₂ (fun d cls => ∃ i, NamesClass w services family d i ∧ i.cls = cls) es classes

theorem exclusions_eq_ok_iff {es : List Xml.Element} {classes : List ClassRef} :
    (exclusions w services family es).result = .ok classes ↔
      ClassesOf w services family es classes := by
  rw [loop_eq_ok_iff rfl (exclusions_cons w services family), ClassesOf]
  simp only [excludedClass_eq_ok_iff]

/-! ### Loading one item -/

/-- Whether `xs` are what some items are loaded as, one for each, in their order. -/
def LoadedAll (c : Capability ι) (w : World) (services : ServiceTable) (es : List Xml.Element)
    (xs : List ι) : Prop :=
  List.Forall₂ (fun e x => (loadItem c w services e).result = .ok x) es xs

theorem loadItems_eq_ok_iff {es : List Xml.Element} {xs : List ι} :
    (loadItems c w services es).result = .ok xs ↔ LoadedAll c w services es xs := by
  have hcons : ∀ a as, loadItems c w services (a :: as) = do
      let first ← loadItem c w services a
      return id first :: (← loadItems c w services as) := loadItems_cons c w services
  rw [loop_eq_ok_iff rfl hcons, LoadedAll]
  simp only [id_eq, exists_eq_right]

/-- Whether `x` is an instance of a class that is given children and exclusions: one built by a
    shape, or one built without arguments where no shape can be used. -/
inductive Built (c : Capability ι) (i : Implementation) (children : List ι)
    (excluded : List ClassRef) (x : ι) : Prop where
  | shaped (h : (c.construct? i children excluded).result = .ok (some x))
  | unshaped (none : (c.construct? i children excluded).result = .ok none)
      (h : (c.instantiate i).result = .ok x)

/-- How an item is loaded.  In either way its own class and those of all items below it are
    checked; only a class that holds others is given what is below, and its exclusions are read. -/
inductive Loaded (c : Capability ι) (w : World) (services : ServiceTable) (e : Xml.Element)
    (x : ι) : Prop where
  | plain {i instance_} (names : Names c w services e i)
      (checked : ∀ d ∈ e.descendants c.itemTag, ∃ j, Names c w services d j)
      (leaf : c.isCompositeClass i = false)
      (built : (c.instantiate i).result = .ok instance_)
      (decorated : (c.decorate instance_ e).result = .ok x)
  | holding {i children excluded instance_} (names : Names c w services e i)
      (checked : ∀ d ∈ e.descendants c.itemTag, ∃ j, Names c w services d j)
      (holds : c.isCompositeClass i = true)
      (loaded : LoadedAll c w services (e.descendants c.itemTag) children)
      (classes : ClassesOf w services c.family (e.descendants c.excludeTag) excluded)
      (built : Built c i children excluded instance_)
      (decorated : (c.decorate instance_ e).result = .ok x)

theorem buildItem_none {name : String} :
    (buildItem c i name none).result = .ok x ↔ (c.instantiate i).result = .ok x := by
  unfold buildItem
  simp only [result_bind_eq_ok, Traced.result_pure, Except.ok.injEq, exists_eq_left',
    Traced.result_mapFailure, mapError_eq_ok]

theorem buildItem_some {name : String} {children : List ι} {excluded : List ClassRef} :
    (buildItem c i name (some (children, excluded))).result = .ok x ↔
      Built c i children excluded x := by
  unfold buildItem
  simp only [result_bind_eq_ok, Traced.result_mapFailure, mapError_eq_ok]
  constructor
  · rintro ⟨built, hbuilt, h⟩
    cases built with
    | none => exact .unshaped hbuilt (mapError_eq_ok.mp h)
    | some y =>
      cases h
      exact .shaped hbuilt
  · rintro (h | ⟨hnone, h⟩)
    · exact ⟨some x, h, rfl⟩
    · exact ⟨none, hnone, mapError_eq_ok.mpr h⟩

/-- **How an item is loaded.**  There is no other way than the two. -/
theorem loadItem_eq_ok_iff :
    (loadItem c w services e).result = .ok x ↔ Loaded c w services e x := by
  rw [loadItem_eq_loadWith]
  unfold loadWith
  simp only [result_bind_eq_ok, Traced.result_ofExcept, Traced.result_report_bind]
  constructor
  · rintro ⟨name, hname, i, hi, ⟨⟩, hallowed, ⟨⟩, hchecked, hbuilt⟩
    have names : Names c w services e i := ⟨name, hname, hi, hallowed⟩
    have checked := checkItems_eq_ok.mp ⟨(), hchecked⟩
    -- Only a class that holds others has its children and its exclusions read.
    split at hbuilt
    · rename_i holds
      simp only [result_bind_eq_ok, loadItems_eq_ok_iff, exclusions_eq_ok_iff, buildItem_some]
        at hbuilt
      obtain ⟨children, loaded, excluded, classes, _, built, decorated⟩ := hbuilt
      exact .holding names checked holds loaded classes built decorated
    · rename_i leaf
      simp only [result_bind_eq_ok, buildItem_none] at hbuilt
      obtain ⟨_, built, decorated⟩ := hbuilt
      exact .plain names checked (by simpa using leaf) built decorated
  · rintro (⟨⟨name, hname, hi, hallowed⟩, checked, leaf, built, decorated⟩ |
      ⟨⟨name, hname, hi, hallowed⟩, checked, holds, loaded, classes, built, decorated⟩)
    · obtain ⟨⟨⟩, hchecked⟩ := checkItems_eq_ok.mpr checked
      refine ⟨name, hname, _, hi, (), hallowed, (), hchecked, ?_⟩
      simp only [leaf, Bool.false_eq_true, if_false, result_bind_eq_ok, buildItem_none]
      exact ⟨_, built, decorated⟩
    · obtain ⟨⟨⟩, hchecked⟩ := checkItems_eq_ok.mpr checked
      refine ⟨name, hname, _, hi, (), hallowed, (), hchecked, ?_⟩
      rw [if_pos holds]
      simp only [result_bind_eq_ok, loadItems_eq_ok_iff, exclusions_eq_ok_iff, buildItem_some]
      exact ⟨_, loaded, _, classes, _, built, decorated⟩

/-- An item that is loaded names a class that may be declared, and so do all items below it. -/
theorem Loaded.names (h : Loaded c w services e x) :
    (∃ i, Names c w services e i) ∧
      ∀ d ∈ e.descendants c.itemTag, ∃ j, Names c w services d j := by
  cases h with
  | plain names checked => exact ⟨⟨_, names⟩, checked⟩
  | holding names checked => exact ⟨⟨_, names⟩, checked⟩

/-! ### The whole family -/

theorem containerTag_ne_star (c : Capability ι) : c.containerTag ≠ "*" := by
  unfold Capability.containerTag
  cases c.family <;> decide

theorem excludeTag_ne_star (c : Capability ι) : c.excludeTag ≠ "*" := by
  unfold Capability.excludeTag Capability.itemTag
  cases c.family <;> decide

/-- Whether an element is an item directly below a container of a family. -/
def TopLevel (c : Capability ι) (root e : Xml.Element) : Prop :=
  ∃ container, Xml.Below container root ∧ container.tag = c.containerTag ∧
    e.toNode ∈ container.content ∧ e.tag = c.itemTag

/-- The items directly below the containers of a family. -/
def itemsBelow (c : Capability ι) (root : Xml.Element) : List Xml.Element :=
  (root.descendants c.containerTag).flatMap fun container => container.children c.itemTag

/-- The items of a family are those below its one container, if it has one. -/
theorem topLevelItems_eq_ok_iff {items : List Xml.Element} :
    topLevelItems c root = .ok items ↔
      (root.descendants c.containerTag).length ≤ 1 ∧ items = itemsBelow c root := by
  unfold topLevelItems itemsBelow
  split
  · rename_i hnone
    simp [hnone, eq_comm]
  · rename_i container hone
    simp [hone, eq_comm]
  · rename_i hnone hone
    simp only [reduceCtorEq, false_iff]
    rintro ⟨hle, -⟩
    rcases Nat.le_one_iff_eq_zero_or_eq_one.mp hle with h | h
    · exact hnone (List.length_eq_zero_iff.mp h)
    · obtain ⟨container, h⟩ := List.length_eq_one_iff.mp h
      exact hone container h

theorem mem_itemsBelow_iff : e ∈ itemsBelow c root ↔ TopLevel c root e := by
  unfold itemsBelow TopLevel
  simp only [List.mem_flatMap, Xml.mem_descendants_iff (containerTag_ne_star c),
    Xml.mem_children_iff (itemTag_ne_star c), and_assoc]

/-- **What a family is loaded as**: the default where it has no items, and else what its items are
    loaded as, put together. -/
theorem loadOverall_eq_ok_iff :
    (loadOverall c w services root).result = .ok x ↔
      (root.descendants c.containerTag).length ≤ 1 ∧
        (itemsBelow c root = [] ∧ c.createDefault.result = .ok x ∨
          itemsBelow c root ≠ [] ∧ ∃ xs, LoadedAll c w services (itemsBelow c root) xs ∧
            (combine c xs).result = .ok x) := by
  unfold loadOverall
  simp only [result_bind_eq_ok, Traced.result_ofExcept, topLevelItems_eq_ok_iff, and_assoc,
    exists_and_left, exists_eq_left]
  refine and_congr_right fun _ => ?_
  cases itemsBelow c root with
  | nil => simp [Traced.result_report_bind]
  | cons d ds =>
    simp only [result_bind_eq_ok, loadItems_eq_ok_iff, reduceCtorEq, false_and, false_or,
      not_false_eq_true, true_and, ne_eq]

/-- Every item directly below a container is loaded when the family is. -/
theorem loaded_of_loadOverall (h : (loadOverall c w services root).result = .ok x)
    (he : TopLevel c root e) : ∃ y, Loaded c w services e y := by
  have hmem : e ∈ itemsBelow c root := mem_itemsBelow_iff.mpr he
  obtain ⟨-, ⟨hnone, -⟩ | ⟨-, xs, hxs, -⟩⟩ := loadOverall_eq_ok_iff.mp h
  · rw [hnone] at hmem
    cases hmem
  · obtain ⟨y, hy⟩ := exists_of_mem_forall₂ hxs hmem
    exact ⟨y, loadItem_eq_ok_iff.mp hy⟩

/-! ### A small table of services -/

/-- A table that knows one leaf and the composite of detectors, and the same of parsers, by their
    short names. -/
def pairServices : ServiceTable where
  detectors :=
    [⟨"TypeDetector", .implementation Packaged.typeDetector, true, ServiceTable.registerOrigin⟩,
     ⟨"CompositeDetector", .implementation Packaged.compositeDetector, false,
      ServiceTable.registerOrigin⟩]
  parsers :=
    [⟨"TextParser", .implementation (Packaged.textParser .listed), true,
      ServiceTable.registerOrigin⟩,
     ⟨"CompositeParser", .implementation Packaged.compositeParser, false,
      ServiceTable.registerOrigin⟩]
  translators := []

/-- A world in which no module can be found. -/
def bareWorld : World := ⟨.own, ⟨[], fun _ _ => none⟩, Traced.fail .missingModule⟩

/-- The detectors of this world, with an empty repository. -/
def pairDetectors : Capability Detector := .detectors bareWorld .empty pairServices

/-- The parsers of this world, with an empty repository. -/
def pairParsers : Capability Parser := .parsers bareWorld .empty pairServices

/-- An item for a parser. -/
def parserItem (name : String) (content : List Xml.Node) : Xml.Element :=
  ⟨"parser", [("class", name)], content⟩

/-- An element that excludes a parser. -/
def parserExclusion (name : String) : Xml.Element := ⟨"parser-exclude", [("class", name)], []⟩

/-- A document with one container of parsers. -/
def parsersDocument (items : List Xml.Element) : Xml.Element :=
  ⟨"properties", [], [.element "parsers" [] (items.map Xml.Element.toNode)]⟩

/-- The items in such a document are directly below the container. -/
theorem topLevel_parsersDocument {items : List Xml.Element} (he : e ∈ items)
    (htag : e.tag = "parser") : TopLevel pairParsers (parsersDocument items) e := by
  refine ⟨⟨"parsers", [], items.map Xml.Element.toNode⟩, .direct (List.mem_singleton_self _), rfl,
    ?_, htag⟩
  exact List.mem_map_of_mem he

end MediaGraph.Config
