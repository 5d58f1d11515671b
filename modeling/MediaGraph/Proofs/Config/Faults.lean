import MediaGraph.Config.Capability
import MediaGraph.Proofs.Config.Items
import MediaGraph.Proofs.Service.Resolving

namespace MediaGraph.Config

/-!
# Failures of items

Whatever goes wrong while an item is checked, built or decorated is a problem of the configuration,
with one exception: a class name that leads to an import that fails in its own way.

* `Capability.Guarded` — what a capability has to contain for this to hold; both families do.
* `ItemFault`, `escapes_loadItem` — what escapes from loading an item, and where it comes from.
* `FamilyFault`, `escapes_loadOverall` — what escapes from loading all items of a family.
-/

variable {ι : Type} {f : Failure} {c : Capability ι} {w : World} {services : ServiceTable}

/-- A capability from which nothing escapes, apart from what breaks the discovery for its
    default. -/
structure Capability.Guarded (c : Capability ι) (w : World) (services : ServiceTable) : Prop where
  allowed : ∀ f i name, ¬ Escapes f (c.checkAllowed i name)
  composed : ∀ f instances, ¬ Escapes f (c.createComposite instances).result
  decorated : ∀ f instance_ e, ¬ Escapes f (c.decorate instance_ e).result
  default : ∀ f, Escapes f c.createDefault.result ↔
    DiscoveryFault w.modules (services.entries c.family) f ∧ f.isConfiguration = false

/-! ### Both families are guarded -/

namespace Capability

theorem guarded_detectors (w : World) (repository : Repository) (services : ServiceTable) :
    (detectors w repository services).Guarded w services where
  allowed _ _ _ := escapes_ok
  composed f instances := by
    change ¬ Escapes f (Detector.compose _ _ _ _).result
    rw [Detector.result_compose]
    exact escapes_ok
  decorated _ _ _ := escapes_pure
  default f := by
    change Escapes f (defaultDetector w _ _ services []).result ↔ _
    unfold defaultDetector ServiceTable.discover
    simp only [escapes_result_bind, Traced.result_report, Detector.result_compose, escapes_ok,
      and_false, exists_false, or_false]
    rw [Escapes, discoverFrom_eq_error]
    rfl

/-- Types that cannot be read are a problem of the configuration. -/
theorem not_escapes_readTypes (e : Xml.Element) (tag : String) : ¬ Escapes f (readTypes e tag) := by
  unfold readTypes
  generalize ([] : TypeSet) = types
  induction e.childTexts tag generalizing types with
  | nil => exact escapes_pure
  | cons text texts ih =>
    rw [List.foldlM_cons, escapes_bind]
    rintro (h | ⟨types', -, h⟩)
    · split at h
      · exact escapes_ok h
      · exact escapes_configuration h
    · exact ih types' h

/-- A filter is put around a parser without fail. -/
theorem result_restrict (p : Parser) (included : TypeSet) :
    (restrict p included).result = .ok (if included.isEmpty then p else p.withTypes included) := by
  unfold restrict
  split <;> rfl

theorem result_exclude (p : Parser) (excluded : TypeSet) :
    (exclude p excluded).result
      = .ok (if excluded.isEmpty then p else p.withoutTypes excluded) := by
  unfold exclude
  split <;> rfl

theorem guarded_parsers (w : World) (repository : Repository) (services : ServiceTable) :
    (parsers w repository services).Guarded w services where
  allowed f i name := by
    change ¬ Escapes f (if i.isAutoDetecting then _ else _)
    split
    · exact escapes_configuration
    · exact escapes_ok
  composed f instances := by
    change ¬ Escapes f (composeParser _ _ _ _ _).result
    rw [result_composeParser]
    exact escapes_ok
  decorated f p e := by
    change ¬ Escapes f (filterTypes p e).result
    unfold filterTypes
    simp only [escapes_result_bind, Traced.result_ofExcept, not_escapes_readTypes, result_restrict,
      result_exclude, escapes_ok, and_false, exists_false, or_false, not_false_iff]
  default f := by
    change Escapes f (defaultParser w _ _ services []).result ↔ _
    unfold defaultParser ServiceTable.discover
    simp only [escapes_result_bind, Traced.result_report, result_composeParser, escapes_ok,
      and_false, exists_false, or_false]
    rw [Escapes, discoverFrom_eq_error]
    rfl

end Capability

/-! ### Class names -/

/-- An element that names a class for which looking it up fails with `f`. -/
def NamesFault (w : World) (services : ServiceTable) (family : Family) (f : Failure)
    (e : Xml.Element) : Prop :=
  ∃ name, e.className = .ok name ∧ ClassFault w.modules services family name f

/-- An element that names a class which may be declared. -/
def Names (c : Capability ι) (w : World) (services : ServiceTable) (e : Xml.Element)
    (i : Implementation) : Prop :=
  ∃ name, e.className = .ok name ∧ (resolveClass w services c.family name).result = .ok i ∧
    c.checkAllowed i name = .ok ()

/-- A missing name is a problem of the configuration. -/
theorem not_escapes_className (e : Xml.Element) : ¬ Escapes f e.className := by
  unfold Xml.Element.className Xml.classOf
  dsimp only
  split
  · exact escapes_configuration
  · exact escapes_ok

/-- The class that an element excludes. -/
def excludedClass (w : World) (services : ServiceTable) (family : Family) (e : Xml.Element) :
    Traced Implementation := do
  resolveClass w services family (← Traced.ofExcept e.className)

theorem escapes_excludedClass {family : Family} {e : Xml.Element} :
    Escapes f (excludedClass w services family e).result ↔ NamesFault w services family f e := by
  unfold excludedClass NamesFault
  simp only [escapes_result_bind, Traced.result_ofExcept, not_escapes_className, false_or,
    escapes_resolveClass]

theorem exclusions_cons (w : World) (services : ServiceTable) (family : Family) (e : Xml.Element)
    (es : List Xml.Element) :
    exclusions w services family (e :: es) = do
      let i ← excludedClass w services family e
      return (fun (i : Implementation) rest => i.cls :: rest) i
        (← exclusions w services family es) := by
  simp [exclusions, excludedClass]

theorem escapes_exclusions {family : Family} {es : List Xml.Element} :
    Escapes f (exclusions w services family es).result ↔
      AtFirst (fun e => ∃ i, (excludedClass w services family e).result = .ok i)
        (NamesFault w services family f) es := by
  have hloop := escapes_loop (f := f) escapes_pure (exclusions_cons w services family) es
  simpa only [escapes_excludedClass] using hloop

/-- An item passes its check when it names a class that may be declared. -/
theorem checkItem_eq_ok {e : Xml.Element} :
    (∃ u, (checkItem c w services e).result = .ok u) ↔ ∃ i, Names c w services e i := by
  unfold checkItem Names
  simp only [result_bind_eq_ok, Traced.result_ofExcept]
  constructor
  · rintro ⟨u, name, hname, i, hi, hu⟩
    exact ⟨i, name, hname, hi, hu⟩
  · rintro ⟨i, name, hname, hi, hu⟩
    exact ⟨(), name, hname, i, hi, hu⟩

theorem escapes_checkItem (hc : c.Guarded w services) {e : Xml.Element} :
    Escapes f (checkItem c w services e).result ↔ NamesFault w services c.family f e := by
  unfold checkItem NamesFault
  simp only [escapes_result_bind, Traced.result_ofExcept, not_escapes_className, false_or,
    escapes_resolveClass, hc.allowed, and_false, exists_false, or_false]

theorem checkItems_cons (c : Capability ι) (w : World) (services : ServiceTable)
    (e : Xml.Element) (es : List Xml.Element) :
    checkItems c w services (e :: es) = do
      let done ← checkItem c w services e
      return (fun _ rest => rest) done (← checkItems c w services es) := by
  rw [checkItems]
  simp

theorem escapes_checkItems (hc : c.Guarded w services) {es : List Xml.Element} :
    Escapes f (checkItems c w services es).result ↔
      AtFirst (fun e => ∃ i, Names c w services e i) (NamesFault w services c.family f) es := by
  have hloop := escapes_loop (f := f) escapes_pure (checkItems_cons c w services) es
  simpa only [escapes_checkItem hc, checkItem_eq_ok] using hloop

/-- Some items pass their checks when each of them does. -/
theorem checkItems_eq_ok {es : List Xml.Element} :
    (∃ u, (checkItems c w services es).result = .ok u) ↔
      ∀ e ∈ es, ∃ i, Names c w services e i := by
  have hloop := loop_succeeds ⟨(), rfl⟩ (checkItems_cons c w services) es
  simpa only [checkItem_eq_ok] using hloop

/-! ### One item -/

theorem isConfiguration_ofBuilding (item name : String) (g : Failure) :
    (ofBuilding item name g).isConfiguration = true := by
  cases g <;> rfl

/-- Whatever goes wrong while an instance is built is a problem of the configuration. -/
theorem not_escapes_buildItem {i : Implementation} {name : String}
    {parts : Option (List ι × List ClassRef)} : ¬ Escapes f (buildItem c i name parts).result := by
  have hbuilding : ∀ {β : Type} (x : Traced β),
      ¬ Escapes f (x.mapFailure (ofBuilding c.itemTag name)).result := fun x =>
    not_escapes_mapError (isConfiguration_ofBuilding c.itemTag name)
  cases parts with
  | none => exact hbuilding (c.instantiate i)
  | some parts =>
    unfold buildItem
    dsimp only
    rw [escapes_result_bind]
    rintro (h | ⟨built, -, h⟩)
    · exact hbuilding _ h
    · cases built with
      | none => exact hbuilding _ h
      | some instance_ => exact escapes_pure h

/-- What escapes from loading an item, given what the items below it are loaded as: its own name is
    at fault, or one below it, or those are loaded and let something escape, or the name of a class
    that is excluded is at fault. -/
theorem escapes_loadWith (hc : c.Guarded w services) {below : Traced (List ι)} {e : Xml.Element} :
    Escapes f (loadWith c w services below e).result ↔
      NamesFault w services c.family f e ∨
        ∃ i, Names c w services e i ∧
          (AtFirst (fun d => ∃ j, Names c w services d j) (NamesFault w services c.family f)
              (e.descendants c.itemTag) ∨
            (∀ d ∈ e.descendants c.itemTag, ∃ j, Names c w services d j) ∧
              c.isCompositeClass i = true ∧
              (Escapes f below.result ∨ (∃ children, below.result = .ok children) ∧
                AtFirst (fun d => ∃ j, (excludedClass w services c.family d).result = .ok j)
                  (NamesFault w services c.family f) (e.descendants c.excludeTag))) := by
  unfold loadWith
  simp only [escapes_result_bind, Traced.result_ofExcept, not_escapes_className, false_or,
    escapes_resolveClass, hc.allowed, Traced.result_report, escapes_ok, escapes_checkItems hc]
  constructor
  · rintro ⟨name, hname, hclass | ⟨i, hi, ⟨⟩, hallowed, ⟨⟩, -, hnested | ⟨⟨⟩, hchecked, hbuilt⟩⟩⟩
    · exact .inl ⟨name, hname, hclass⟩
    · exact .inr ⟨i, ⟨name, hname, hi, hallowed⟩, .inl hnested⟩
    · refine .inr ⟨i, ⟨name, hname, hi, hallowed⟩, .inr ⟨checkItems_eq_ok.mp ⟨(), hchecked⟩, ?_⟩⟩
      -- Only a class that holds others loads what is below it; any other is built as it is.
      split at hbuilt
      · rename_i holds
        simp only [escapes_result_bind, not_escapes_buildItem, hc.decorated, and_false,
          exists_false, or_false, escapes_exclusions] at hbuilt
        refine ⟨holds, ?_⟩
        rcases hbuilt with h | ⟨children, hchildren, h⟩
        · exact .inl h
        · exact .inr ⟨⟨children, hchildren⟩, h⟩
      · simp only [escapes_result_bind, not_escapes_buildItem, hc.decorated, and_false,
          exists_false, or_false] at hbuilt
  · rintro (⟨name, hname, hclass⟩ | ⟨i, ⟨name, hname, hi, hallowed⟩, hnested | ⟨hall, holds, h⟩⟩)
    · exact ⟨name, hname, .inl hclass⟩
    · exact ⟨name, hname, .inr ⟨i, hi, (), hallowed, (), trivial, .inl hnested⟩⟩
    · obtain ⟨⟨⟩, hchecked⟩ := checkItems_eq_ok.mpr hall
      refine ⟨name, hname, .inr ⟨i, hi, (), hallowed, (), trivial, .inr ⟨(), hchecked, ?_⟩⟩⟩
      rw [if_pos holds]
      simp only [escapes_result_bind, not_escapes_buildItem, hc.decorated, and_false,
        exists_false, or_false, escapes_exclusions]
      rcases h with h | ⟨⟨children, hchildren⟩, h⟩
      · exact .inl h
      · exact .inr ⟨children, hchildren, h⟩

/-- Where the failure `f` escapes from an item: from the name of its own class; from the name of an
    item below; while the items below are loaded for a class that holds others; from the name of a
    class that is excluded. -/
inductive ItemFault (c : Capability ι) (w : World) (services : ServiceTable) (f : Failure) :
    Xml.Element → Prop where
  | own {e} (h : NamesFault w services c.family f e) : ItemFault c w services f e
  | nested {e i} (names : Names c w services e i)
      (h : AtFirst (fun d => ∃ j, Names c w services d j) (NamesFault w services c.family f)
        (e.descendants c.itemTag)) : ItemFault c w services f e
  | child {e i before d after} (names : Names c w services e i)
      (checked : ∀ d ∈ e.descendants c.itemTag, ∃ j, Names c w services d j)
      (holds : c.isCompositeClass i = true)
      (items : e.descendants c.itemTag = before ++ d :: after)
      (loaded : ∀ b ∈ before, ∃ x, (loadItem c w services b).result = .ok x)
      (h : ItemFault c w services f d) : ItemFault c w services f e
  | exclusion {e i} (names : Names c w services e i)
      (checked : ∀ d ∈ e.descendants c.itemTag, ∃ j, Names c w services d j)
      (holds : c.isCompositeClass i = true)
      (loaded : ∀ d ∈ e.descendants c.itemTag, ∃ x, (loadItem c w services d).result = .ok x)
      (h : AtFirst (fun d => ∃ j, (excludedClass w services c.family d).result = .ok j)
        (NamesFault w services c.family f) (e.descendants c.excludeTag)) :
      ItemFault c w services f e

theorem loadItems_cons (c : Capability ι) (w : World) (services : ServiceTable) (e : Xml.Element)
    (es : List Xml.Element) :
    loadItems c w services (e :: es) = do
      let first ← loadItem c w services e
      return List.cons first (← loadItems c w services es) := rfl

/-- What escapes from loading an item, in terms of the items below it. -/
theorem escapes_loadItem_step (hc : c.Guarded w services) (e : Xml.Element) :
    Escapes f (loadItem c w services e).result ↔
      NamesFault w services c.family f e ∨
        ∃ i, Names c w services e i ∧
          (AtFirst (fun d => ∃ j, Names c w services d j) (NamesFault w services c.family f)
              (e.descendants c.itemTag) ∨
            (∀ d ∈ e.descendants c.itemTag, ∃ j, Names c w services d j) ∧
              c.isCompositeClass i = true ∧
              (AtFirst (fun d => ∃ x, (loadItem c w services d).result = .ok x)
                  (fun d => Escapes f (loadItem c w services d).result) (e.descendants c.itemTag) ∨
                (∀ d ∈ e.descendants c.itemTag, ∃ x, (loadItem c w services d).result = .ok x) ∧
                  AtFirst (fun d => ∃ j, (excludedClass w services c.family d).result = .ok j)
                    (NamesFault w services c.family f) (e.descendants c.excludeTag))) := by
  have hitems := escapes_loop (f := f) escapes_pure (loadItems_cons c w services)
  have hloaded := loop_succeeds ⟨[], rfl⟩ (loadItems_cons c w services)
  rw [loadItem_eq_loadWith, escapes_loadWith hc, hitems, hloaded]

theorem itemFault_of_escapes (hc : c.Guarded w services) (e : Xml.Element)
    (h : Escapes f (loadItem c w services e).result) : ItemFault c w services f e := by
  rcases (escapes_loadItem_step hc e).mp h with
    hown | ⟨i, names, hnested | ⟨checked, holds, hbelow | ⟨loaded, hexcluded⟩⟩⟩
  · exact .own hown
  · exact .nested names hnested
  · obtain ⟨before, d, after, heq, hbefore, hd⟩ := atFirst_iff.mp hbelow
    -- The item below is the smaller one, so what escapes from it is known.
    have hlt : sizeOf d < sizeOf e :=
      sizeOf_lt_of_mem_descendants (heq ▸ List.mem_append_right before List.mem_cons_self)
    exact .child names checked holds heq hbefore (itemFault_of_escapes hc d hd)
  · exact .exclusion names checked holds loaded hexcluded
termination_by sizeOf e

theorem ItemFault.escapes (hc : c.Guarded w services) {e : Xml.Element}
    (h : ItemFault c w services f e) : Escapes f (loadItem c w services e).result := by
  induction h with
  | own h => exact (escapes_loadItem_step hc _).mpr (.inl h)
  | nested names h => exact (escapes_loadItem_step hc _).mpr (.inr ⟨_, names, .inl h⟩)
  | @child e i before d after names checked holds items loaded h ih =>
    have hbelow : AtFirst (fun d => ∃ x, (loadItem c w services d).result = .ok x)
        (fun d => Escapes f (loadItem c w services d).result) (e.descendants c.itemTag) :=
      atFirst_iff.mpr ⟨before, d, after, items, loaded, ih⟩
    exact (escapes_loadItem_step hc _).mpr (.inr ⟨_, names, .inr ⟨checked, holds, .inl hbelow⟩⟩)
  | exclusion names checked holds loaded h =>
    exact (escapes_loadItem_step hc _).mpr
      (.inr ⟨_, names, .inr ⟨checked, holds, .inr ⟨loaded, h⟩⟩⟩)

/-- **What escapes from loading an item.** -/
theorem escapes_loadItem (hc : c.Guarded w services) (e : Xml.Element) :
    Escapes f (loadItem c w services e).result ↔ ItemFault c w services f e :=
  ⟨itemFault_of_escapes hc e, ItemFault.escapes hc⟩

/-! ### The whole family -/

/-- Where the failure `f` escapes from loading a family: while its default is discovered, or from
    the first item that is not loaded. -/
inductive FamilyFault (c : Capability ι) (w : World) (services : ServiceTable)
    (root : Xml.Element) (f : Failure) : Prop where
  | discovery (none : topLevelItems c root = .ok [])
      (h : DiscoveryFault w.modules (services.entries c.family) f)
      (hf : f.isConfiguration = false)
  | item {items} (declared : topLevelItems c root = .ok items)
      (h : AtFirst (fun e => ∃ x, (loadItem c w services e).result = .ok x)
        (ItemFault c w services f) items)

/-- A repeated container is a problem of the configuration. -/
theorem not_escapes_topLevelItems (c : Capability ι) (root : Xml.Element) :
    ¬ Escapes f (topLevelItems c root) := by
  unfold topLevelItems
  split
  · exact escapes_ok
  · exact escapes_ok
  · exact escapes_configuration

/-- Nothing escapes from putting instances together. -/
theorem not_escapes_combine (hc : c.Guarded w services) (instances : List ι) :
    ¬ Escapes f (combine c instances).result := by
  unfold combine
  split
  · split
    · exact escapes_pure
    · exact hc.composed f _
  · exact hc.composed f _

/-- **What escapes from loading a family.** -/
theorem escapes_loadOverall (hc : c.Guarded w services) (root : Xml.Element) :
    Escapes f (loadOverall c w services root).result ↔ FamilyFault c w services root f := by
  have hitems := escapes_loop (f := f) escapes_pure (loadItems_cons c w services)
  simp only [escapes_loadItem hc] at hitems
  unfold loadOverall
  simp only [escapes_result_bind, Traced.result_ofExcept, not_escapes_topLevelItems, false_or]
  constructor
  · rintro ⟨items, hdeclared, h⟩
    -- Without items the default takes their place; with items it is never asked for.
    cases items with
    | nil =>
      rw [Traced.result_report_bind, hc.default] at h
      exact .discovery hdeclared h.1 h.2
    | cons e es =>
      simp only [escapes_result_bind, not_escapes_combine hc, and_false, exists_false, or_false]
        at h
      exact .item hdeclared ((hitems _).mp h)
  · rintro (⟨hnone, h, hf⟩ | ⟨hdeclared, h⟩)
    · refine ⟨[], hnone, ?_⟩
      dsimp only
      rw [Traced.result_report_bind, hc.default]
      exact ⟨h, hf⟩
    · rename_i items
      refine ⟨items, hdeclared, ?_⟩
      cases items with
      | nil => cases h
      | cons e es =>
        simp only [escapes_result_bind, not_escapes_combine hc, and_false, exists_false, or_false]
        exact (hitems _).mpr h

end MediaGraph.Config
