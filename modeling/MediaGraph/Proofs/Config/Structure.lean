import MediaGraph.Proofs.Config.Loaded

namespace MediaGraph.Config

/-!
# The structure of what is loaded

A family is loaded as its default, as its one item, or as a plain composite of its items.  An item
whose class takes children as the plain composite does is loaded as a composite of all items below
it, apart from those of the excluded classes.

* `Assembled`, `loadOverall_eq_ok_iff_assembled` — the three outcomes for a family.
* `loadItem_eq_ok_iff_held` — the outcome for an item of a class that is built from its children.
* `TakesDetectors`, `TakesParsers` — the classes that take children like the plain composites.
* `structure_of_load` — both families, and the items in them.
-/

variable {ι : Type} {c : Capability ι} {w : World} {repository : Repository}
  {services : ServiceTable} {e root : Xml.Element} {i : Implementation} {x : ι}

/-! ### The whole family -/

/-- What the items of a family are assembled to, where `plain` makes the plain composite of some
    instances: the default without items; the instance of a single item that holds or wraps others;
    else the composite of the instances of all items. -/
inductive Assembled (c : Capability ι) (w : World) (services : ServiceTable)
    (plain : List ι → ι) : List Xml.Element → ι → Prop where
  | default {y : ι} (created : c.createDefault.result = .ok y) : Assembled c w services plain [] y
  | single {d : Xml.Element} {y : ι} (loaded : (loadItem c w services d).result = .ok y)
      (holds : c.isComposite y = true) : Assembled c w services plain [d] y
  | composed {es : List Xml.Element} {ys : List ι} (declared : es ≠ [])
      (loaded : LoadedAll c w services es ys)
      (other : ∀ y, ys = [y] → c.isComposite y = false) :
      Assembled c w services plain es (plain ys)

section

variable {plain : List ι → ι} (hplain : ∀ ys, (c.createComposite ys).result = .ok (plain ys))

include hplain

/-- A single instance that holds or wraps others stands for itself; everything else is put into the
    plain composite. -/
theorem combine_eq_ok_iff {ys : List ι} :
    (combine c ys).result = .ok x ↔
      (ys = [x] ∧ c.isComposite x = true) ∨
        (∀ y, ys = [y] → c.isComposite y = false) ∧ plain ys = x := by
  unfold combine
  split
  -- A single instance is wrapped or not, as it holds others or does not; any other number of them
  -- is no single instance, and is wrapped.
  · rename_i y
    cases holds : c.isComposite y with
    | true =>
      rw [if_pos rfl, Traced.result_pure, Except.ok.injEq, List.singleton_inj]
      constructor
      · rintro rfl
        exact .inl ⟨rfl, holds⟩
      · rintro (⟨h, -⟩ | ⟨h, -⟩)
        · exact h
        · rw [h y rfl] at holds
          cases holds
    | false =>
      rw [if_neg Bool.false_ne_true, hplain, Except.ok.injEq, List.singleton_inj]
      constructor
      · rintro rfl
        refine .inr ⟨?_, rfl⟩
        rintro z hz
        rw [← List.singleton_inj.mp hz, holds]
      · rintro (⟨rfl, h⟩ | ⟨-, h⟩)
        · rw [h] at holds
          cases holds
        · exact h
  · rename_i hmany
    rw [hplain, Except.ok.injEq]
    constructor
    · rintro rfl
      exact .inr ⟨fun y hy => absurd hy (hmany y), rfl⟩
    · rintro (⟨h, -⟩ | ⟨-, h⟩)
      · exact absurd h (hmany x)
      · exact h

/-- **What a family is loaded as**, for a capability whose plain composite never fails. -/
theorem loadOverall_eq_ok_iff_assembled :
    (loadOverall c w services root).result = .ok x ↔
      (root.descendants c.containerTag).length ≤ 1 ∧
        Assembled c w services plain (itemsBelow c root) x := by
  rw [loadOverall_eq_ok_iff]
  refine and_congr_right fun _ => ?_
  generalize itemsBelow c root = items
  constructor
  · rintro (⟨rfl, created⟩ | ⟨declared, ys, loaded, hx⟩)
    · exact .default created
    · rcases (combine_eq_ok_iff hplain).mp hx with ⟨rfl, holds⟩ | ⟨other, rfl⟩
      -- One instance comes from one item.
      · obtain ⟨d, ds, hd, hds, rfl⟩ := List.forall₂_cons_right_iff.mp loaded
        rw [List.forall₂_nil_right_iff] at hds
        rw [hds]
        exact .single hd holds
      · exact .composed declared loaded other
  · rintro (created | ⟨loaded, holds⟩ | ⟨declared, loaded, other⟩)
    · exact .inl ⟨rfl, created⟩
    · refine .inr ⟨List.cons_ne_nil _ _, [x], .cons loaded .nil, ?_⟩
      exact (combine_eq_ok_iff hplain).mpr (.inl ⟨rfl, holds⟩)
    · refine .inr ⟨declared, _, loaded, ?_⟩
      exact (combine_eq_ok_iff hplain).mpr (.inr ⟨other, rfl⟩)

end

/-! ### An item that holds others -/

/-- A class that asks for no service table, but for children and exclusions, is built from these. -/
theorem result_construct?_of_children {shapes later : List Shape} {children : List ι}
    {excluded : List ClassRef}
    (hpriority : c.priority = .fromLoader :: .fromChildrenExcluding :: later)
    (happlies : c.applies .fromChildrenExcluding i = true)
    (hadvertised : ∀ s, s ∈ i.advertised ↔ s ∈ shapes) (hloader : .fromLoader ∉ shapes)
    (hchildren : .fromChildrenExcluding ∈ shapes)
    (hbuild : (c.build .fromChildrenExcluding i children excluded).result = .ok x) :
    (c.construct? i children excluded).result = .ok (some x) := by
  have hfind : (c.priority.find? fun s => i.advertised.contains s && c.applies s i)
      = some .fromChildrenExcluding := by
    simp [hpriority, hadvertised, hloader, hchildren, happlies]
  unfold Capability.construct?
  rw [hfind]
  dsimp only
  rw [Traced.result_report_bind, result_bind_eq_ok]
  exact ⟨x, hbuild, rfl⟩

/-- **What an item is loaded as** when its class can always be built from children and exclusions:
    that instance, of all items below it and all classes excluded below it, after the settings of
    the item. -/
theorem loadItem_eq_ok_iff_held {held : List ι → List ClassRef → ι}
    (hi : NamesClass w services c.family e i) (holds : c.isCompositeClass i = true)
    (hheld : ∀ children excluded,
      (c.construct? i children excluded).result = .ok (some (held children excluded))) :
    (loadItem c w services e).result = .ok x ↔
      Names c w services e i ∧ ∃ children excluded,
        LoadedAll c w services (e.descendants c.itemTag) children ∧
          ClassesOf w services c.family (e.descendants c.excludeTag) excluded ∧
          (c.decorate (held children excluded) e).result = .ok x := by
  rw [loadItem_eq_ok_iff]
  constructor
  · rintro (⟨names, -, leaf⟩ | ⟨names, -, -, loaded, classes, built, decorated⟩)
    · rw [names.namesClass.unique hi, holds] at leaf
      cases leaf
    · obtain rfl := names.namesClass.unique hi
      refine ⟨names, _, _, loaded, classes, ?_⟩
      -- A usable shape is there, so the instance is not built without arguments.
      rcases built with built | ⟨none, -⟩
      · rw [hheld, Except.ok.injEq, Option.some.injEq] at built
        rw [built]
        exact decorated
      · rw [hheld] at none
        cases none
  · rintro ⟨names, children, excluded, loaded, classes, decorated⟩
    -- What is below is checked before it is loaded, and what can be loaded passes the check.
    refine .holding names ?_ holds loaded classes (.shaped (hheld children excluded)) decorated
    intro d hd
    obtain ⟨y, hy⟩ := exists_of_mem_forall₂ loaded hd
    exact (loadItem_eq_ok_iff.mp hy).names.1

/-! ### Detectors -/

/-- Whether a class of detectors takes children as the plain composite of detectors does: it offers
    the same shapes to a configuration, and its instances are built alike. -/
structure TakesDetectors (i : Implementation) : Prop where
  advertised : ∀ s, s ∈ i.advertised ↔ s ∈ Packaged.compositeDetectorShapes
  design : ∃ own, i.design = .detector (.composite own)

/-- Such a class is built from the children that are not of an excluded class. -/
theorem TakesDetectors.result_construct? (h : TakesDetectors i) (children : List Detector)
    (excluded : List ClassRef) :
    ((Capability.detectors w repository services).construct? i children excluded).result
      = .ok (some (.composite i.cls repository.registry
          (children.filter fun child => !child.cls.derivesFromAny excluded))) := by
  obtain ⟨own, hdesign⟩ := h.design
  refine result_construct?_of_children rfl rfl h.advertised (by decide) (by decide) ?_
  simp only [Capability.detectors, Capability.buildDetector, hdesign, Detector.result_compose,
    Detector.isExcluded]

theorem TakesDetectors.isCompositeDetector (h : TakesDetectors i) :
    i.isCompositeDetector = true := by
  obtain ⟨own, hdesign⟩ := h.design
  rw [Implementation.isCompositeDetector, hdesign]

/-- An item of such a class is loaded as what it is built from. -/
theorem TakesDetectors.loadItem_eq_ok_iff (takes : TakesDetectors i)
    (hi : NamesClass w services .detectors e i) {d : Detector} :
    (loadItem (.detectors w repository services) w services e).result = .ok d ↔
      ∃ children excluded,
        LoadedAll (.detectors w repository services) w services (e.descendants "detector")
            children ∧
          ClassesOf w services .detectors (e.descendants "detector-exclude") excluded ∧
          d = .composite i.cls repository.registry
            (children.filter fun child => !child.cls.derivesFromAny excluded) := by
  refine (loadItem_eq_ok_iff_held hi takes.isCompositeDetector takes.result_construct?).trans ?_
  rw [names_detectors_iff, and_iff_right hi]
  refine exists_congr fun children => exists_congr fun excluded => ?_
  refine and_congr Iff.rfl (and_congr Iff.rfl ?_)
  -- Detectors have no settings, so the instance stays as it is built.
  change Except.ok _ = Except.ok d ↔ _
  rw [Except.ok.injEq, eq_comm]

/-! ### Parsers -/

/-- Whether a class of parsers takes children as the plain composite of parsers does. -/
structure TakesParsers (i : Implementation) : Prop where
  advertised : ∀ s, s ∈ i.advertised ↔ s ∈ Packaged.compositeParserShapes
  design : ∃ own, i.design = .parser (.composite .holding own)

/-- Such a class is built from the children that are not of an excluded class, and do not wrap a
    parser of one. -/
theorem TakesParsers.result_construct? (h : TakesParsers i) (children : List Parser)
    (excluded : List ClassRef) :
    ((Capability.parsers w repository services).construct? i children excluded).result
      = .ok (some (.composite i.cls none repository.registry
          (children.filter fun child =>
            !(child.cls.derivesFromAny excluded || child.innermost.cls.derivesFromAny excluded))
          excluded Parser.nothing)) := by
  obtain ⟨own, hdesign⟩ := h.design
  refine result_construct?_of_children rfl rfl h.advertised (by decide) (by decide) ?_
  simp only [Capability.parsers, Capability.buildParser, Capability.holdChildren, hdesign,
    result_composeParser, Parser.isExcluded]

theorem TakesParsers.isCompositeParser (h : TakesParsers i) : i.isCompositeParser = true := by
  obtain ⟨own, hdesign⟩ := h.design
  rw [Implementation.isCompositeParser, hdesign]

/-- An item of such a class is loaded as what it is built from, under the settings of the item. -/
theorem TakesParsers.loadItem_eq_ok_iff (takes : TakesParsers i)
    (hi : NamesClass w services .parsers e i) {p : Parser} :
    (loadItem (.parsers w repository services) w services e).result = .ok p ↔
      i.isAutoDetecting = false ∧ ∃ children excluded,
        LoadedAll (.parsers w repository services) w services (e.descendants "parser") children ∧
          ClassesOf w services .parsers (e.descendants "parser-exclude") excluded ∧
          (Capability.filterTypes (.composite i.cls none repository.registry
            (children.filter fun child =>
              !(child.cls.derivesFromAny excluded || child.innermost.cls.derivesFromAny excluded))
            excluded Parser.nothing) e).result = .ok p := by
  have holds : (Capability.parsers w repository services).isCompositeClass i = true := by
    change (i.isCompositeParser || i.isDecorator) = true
    rw [takes.isCompositeParser, Bool.true_or]
  refine (loadItem_eq_ok_iff_held hi holds takes.result_construct?).trans ?_
  rw [names_parsers_iff, and_iff_right hi]
  rfl

/-! ### Both families -/

/-- The plain composite of some detectors. -/
def plainDetectors (repository : Repository) (ds : List Detector) : Detector :=
  .composite Detector.compositeClass repository.registry ds

/-- The plain composite of some parsers. -/
def plainParsers (repository : Repository) (ps : List Parser) : Parser :=
  .composite Parser.compositeClass none repository.registry ps [] Parser.nothing

theorem result_createComposite_detectors (ds : List Detector) :
    ((Capability.detectors w repository services).createComposite ds).result
      = .ok (plainDetectors repository ds) := by
  simp [Capability.detectors, Detector.result_compose, Detector.isExcluded,
    ClassRef.derivesFromAny, plainDetectors]

theorem result_createComposite_parsers (ps : List Parser) :
    ((Capability.parsers w repository services).createComposite ps).result
      = .ok (plainParsers repository ps) := by
  simp [Capability.parsers, result_composeParser, Parser.isExcluded, ClassRef.derivesFromAny,
    plainParsers]

/-- **The structure of a load.**  A document for which a family can be loaded has one container of
    it at most, and the family is its default without items, the instance of a single item that
    holds others (for parsers: or wraps one), and else the plain composite of the instances of all
    items directly below the container, one for each, in document order.

    An item whose class takes children as a plain composite does is loaded, before its settings are
    applied, as a composite of that class that holds the instances of all items at any depth below
    it, one for each, in document order, without those of a class that is excluded at any depth
    below it.  For detectors the class of the child counts, for parsers also that of the parser
    inside its decorators. -/
theorem structure_of_load (w : World) (repository : Repository) (services : ServiceTable) :
    ((∀ root d, (loadOverall (.detectors w repository services) w services root).result = .ok d ↔
        (root.descendants "detectors").length ≤ 1 ∧
          Assembled (.detectors w repository services) w services (plainDetectors repository)
            (itemsBelow (.detectors w repository services) root) d) ∧
      ∀ root p, (loadOverall (.parsers w repository services) w services root).result = .ok p ↔
        (root.descendants "parsers").length ≤ 1 ∧
          Assembled (.parsers w repository services) w services (plainParsers repository)
            (itemsBelow (.parsers w repository services) root) p) ∧
    (∀ e i d, NamesClass w services .detectors e i → TakesDetectors i →
      ((loadItem (.detectors w repository services) w services e).result = .ok d ↔
        ∃ children excluded,
          LoadedAll (.detectors w repository services) w services (e.descendants "detector")
              children ∧
            ClassesOf w services .detectors (e.descendants "detector-exclude") excluded ∧
            d = .composite i.cls repository.registry
              (children.filter fun child => !child.cls.derivesFromAny excluded))) ∧
    ∀ e i p, NamesClass w services .parsers e i → TakesParsers i →
      ((loadItem (.parsers w repository services) w services e).result = .ok p ↔
        i.isAutoDetecting = false ∧ ∃ children excluded,
          LoadedAll (.parsers w repository services) w services (e.descendants "parser")
              children ∧
            ClassesOf w services .parsers (e.descendants "parser-exclude") excluded ∧
            (Capability.filterTypes (.composite i.cls none repository.registry
              (children.filter fun child =>
                !(child.cls.derivesFromAny excluded ||
                  child.innermost.cls.derivesFromAny excluded))
              excluded Parser.nothing) e).result = .ok p) := by
  refine ⟨⟨?_, ?_⟩, ?_, ?_⟩
  · exact fun root d => loadOverall_eq_ok_iff_assembled result_createComposite_detectors
  · exact fun root p => loadOverall_eq_ok_iff_assembled result_createComposite_parsers
  · exact fun e i d hi takes => takes.loadItem_eq_ok_iff hi
  · exact fun e i p hi takes => takes.loadItem_eq_ok_iff hi

/-- An item with a leaf in an element of another name, a composite, and an exclusion of the leaf. -/
def nestedItem (c : Capability ι) (leaf composite : String) : Xml.Element :=
  ⟨c.itemTag, [("class", composite)],
    [.element "note" [] [.element c.itemTag [("class", leaf)] []],
     .element c.itemTag [("class", composite)] [],
     .element c.excludeTag [("class", leaf)] []]⟩

/-- Of the leaf and the composite only the composite is held, by detectors and parsers alike; alone
    in its document the item stands for its family. -/
theorem structure_of_load_nested :
    (NamesClass bareWorld pairServices .detectors
        (nestedItem pairDetectors "TypeDetector" "CompositeDetector") Packaged.compositeDetector ∧
      TakesDetectors Packaged.compositeDetector ∧
      (loadItem pairDetectors bareWorld pairServices
          (nestedItem pairDetectors "TypeDetector" "CompositeDetector")).result
        = .ok (plainDetectors .empty [plainDetectors .empty []])) ∧
    (NamesClass bareWorld pairServices .parsers
        (nestedItem pairParsers "TextParser" "CompositeParser") Packaged.compositeParser ∧
      TakesParsers Packaged.compositeParser ∧
      (loadItem pairParsers bareWorld pairServices
          (nestedItem pairParsers "TextParser" "CompositeParser")).result
        = .ok (.composite Parser.compositeClass none Repository.empty.registry
            [plainParsers .empty []] [Parser.textClass] Parser.nothing)) ∧
    (loadOverall pairParsers bareWorld pairServices
        (parsersDocument [nestedItem pairParsers "TextParser" "CompositeParser"])).result
      = .ok (.composite Parser.compositeClass none Repository.empty.registry
          [plainParsers .empty []] [Parser.textClass] Parser.nothing) := by
  obtain ⟨⟨-, parsers⟩, detectorItem, parserItem⟩ := structure_of_load bareWorld .empty pairServices
  have hdetectors : NamesClass bareWorld pairServices .detectors
      (nestedItem pairDetectors "TypeDetector" "CompositeDetector") Packaged.compositeDetector :=
    ⟨"CompositeDetector", rfl, by decide, _, rfl, .inl rfl, rfl⟩
  have hparsers : NamesClass bareWorld pairServices .parsers
      (nestedItem pairParsers "TextParser" "CompositeParser") Packaged.compositeParser :=
    ⟨"CompositeParser", rfl, by decide, _, rfl, .inl rfl, rfl⟩
  have takesDetectors : TakesDetectors Packaged.compositeDetector := ⟨fun _ => Iff.rfl, none, rfl⟩
  have takesParsers : TakesParsers Packaged.compositeParser := ⟨fun _ => Iff.rfl, none, rfl⟩
  have excludedDetectors : ClassesOf bareWorld pairServices .detectors
      ((nestedItem pairDetectors "TypeDetector" "CompositeDetector").descendants
        "detector-exclude") [Detector.typeClass] :=
    .cons ⟨_, ⟨"TypeDetector", rfl, by decide, _, rfl, .inl rfl, rfl⟩, rfl⟩ .nil
  have excludedParsers : ClassesOf bareWorld pairServices .parsers
      ((nestedItem pairParsers "TextParser" "CompositeParser").descendants "parser-exclude")
      [Parser.textClass] :=
    .cons ⟨_, ⟨"TextParser", rfl, by decide, _, rfl, .inl rfl, rfl⟩, rfl⟩ .nil
  have loadedParser := (parserItem _ _ _ hparsers takesParsers).mpr
    ⟨rfl, _, _, .cons rfl (.cons rfl .nil), excludedParsers, rfl⟩
  refine ⟨⟨hdetectors, takesDetectors, ?_⟩, ⟨hparsers, takesParsers, loadedParser⟩, ?_⟩
  · exact (detectorItem _ _ _ hdetectors takesDetectors).mpr
      ⟨_, _, .cons rfl (.cons rfl .nil), excludedDetectors, rfl⟩
  · exact (parsers _ _).mpr ⟨by decide, .single loadedParser rfl⟩

end MediaGraph.Config
