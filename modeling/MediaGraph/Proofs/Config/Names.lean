import MediaGraph.Proofs.Config.Loaded

namespace MediaGraph.Config

/-!
# Names in a document that is loaded

Loading looks up more names than it builds instances for: the items below a class that holds nothing
are looked up although they are never loaded.  The names of excluded classes are looked up only
below a class that holds others.

* `items_checked` — every item of a loaded document, at any depth, names an available class that may
  be declared.
* `exclusions_known` — every exclusion below a class that holds others names an available class, or
  the document is not loaded.
* `exclusion_below_leaf_unread` — an exclusion that names nothing, in a document that is loaded.
-/

variable {ι : Type} {c : Capability ι} {w : World} {services : ServiceTable}
  {e root d : Xml.Element} {i : Implementation} {x : ι}

/-! ### Items -/

/-- Whether an element is an item of a family: directly below a container, or at any depth below
    such an item. -/
def IsItem (c : Capability ι) (root d : Xml.Element) : Prop :=
  ∃ e, TopLevel c root e ∧ (d = e ∨ Xml.Below d e ∧ d.tag = c.itemTag)

/-- Every item of a family that is loaded names a class that may be declared. -/
theorem names_of_loadOverall (h : (loadOverall c w services root).result = .ok x)
    (hd : IsItem c root d) : ∃ i, Names c w services d i := by
  obtain ⟨e, he, hd⟩ := hd
  obtain ⟨y, loaded⟩ := loaded_of_loadOverall h he
  obtain ⟨own, below⟩ := loaded.names
  rcases hd with rfl | hd
  · exact own
  · exact below d ((Xml.mem_descendants_iff (itemTag_ne_star c)).mpr hd)

/-- A class that derives from the auto-detecting parser counts as it. -/
theorem derivesFrom_autoClass_eq_false (h : i.isAutoDetecting = false) :
    i.cls.derivesFrom Parser.autoClass = false := by
  rw [Implementation.isAutoDetecting, Bool.or_eq_false_iff] at h
  exact h.1

/-- **No item goes unchecked.**  When the detectors or the parsers of a document are loaded, every
    item directly below the container and every item at any depth below such an item, whatever the
    classes and the names of the elements around it, has a class attribute that is not blank and
    that is the name of an available class of the family.  For parsers none of these classes is
    the auto-detecting parser or derives from it. -/
theorem items_checked (w : World) (repository : Repository) (services : ServiceTable)
    (root : Xml.Element) :
    (∀ x, (loadOverall (.detectors w repository services) w services root).result = .ok x →
      ∀ d, IsItem (.detectors w repository services) root d →
        ∃ i, NamesClass w services .detectors d i) ∧
    ∀ x, (loadOverall (.parsers w repository services) w services root).result = .ok x →
      ∀ d, IsItem (.parsers w repository services) root d →
        ∃ i, NamesClass w services .parsers d i ∧ i.isAutoDetecting = false ∧
          i.cls.derivesFrom Parser.autoClass = false := by
  constructor
  · intro x h d hd
    obtain ⟨i, hi⟩ := names_of_loadOverall h hd
    exact ⟨i, hi.namesClass⟩
  · intro x h d hd
    obtain ⟨i, hi⟩ := names_of_loadOverall h hd
    obtain ⟨hclass, hauto⟩ := names_parsers_iff.mp hi
    exact ⟨i, hclass, hauto, derivesFrom_autoClass_eq_false hauto⟩

/-- An item around which there is an element of another name, below a class that holds nothing. -/
def coveredItem : Xml.Element := parserItem "CompositeParser" []

/-- A leaf with that item below it. -/
def coveringItem : Xml.Element :=
  parserItem "TextParser" [.element "note" [] [coveredItem.toNode]]

/-- The item is checked although it is never loaded. -/
theorem items_checked_below_leaf :
    (∃ x, (loadOverall pairParsers bareWorld pairServices
        (parsersDocument [coveringItem])).result = .ok x) ∧
      IsItem pairParsers (parsersDocument [coveringItem]) coveredItem ∧
      ∃ i, NamesClass bareWorld pairServices .parsers coveredItem i ∧ i.isAutoDetecting = false ∧
        i.cls.derivesFrom Parser.autoClass = false := by
  have hload : ∃ x, (loadOverall pairParsers bareWorld pairServices
      (parsersDocument [coveringItem])).result = .ok x := ⟨_, rfl⟩
  have hitem : IsItem pairParsers (parsersDocument [coveringItem]) coveredItem := by
    refine ⟨coveringItem, topLevel_parsersDocument (List.mem_singleton_self _) rfl, .inr ⟨?_, rfl⟩⟩
    exact .deeper (m := ⟨"note", [], [coveredItem.toNode]⟩) (List.mem_singleton_self _)
      (.direct (List.mem_singleton_self _))
  obtain ⟨x, hx⟩ := hload
  exact ⟨⟨x, hx⟩, hitem, (items_checked bareWorld .empty pairServices _).2 x hx _ hitem⟩

/-! ### Exclusions -/

/-- Whether every exclusion that lies below an item directly below a container, at any depth, names
    an available class, where the class of that item holds others. -/
def ExclusionsKnown (c : Capability ι) (w : World) (services : ServiceTable)
    (root : Xml.Element) : Prop :=
  ∀ e i d, TopLevel c root e → NamesClass w services c.family e i → c.isCompositeClass i = true →
    Xml.Below d e → d.tag = c.excludeTag → ∃ j, NamesClass w services c.family d j

/-- The exclusions of a family that is loaded are known. -/
theorem exclusionsKnown_of_loadOverall (h : (loadOverall c w services root).result = .ok x) :
    ExclusionsKnown c w services root := by
  intro e i d he hi holds hd htag
  obtain ⟨y, loaded⟩ := loaded_of_loadOverall h he
  -- An item that is loaded plainly has a class that holds nothing, and an item has one class only.
  cases loaded with
  | plain names _ leaf =>
    rw [names.namesClass.unique hi, holds] at leaf
    cases leaf
  | holding _ _ _ _ classes =>
    have hmem : d ∈ e.descendants c.excludeTag :=
      (Xml.mem_descendants_iff (excludeTag_ne_star c)).mpr ⟨hd, htag⟩
    obtain ⟨cls, j, hj, -⟩ := exists_of_mem_forall₂ classes hmem
    exact ⟨j, hj⟩

/-- Where an exclusion is not known, the family is not loaded. -/
theorem loadOverall_of_not_exclusionsKnown (hc : c.Guarded w services)
    (h : ¬ ExclusionsKnown c w services root) :
    (∃ problem cause, (loadOverall c w services root).result
        = .error (.configuration problem cause)) ∨
      ∃ f, FamilyFault c w services root f ∧ (loadOverall c w services root).result = .error f := by
  cases hresult : (loadOverall c w services root).result with
  | ok x => exact absurd (exclusionsKnown_of_loadOverall hresult) h
  | error f =>
    cases hf : f.isConfiguration with
    | true =>
      obtain ⟨problem, cause, rfl⟩ := Failure.isConfiguration_iff.mp hf
      exact .inl ⟨problem, cause, rfl⟩
    | false => exact .inr ⟨f, (escapes_loadOverall hc root).mp ⟨hresult, hf⟩, rfl⟩

/-- **Exclusions name known classes.**  When the detectors or the parsers of a document are loaded,
    every exclusion at any depth below an item whose class holds others (for parsers: or wraps one)
    names an available class of the family.  Where one does not, the load fails with a problem of
    the configuration, unless the import of some class fails in a way of its own. -/
theorem exclusions_known (w : World) (repository : Repository) (services : ServiceTable)
    (root : Xml.Element) :
    ((∀ x, (loadOverall (.detectors w repository services) w services root).result = .ok x →
        ExclusionsKnown (.detectors w repository services) w services root) ∧
      (¬ ExclusionsKnown (.detectors w repository services) w services root →
        (∃ problem cause, (loadOverall (.detectors w repository services) w services root).result
            = .error (.configuration problem cause)) ∨
          ∃ f, FamilyFault (.detectors w repository services) w services root f ∧
            (loadOverall (.detectors w repository services) w services root).result
              = .error f)) ∧
    (∀ x, (loadOverall (.parsers w repository services) w services root).result = .ok x →
        ExclusionsKnown (.parsers w repository services) w services root) ∧
      (¬ ExclusionsKnown (.parsers w repository services) w services root →
        (∃ problem cause, (loadOverall (.parsers w repository services) w services root).result
            = .error (.configuration problem cause)) ∨
          ∃ f, FamilyFault (.parsers w repository services) w services root f ∧
            (loadOverall (.parsers w repository services) w services root).result = .error f) := by
  refine ⟨⟨?_, ?_⟩, ?_, ?_⟩
  · exact fun _ => exclusionsKnown_of_loadOverall
  · exact loadOverall_of_not_exclusionsKnown (Capability.guarded_detectors w repository services)
  · exact fun _ => exclusionsKnown_of_loadOverall
  · exact loadOverall_of_not_exclusionsKnown (Capability.guarded_parsers w repository services)

/-- An element does not name a class when no entry has the name. -/
theorem not_namesClass_of_find {family : Family} {value : String} {f : Failure}
    (hvalue : d.attribute? "class" = some value)
    (hfind : services.find family (Text.trim value) = .error f) :
    ¬ NamesClass w services family d i := by
  rintro ⟨value', hvalue', -, entry, hentry, -⟩
  rw [hvalue, Option.some.injEq] at hvalue'
  rw [← hvalue', hfind] at hentry
  cases hentry

/-- A leaf with an exclusion below it. -/
def excludingLeaf (excluded : String) : Xml.Element :=
  parserItem "TextParser" [(parserExclusion excluded).toNode]

/-- A composite around that leaf. -/
def excludingComposite (excluded : String) : Xml.Element :=
  parserItem "CompositeParser" [(excludingLeaf excluded).toNode]

/-- The exclusion belongs to the leaf and to the composite alike. -/
theorem below_excludingComposite (excluded : String) :
    Xml.Below (parserExclusion excluded) (excludingLeaf excluded) ∧
      Xml.Below (parserExclusion excluded) (excludingComposite excluded) := by
  have hleaf : Xml.Below (parserExclusion excluded) (excludingLeaf excluded) :=
    .direct (List.mem_singleton_self _)
  exact ⟨hleaf, .deeper (List.mem_singleton_self _) hleaf⟩

theorem namesClass_excludingComposite (excluded : String) :
    NamesClass bareWorld pairServices .parsers (excludingComposite excluded)
      Packaged.compositeParser :=
  ⟨"CompositeParser", rfl, by decide, _, rfl, .inl rfl, rfl⟩

theorem not_namesClass_nowhere :
    ¬ ∃ j, NamesClass bareWorld pairServices .parsers (parserExclusion "Nowhere") j := by
  rintro ⟨j, hj⟩
  have hfind : pairServices.find .parsers (Text.trim "Nowhere")
      = .error (.unknownService .parsers "Nowhere" []) := rfl
  exact not_namesClass_of_find rfl hfind hj

/-- A composite around a leaf with an exclusion is loaded, and its exclusion is known; with an
    unknown name in the exclusion it is not. -/
theorem exclusions_known_below_composite :
    (∃ x, (loadOverall pairParsers bareWorld pairServices
        (parsersDocument [excludingComposite "TextParser"])).result = .ok x) ∧
      ExclusionsKnown pairParsers bareWorld pairServices
        (parsersDocument [excludingComposite "TextParser"]) ∧
      ¬ ExclusionsKnown pairParsers bareWorld pairServices
        (parsersDocument [excludingComposite "Nowhere"]) ∧
      ((∃ problem cause, (loadOverall pairParsers bareWorld pairServices
          (parsersDocument [excludingComposite "Nowhere"])).result
            = .error (.configuration problem cause)) ∨
        ∃ f, FamilyFault pairParsers bareWorld pairServices
            (parsersDocument [excludingComposite "Nowhere"]) f ∧
          (loadOverall pairParsers bareWorld pairServices
            (parsersDocument [excludingComposite "Nowhere"])).result = .error f) := by
  have hload : ∃ x, (loadOverall pairParsers bareWorld pairServices
      (parsersDocument [excludingComposite "TextParser"])).result = .ok x := ⟨_, rfl⟩
  have hunknown : ¬ ExclusionsKnown pairParsers bareWorld pairServices
      (parsersDocument [excludingComposite "Nowhere"]) := by
    intro h
    have htop : TopLevel pairParsers (parsersDocument [excludingComposite "Nowhere"])
        (excludingComposite "Nowhere") :=
      topLevel_parsersDocument (List.mem_singleton_self _) rfl
    exact not_namesClass_nowhere
      (h _ _ _ htop (namesClass_excludingComposite _) rfl (below_excludingComposite _).2 rfl)
  obtain ⟨x, hx⟩ := hload
  refine ⟨⟨x, hx⟩, ?_, hunknown, ?_⟩
  · exact (exclusions_known bareWorld .empty pairServices _).2.1 x hx
  · exact (exclusions_known bareWorld .empty pairServices _).2.2 hunknown

/-- **An exclusion that nobody reads.**  Below a leaf the name of an excluded class is not looked
    up, so the document is loaded although there is no class of that name. -/
theorem exclusion_below_leaf_unread :
    (∃ x, (loadOverall pairParsers bareWorld pairServices
        (parsersDocument [excludingLeaf "Nowhere"])).result = .ok x) ∧
      TopLevel pairParsers (parsersDocument [excludingLeaf "Nowhere"]) (excludingLeaf "Nowhere") ∧
      Xml.Below (parserExclusion "Nowhere") (excludingLeaf "Nowhere") ∧
      (parserExclusion "Nowhere").tag = pairParsers.excludeTag ∧
      ¬ ∃ j, NamesClass bareWorld pairServices .parsers (parserExclusion "Nowhere") j :=
  ⟨⟨_, rfl⟩, topLevel_parsersDocument (List.mem_singleton_self _) rfl,
    (below_excludingComposite "Nowhere").1, rfl, not_namesClass_nowhere⟩

end MediaGraph.Config
