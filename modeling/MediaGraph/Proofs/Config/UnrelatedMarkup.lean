import Mathlib.Logic.Relation
import MediaGraph.Config.Assembly
import MediaGraph.Proofs.Config.Items
import MediaGraph.Proofs.Xml.Insertion

namespace MediaGraph.Config

/-!
# Markup that loading does not read

Loading goes by the elements of ten names.  It looks for them at any depth or directly below an
element, and reads attributes and whole texts.  Elements of other names without text can therefore
be put in and taken out anywhere, without any effect on what comes of a document or on what is
reported.

* `readNames` — the names of the elements that loading reads.
* `Capability.Insensitive` — what a capability reads of an element is the same for alike elements.
* `loadNodes_inserted`, `loadItem_alike` — the items of alike elements are loaded alike.
* `load_unrelated_markup` — the outcome of a document does not depend on other markup.
-/

open Xml

/-- The names of the elements that loading reads. -/
def readNames : List String :=
  ["mimeTypeRepository", "detectors", "detector", "detector-exclude", "parsers", "parser",
   "parser-exclude", "translator", "mime", "mime-exclude"]

theorem star_not_mem_readNames : "*" ∉ readNames := by decide

variable {ι : Type} {c : Capability ι} {w : World} {services : ServiceTable}
  {e e' root root' : Xml.Element} {es es' : List Xml.Element} {tag : String}

section Alike

variable (h : e.Alike readNames e') (htag : tag ∈ readNames)

include h htag

theorem descendants_alike : AllAlike readNames (e.descendants tag) (e'.descendants tag) :=
  h.descendants star_not_mem_readNames htag

theorem children_alike : AllAlike readNames (e.children tag) (e'.children tag) :=
  h.children star_not_mem_readNames htag

theorem childTexts_alike : e.childTexts tag = e'.childTexts tag :=
  h.childTexts star_not_mem_readNames htag

end Alike

/-! ### Capabilities -/

/-- Whether a capability is one of detectors or parsers, and reads the same settings from alike
    elements. -/
structure Capability.Insensitive (c : Capability ι) : Prop where
  composed : c.family ≠ .translators
  decorate : ∀ built {e e' : Xml.Element}, e.Alike readNames e' →
    c.decorate built e = c.decorate built e'

theorem Capability.insensitive_detectors (w : World) (repository : Repository)
    (services : ServiceTable) : (Capability.detectors w repository services).Insensitive where
  composed := nofun
  decorate _ _ _ _ := rfl

/-- The types that the settings of a parser write are those of the texts directly below it. -/
theorem Capability.insensitive_parsers (w : World) (repository : Repository)
    (services : ServiceTable) : (Capability.parsers w repository services).Insensitive where
  composed := nofun
  decorate built e e' h := by
    show filterTypes built e = filterTypes built e'
    have hmime : "mime" ∈ readNames := by decide
    have hexclude : "mime-exclude" ∈ readNames := by decide
    unfold filterTypes readTypes
    rw [childTexts_alike h hmime, childTexts_alike h hexclude]

namespace Capability.Insensitive

variable (hc : c.Insensitive)

include hc

/-- The names of the elements of such a capability are among those that loading reads. -/
theorem tags_mem_readNames :
    c.containerTag ∈ readNames ∧ c.itemTag ∈ readNames ∧ c.excludeTag ∈ readNames := by
  have hcomposed := hc.composed
  unfold excludeTag itemTag containerTag
  cases hfamily : c.family with
  | translators => exact absurd hfamily hcomposed
  | _ => decide

theorem container : c.containerTag ∈ readNames := hc.tags_mem_readNames.1

theorem item : c.itemTag ∈ readNames := hc.tags_mem_readNames.2.1

theorem exclude : c.excludeTag ∈ readNames := hc.tags_mem_readNames.2.2

end Capability.Insensitive

/-! ### Checks and exclusions -/

theorem checkItems_alike (hs : AllAlike readNames es es') :
    checkItems c w services es = checkItems c w services es' := by
  induction hs with
  | nil => rfl
  | cons h _ ih =>
    rw [checkItems, checkItems, ih, checkItem, checkItem, h.className]

theorem exclusions_alike {family : Family} (hs : AllAlike readNames es es') :
    exclusions w services family es = exclusions w services family es' := by
  induction hs with
  | nil => rfl
  | cons h _ ih => rw [exclusions, exclusions, ih, h.className]

/-! ### Items -/

section Items

variable (hc : c.Insensitive)

include hc

/-- Given what comes of the items below, alike items are loaded alike. -/
theorem loadWith_alike (below : Traced (List ι)) (h : e.Alike readNames e') :
    loadWith c w services below e = loadWith c w services below e' := by
  have hchecks : checkItems c w services (e.descendants c.itemTag)
      = checkItems c w services (e'.descendants c.itemTag) :=
    checkItems_alike (descendants_alike h hc.item)
  have hexclusions : exclusions w services c.family (e.descendants c.excludeTag)
      = exclusions w services c.family (e'.descendants c.excludeTag) :=
    exclusions_alike (descendants_alike h hc.exclude)
  unfold loadWith
  simp only [h.className, hchecks, hexclusions, hc.decorate _ h]

/-- A piece of content without the names that are read holds no items. -/
theorem loadNode_of_without {n : Node} (hn : n.Without readNames) :
    loadNode c w services n = pure [] := by
  rw [loadNode_eq_loadItems, hn.filter_elements star_not_mem_readNames hc.item, loadItems]

/-- **The items in some content** are loaded alike when unrelated markup is put in. -/
theorem loadNodes_inserted {ns ns' : List Node} (h : Inserted readNames ns ns') :
    loadNodes c w services ns = loadNodes c w services ns' := by
  induction h with
  | front hn =>
    rw [loadNodes, loadNode_of_without hc hn]
    simp only [pure_bind, List.nil_append, bind_pure]
  | amid hn =>
    simp only [loadNodes, loadNode, loadNode_of_without hc hn, pure_bind, List.nil_append,
      bind_pure]
  | @within tag attributes content content' ns hcontent ih =>
    have hself : Element.Alike readNames ⟨tag, attributes, content⟩ ⟨tag, attributes, content'⟩ :=
      ⟨rfl, rfl, .inr hcontent⟩
    simp only [loadNodes, loadNode, ih, loadWith_alike hc _ hself]
  | later _ ih => rw [loadNodes, loadNodes, ih]

theorem loadItem_alike (h : e.Alike readNames e') :
    loadItem c w services e = loadItem c w services e' := by
  have hbelow : loadNodes c w services e.content = loadNodes c w services e'.content := by
    rcases h.content with heq | hinserted
    · rw [heq]
    · exact loadNodes_inserted hc hinserted
  rw [loadItem, loadItem, hbelow, loadWith_alike hc _ h]

theorem loadItems_alike (hs : AllAlike readNames es es') :
    loadItems c w services es = loadItems c w services es' := by
  induction hs with
  | nil => rfl
  | cons h _ ih => rw [loadItems, loadItems, ih, loadItem_alike hc h]

/-! ### The parts of a document -/

/-- The items at the top are alike, or there are too many containers in both documents. -/
theorem topLevelItems_alike (h : root.Alike readNames root') :
    (∃ f, topLevelItems c root = .error f ∧ topLevelItems c root' = .error f) ∨
      ∃ items items', topLevelItems c root = .ok items ∧ topLevelItems c root' = .ok items' ∧
        AllAlike readNames items items' := by
  have hcontainers := descendants_alike h hc.container
  unfold topLevelItems
  generalize root.descendants c.containerTag = containers at hcontainers
  generalize root'.descendants c.containerTag = containers' at hcontainers
  rcases hcontainers with - | ⟨hfirst, - | ⟨-, -⟩⟩
  · exact .inr ⟨[], [], rfl, rfl, .nil⟩
  · exact .inr ⟨_, _, rfl, rfl, children_alike hfirst hc.item⟩
  · exact .inl ⟨_, rfl, rfl⟩

/-- **The instance of a family** is loaded alike. -/
theorem loadOverall_alike (h : root.Alike readNames root') :
    loadOverall c w services root = loadOverall c w services root' := by
  unfold loadOverall
  rcases topLevelItems_alike hc h with ⟨f, herror, herror'⟩ | ⟨items, items', hok, hok', hitems⟩
  · rw [herror, herror']
  · have hpure : ∀ items : List Xml.Element, Traced.ofExcept (.ok items) = pure items :=
      fun _ => rfl
    rw [hok, hok', hpure, hpure, pure_bind, pure_bind]
    cases hitems with
    | nil => rfl
    | cons hfirst hrest =>
      dsimp only
      rw [loadItems_alike hc (.cons hfirst hrest)]

end Items

theorem loadTranslatorElements_alike (hs : AllAlike readNames es es') :
    loadTranslatorElements w services es = loadTranslatorElements w services es' := by
  induction hs with
  | nil => rfl
  | cons h _ ih =>
    rw [loadTranslatorElements, loadTranslatorElements, ih, loadTranslatorElement,
      loadTranslatorElement, h.className]

theorem loadTranslator_alike (h : root.Alike readNames root') :
    loadTranslator w services root = loadTranslator w services root' := by
  have htranslators : AllAlike readNames (root.children Family.translators.label)
      (root'.children Family.translators.label) := children_alike h (by decide)
  rw [loadTranslator, loadTranslator, loadTranslatorElements_alike htranslators]

theorem loadRepository_alike {reader : TableReader} {files : FileTree Bytes} {base : Option Path}
    (h : root.Alike readNames root') :
    loadRepository reader files root base = loadRepository reader files root' base := by
  have hrepositories : AllAlike readNames (root.children "mimeTypeRepository")
      (root'.children "mimeTypeRepository") := children_alike h (by decide)
  unfold loadRepository Element.firstChild?
  generalize root.children "mimeTypeRepository" = found at hrepositories
  generalize root'.children "mimeTypeRepository" = found' at hrepositories
  cases hrepositories with
  | nil => rfl
  | cons hfirst _ =>
    dsimp only [List.head?_cons]
    rw [hfirst.attribute?]

/-! ### Whole documents -/

theorem load_alike {files : FileTree Bytes} {base : Option Path} {source : String}
    (h : root.Alike readNames root') :
    load w files services root base source = load w files services root' base source := by
  have hdetectors : ∀ repository, loadOverall (Capability.detectors w repository services) w
      services root = loadOverall (Capability.detectors w repository services) w services root' :=
    fun repository => loadOverall_alike (Capability.insensitive_detectors w repository services) h
  have hparsers : ∀ repository, loadOverall (Capability.parsers w repository services) w
      services root = loadOverall (Capability.parsers w repository services) w services root' :=
    fun repository => loadOverall_alike (Capability.insensitive_parsers w repository services) h
  unfold load
  simp only [loadRepository_alike h, hdetectors, hparsers, loadTranslator_alike h]

/-- **Unrelated markup never matters.**  However often content without text and without elements of
    the names that are read is put in or taken out below the root of a document, between elements,
    into texts, and at any depth: the document gives the same configuration or the same failure, and
    the same is reported. -/
theorem load_unrelated_markup (w : World) (files : FileTree Bytes) (services : ServiceTable)
    (base : Option Path) (source : String)
    (h : Relation.EqvGen (Xml.Element.Alike readNames) root root') :
    load w files services root base source = load w files services root' base source := by
  induction h with
  | rel _ _ h => exact load_alike h
  | refl _ => rfl
  | symm _ _ _ ih => exact ih.symm
  | trans _ _ _ _ _ ih ih' => exact ih.trans ih'

/-- A document with a parser for one type. -/
def plainDocument : Xml.Element :=
  ⟨"properties", [], [.element "parsers" [] [.element "parser" [("class", "TextParser")]
    [.element "mime" [] [.text "text/plain"]]]]⟩

/-- The same document with a note in the middle of the type. -/
def notedDocument : Xml.Element :=
  ⟨"properties", [], [.element "parsers" [] [.element "parser" [("class", "TextParser")]
    [.element "mime" []
      [.text "text/", .element "note" [] [.element "todo" [("class", "Nowhere")] []],
       .text "plain"]]]]⟩

/-- The note makes no difference, although it stands in the text of the type. -/
theorem load_unrelated_markup_noted :
    Relation.EqvGen (Xml.Element.Alike readNames) notedDocument plainDocument ∧
      load (.ofModules .own (Packaged.modules .listed .empty)) (.ofFiles ⟨.top, ["work"]⟩ [])
          Packaged.services notedDocument none "<string>"
        = load (.ofModules .own (Packaged.modules .listed .empty)) (.ofFiles ⟨.top, ["work"]⟩ [])
          Packaged.services plainDocument none "<string>" := by
  have hnote : Node.Without readNames
      (.element "note" [] [.element "todo" [("class", "Nowhere")] []]) := by
    refine ⟨rfl, ?_⟩
    simp only [Node.elements, elementsIn, List.append_nil]
    decide
  -- The text of the type is the one text that is split where the note goes in.
  have hmime : Inserted readNames [.text "text/plain"]
      [.text "text/", .element "note" [] [.element "todo" [("class", "Nowhere")] []],
       .text "plain"] := by
    have hsplit : "text/plain" = "text/" ++ "plain" := by decide
    rw [hsplit]
    exact .amid hnote
  have halike : Xml.Element.Alike readNames plainDocument notedDocument :=
    ⟨rfl, rfl, .inr (.within (.within (.within hmime)))⟩
  have hrelated : Relation.EqvGen (Xml.Element.Alike readNames) notedDocument plainDocument :=
    .symm _ _ (.rel _ _ halike)
  exact ⟨hrelated, load_unrelated_markup _ _ _ _ _ hrelated⟩

end MediaGraph.Config
