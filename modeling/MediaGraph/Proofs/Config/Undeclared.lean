import MediaGraph.Config.Assembly
import MediaGraph.Proofs.Traced

namespace MediaGraph.Config

/-!
# Documents that declare nothing

A document may be full of markup and still declare nothing: items outside of their container or
too deep in it, translators below other elements, repositories that are not at the top.  Loading it
takes every part from its default, and gives what is built without any document.

* `DeclaresNothing` — a document that declares no part of a configuration.
* `result_loadOverall_of_undeclared`, `result_loadTranslator_of_undeclared` — the parts that it
  gives.
* `load_undeclared` — the configuration that it gives is the one without any document.
-/

/-- Whether a document declares no items of a family: it has at most one container for them, and no
    item stands directly below that. -/
def NoItems (root : Xml.Element) (family : Family) : Prop :=
  (root.descendants family.plural).length ≤ 1 ∧
    ∀ container ∈ root.descendants family.plural, container.children family.label = []

/-- Whether a document declares no part of a configuration. -/
structure DeclaresNothing (root : Xml.Element) : Prop where
  repository : root.children "mimeTypeRepository" = []
  detectors : NoItems root .detectors
  parsers : NoItems root .parsers
  translator : root.children Family.translators.label = []

variable {ι : Type} {c : Capability ι} {w : World} {reader : TableReader} {files : FileTree Bytes}
  {services : ServiceTable} {root : Xml.Element} {base : Option Path} {source : String}

/-! ### The parts -/

/-- Where no items are declared, there are none at the top. -/
theorem topLevelItems_of_noItems (h : NoItems root c.family) : topLevelItems c root = .ok [] := by
  obtain ⟨hsingle, hempty⟩ := h
  unfold topLevelItems
  cases hcontainers : root.descendants c.containerTag with
  | nil => rfl
  | cons container others =>
    have hfound : root.descendants c.family.plural = container :: others := hcontainers
    rw [hfound] at hsingle hempty
    have hothers : others = [] := by
      rw [List.length_cons] at hsingle
      exact List.eq_nil_of_length_eq_zero (by omega)
    subst hothers
    show Except.ok (container.children c.family.label) = .ok []
    rw [hempty container List.mem_cons_self]

/-- **The default of a family** is what comes out where no items are declared. -/
theorem result_loadOverall_of_undeclared (h : NoItems root c.family) :
    (loadOverall c w services root).result = c.createDefault.result := by
  unfold loadOverall
  rw [topLevelItems_of_noItems h]
  rfl

/-- The packaged repository is used where none is declared. -/
theorem loadRepository_of_undeclared (h : root.children "mimeTypeRepository" = []) :
    loadRepository reader files root base = pure Repository.Packaged.repository := by
  unfold loadRepository Xml.Element.firstChild?
  rw [h]
  rfl

/-- The default translator is what comes out where none is declared. -/
theorem result_loadTranslator_of_undeclared
    (h : root.children Family.translators.label = []) :
    (loadTranslator w services root).result
      = (defaultTranslator w Translator.defaultClass services).result := by
  unfold loadTranslator
  rw [h]
  rfl

/-! ### The whole document -/

/-- **A document that declares nothing** gives the configuration that is built without any document,
    but for the name of its source, or fails as that does. -/
theorem load_undeclared (w : World) (files : FileTree Bytes) (services : ServiceTable)
    (base : Option Path) (source : String) (h : DeclaresNothing root) :
    (load w files services root base source).result
      = (MediaConfig.builtin w services).result.map
          fun config => { config with source := source } := by
  have hdetector : ∀ repository,
      (loadOverall (Capability.detectors w repository services) w services root).result
        = (defaultDetector w Detector.defaultClass repository services []).result :=
    fun _ => result_loadOverall_of_undeclared h.detectors
  have hparser : ∀ repository : Repository,
      (loadOverall (Capability.parsers w repository services) w services root).result
        = (defaultParser w Parser.defaultClass repository.registry services []).result :=
    fun _ => result_loadOverall_of_undeclared h.parsers
  have htranslator : (loadTranslator w services root).result
      = (defaultTranslator w Translator.defaultClass services).result :=
    result_loadTranslator_of_undeclared h.translator
  unfold load MediaConfig.builtin
  simp only [loadRepository_of_undeclared h.repository, pure_bind, Traced.result_bind, hdetector,
    hparser, htranslator]
  -- Both ways of assembling take the parts in one order, so the same part is the first to fail.
  cases (defaultDetector w Detector.defaultClass Repository.Packaged.repository services []).result
  case error => rfl
  cases (defaultParser w Parser.defaultClass Repository.Packaged.repository.registry services
    []).result
  case error => rfl
  cases (defaultTranslator w Translator.defaultClass services).result <;> rfl

/-- A document with a misplaced item, a translator and an item that lie too deep, and texts. -/
def strayDocument : Xml.Element :=
  ⟨"properties", [],
    [.text "nothing here", .element "parser" [("class", "Nowhere")] [.text "no container"],
     .element "notes" []
       [.element "translator" [("class", "Nowhere")] [],
        .element "detectors" []
          [.element "group" [] [.element "detector" [("class", "Nowhere")] []]]]]⟩

/-- This document declares nothing, although the names in it are unknown. -/
theorem load_undeclared_stray :
    DeclaresNothing strayDocument ∧
      (load (.ofModules .own (Packaged.modules .listed .empty)) (.ofFiles ⟨.top, ["work"]⟩ [])
          Packaged.services strayDocument none "<string>").result
        = (MediaConfig.builtin (.ofModules .own (Packaged.modules .listed .empty))
            Packaged.services).result.map fun config => { config with source := "<string>" } := by
  have hdetectors : strayDocument.descendants Family.detectors.plural = [⟨"detectors", [],
      [.element "group" [] [.element "detector" [("class", "Nowhere")] []]]⟩] := rfl
  have hparsers : strayDocument.descendants Family.parsers.plural = [] := rfl
  have hnothing : DeclaresNothing strayDocument := by
    refine ⟨rfl, ⟨?_, ?_⟩, ⟨?_, ?_⟩, rfl⟩
    · rw [hdetectors]
      exact Nat.le_refl 1
    · rw [hdetectors, List.forall_mem_singleton]
      rfl
    · rw [hparsers]
      exact Nat.zero_le 1
    · rw [hparsers]
      exact nofun
  exact ⟨hnothing, load_undeclared _ _ _ _ _ hnothing⟩

end MediaGraph.Config
