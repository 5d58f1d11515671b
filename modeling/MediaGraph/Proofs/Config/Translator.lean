import MediaGraph.Proofs.Config.Containment
import MediaGraph.Proofs.Config.Loaded
import MediaGraph.Proofs.Service.Discovery

namespace MediaGraph

/-!
# The translator of a document

All translators directly below the root are read, although only the first one is used: each of the
others can make the document fail.  A translator has one of four defects or gives an instance, and
nothing else in the document is looked at.

* `ServiceTable.Importable` — the targets of a family are imported or make their entry unavailable.
* `Config.resolveClass_eq_error_iff` — how looking a class up fails then.
* `Config.TranslatorDefect`, `Config.GivesTranslator` — what comes of one translator.
* `Config.loadTranslator_declared` — what comes of all translators of a document.
-/

/-- The element without its content. -/
def Xml.Element.bare (e : Xml.Element) : Xml.Element := ⟨e.tag, e.attributes, []⟩

variable {f : Failure} {modules : ModuleTable} {family : Family} {w : World}
  {services : ServiceTable} {root root' e : Xml.Element} {t : Translator} {name : String}

/-! ### Targets that can be imported -/

/-- Whether every import of a target of a family succeeds, or fails in one of the ways that make an
    entry unavailable. -/
def ServiceTable.Importable (services : ServiceTable) (modules : ModuleTable) (family : Family) :
    Prop :=
  ∀ entry ∈ services.entries family, ∀ f, ¬ entry.Breaks modules f

/-- An entry whose target can be imported only fails to resolve by being unavailable. -/
theorem Entry.isUnavailable_of_resolve {entry : Entry} (h : ∀ f, ¬ entry.Breaks modules f)
    (hresolve : entry.resolve modules family = .error f) : f.isUnavailable = true := by
  by_contra hf
  exact h f ((resolve_eq_error family (Bool.eq_false_iff.mpr hf)).mp hresolve)

namespace Config

/-- Where all targets can be imported, looking a class up fails as a problem of the configuration:
    the name leads to no entry, or the entry stands for no class of the family. -/
theorem resolveClass_eq_error_iff (hs : services.Importable w.modules family) :
    (resolveClass w services family name).result = .error f ↔
      (∃ g, services.find family name = .error g ∧
        f = .configuration (.classUnknown family.label name) (some g)) ∨
      ∃ entry g, services.find family name = .ok entry ∧
        entry.resolve w.modules family = .error g ∧
        f = .configuration (.classUnusable family.label name) (some g) := by
  unfold resolveClass ServiceTable.classFor
  rw [Traced.result_mapFailure, mapError_eq_error]
  simp only [result_bind_eq_error, Traced.result_ofExcept, Traced.result_report_bind,
    Traced.result_pure, reduceCtorEq, and_false, exists_false, or_false]
  have hunavailable : ∀ {entry g}, services.find family name = .ok entry →
      entry.resolve w.modules family = .error g → g.isUnavailable = true := fun hfind =>
    Entry.isUnavailable_of_resolve (hs _ (ServiceTable.mem_entries_of_find hfind))
  constructor
  · rintro ⟨g, hfind | ⟨entry, hfind, hresolve⟩, rfl⟩
    · obtain ⟨names, rfl⟩ := ServiceTable.exists_unknown_of_find hfind
      exact .inl ⟨_, hfind, rfl⟩
    · have hg := hunavailable hfind hresolve
      cases g with
      | unavailableService => exact .inr ⟨entry, _, hfind, hresolve, rfl⟩
      | _ => cases hg
  · rintro (⟨g, hfind, rfl⟩ | ⟨entry, g, hfind, hresolve, rfl⟩)
    · obtain ⟨names, rfl⟩ := ServiceTable.exists_unknown_of_find hfind
      exact ⟨_, .inl hfind, rfl⟩
    · have hg := hunavailable hfind hresolve
      cases g with
      | unavailableService => exact ⟨_, .inr ⟨entry, hfind, hresolve⟩, rfl⟩
      | _ => cases hg

/-! ### One translator -/

/-- Whether an element names a class as `name`: its class attribute is not blank, and this is what
    it says between blanks. -/
def NamedAs (e : Xml.Element) (name : String) : Prop :=
  ∃ value, e.attribute? "class" = some value ∧ Text.trim value = name ∧ name ≠ ""

/-- The four defects of a translator, each with its problem and the failure behind that. -/
inductive TranslatorDefect (w : World) (services : ServiceTable) (e : Xml.Element) :
    ConfigProblem → Option Failure → Prop where
  | unnamed (h : ∀ value, e.attribute? "class" = some value → Text.trim value = "") :
      TranslatorDefect w services e (.classMissing e.tag) none
  | unknown {name : String} {f : Failure} (named : NamedAs e name)
      (h : services.find .translators name = .error f) :
      TranslatorDefect w services e (.classUnknown "translator" name) (some f)
  | unusable {name : String} {entry : Entry} {f : Failure} (named : NamedAs e name)
      (known : services.find .translators name = .ok entry)
      (h : entry.resolve w.modules .translators = .error f) :
      TranslatorDefect w services e (.classUnusable "translator" name) (some f)
  | unbuildable {name : String} {i : Implementation} {f : Failure} (named : NamedAs e name)
      (provided : services.Provides w.modules .translators name i)
      (h : i.newTranslator.result = .error f) :
      TranslatorDefect w services e (.classUnbuildable "translator" name) (some f)

/-- Whether an element gives a translator: the instance of the available class that it names. -/
def GivesTranslator (w : World) (services : ServiceTable) (e : Xml.Element) (t : Translator) :
    Prop :=
  ∃ i, NamesClass w services .translators e i ∧ i.newTranslator.result = .ok t

theorem loadTranslatorElement_eq_ok_iff :
    (loadTranslatorElement w services e).result = .ok t ↔ GivesTranslator w services e t := by
  unfold loadTranslatorElement GivesTranslator
  simp only [namesClass_iff, result_bind_eq_ok, Traced.result_ofExcept, Traced.result_mapFailure,
    mapError_eq_ok]
  constructor
  · rintro ⟨name, hname, i, hclass, hbuild⟩
    exact ⟨i, ⟨name, hname, hclass⟩, hbuild⟩
  · rintro ⟨i, ⟨name, hname, hclass⟩, hbuild⟩
    exact ⟨name, hname, i, hclass, hbuild⟩

/-- A translator fails by its defects alone. -/
theorem loadTranslatorElement_eq_error_iff (hs : services.Importable w.modules .translators) :
    (loadTranslatorElement w services e).result = .error f ↔
      ∃ problem cause, f = .configuration problem cause ∧
        TranslatorDefect w services e problem cause := by
  unfold loadTranslatorElement
  -- The name is read, the class looked up and the instance built, each with failures of its own.
  simp only [result_bind_eq_error, Traced.result_ofExcept, Xml.className_eq_error_iff,
    Xml.className_eq_ok_iff, resolveClass_eq_error_iff hs, resolveClass_eq_ok_iff,
    Traced.result_mapFailure, mapError_eq_error]
  constructor
  · rintro (⟨hunnamed, rfl⟩ | ⟨name, hname, (⟨g, hfind, rfl⟩ | ⟨entry, g, hfind, hresolve, rfl⟩) |
      ⟨i, hclass, g, hbuild, rfl⟩⟩)
    · exact ⟨_, _, rfl, .unnamed hunnamed⟩
    · exact ⟨_, _, rfl, .unknown hname hfind⟩
    · exact ⟨_, _, rfl, .unusable hname hfind hresolve⟩
    · exact ⟨_, _, rfl, .unbuildable hname hclass hbuild⟩
  · rintro ⟨_, _, rfl, hunnamed | ⟨hname, hfind⟩ | ⟨hname, hfind, hresolve⟩ |
      ⟨hname, hclass, hbuild⟩⟩
    · exact .inl ⟨hunnamed, rfl⟩
    · exact .inr ⟨_, hname, .inl (.inl ⟨_, hfind, rfl⟩)⟩
    · exact .inr ⟨_, hname, .inl (.inr ⟨_, _, hfind, hresolve, rfl⟩)⟩
    · exact .inr ⟨_, hname, .inr ⟨_, hclass, _, hbuild, rfl⟩⟩

/-- A translator gives an instance where it has none of the defects, and there alone. -/
theorem gives_iff_no_defect (hs : services.Importable w.modules .translators) (e : Xml.Element) :
    (∃ t, GivesTranslator w services e t) ↔
      ∀ problem cause, ¬ TranslatorDefect w services e problem cause := by
  simp only [← loadTranslatorElement_eq_ok_iff]
  constructor
  · rintro ⟨t, ht⟩ problem cause hdefect
    cases ht.symm.trans ((loadTranslatorElement_eq_error_iff hs).mpr ⟨_, _, rfl, hdefect⟩)
  · intro h
    refine exists_ok_of_ne_error fun f hf => ?_
    obtain ⟨problem, cause, -, hdefect⟩ := (loadTranslatorElement_eq_error_iff hs).mp hf
    exact h problem cause hdefect

/-! ### All translators -/

/-- The default translator: a chooser among the instances of the entries that take part by
    themselves and can be built. -/
def discoveredTranslator (w : World) (services : ServiceTable) : Translator :=
  .chooser Translator.defaultClass ((services.entries .translators).filterMap
    (Entry.built? w.modules .translators [] Implementation.newTranslator))

/-- Where all targets can be imported, there is a default translator. -/
theorem result_defaultTranslator (hs : services.Importable w.modules .translators) :
    (defaultTranslator w Translator.defaultClass services).result
      = .ok (discoveredTranslator w services) := by
  have hfound : (services.discover w.modules .translators [] Implementation.newTranslator).result
      = .ok ((services.entries .translators).filterMap
          (Entry.built? w.modules .translators [] Implementation.newTranslator)) :=
    discoverFrom_of_undisturbed fun entry hentry f hbreaks => hs entry hentry f hbreaks.2.1
  unfold defaultTranslator
  rw [Traced.result_bind, hfound]
  rfl

/-- The first translator decides, once all of them are loaded. -/
theorem result_loadTranslator :
    (loadTranslator w services root).result
      = (loadTranslatorElements w services (root.children Family.translators.label)).result >>= fun
          | [] => (defaultTranslator w Translator.defaultClass services).result
          | first :: _ => .ok first := by
  unfold loadTranslator
  rw [Traced.result_bind]
  refine congrArg _ (funext fun loaded => ?_)
  -- Further translators are only reported.
  rcases loaded with _ | ⟨first, _ | ⟨second, others⟩⟩ <;> rfl

/-- Translators are loaded one by one, in their order. -/
theorem loadTranslatorElements_eq_ok_iff {es : List Xml.Element} {ts : List Translator} :
    (loadTranslatorElements w services es).result = .ok ts ↔
      List.Forall₂ (GivesTranslator w services) es ts := by
  have hcons : ∀ a as, loadTranslatorElements w services (a :: as) = do
      let first ← loadTranslatorElement w services a
      return id first :: (← loadTranslatorElements w services as) :=
    loadTranslatorElements_cons w services
  rw [loop_eq_ok_iff rfl hcons]
  simp only [id_eq, exists_eq_right, loadTranslatorElement_eq_ok_iff]

/-- Translators are loaded where each of them can be. -/
theorem exists_translators_iff {es : List Xml.Element} :
    (∃ ts, List.Forall₂ (GivesTranslator w services) es ts) ↔
      ∀ e ∈ es, ∃ t, GivesTranslator w services e t := by
  simp only [← loadTranslatorElements_eq_ok_iff, ← loadTranslatorElement_eq_ok_iff]
  exact loop_succeeds ⟨_, rfl⟩ (loadTranslatorElements_cons w services) es

/-- **Translators fail** as the first of them does that has a defect, whatever stands behind it. -/
theorem loadTranslatorElements_eq_error_iff (hs : services.Importable w.modules .translators)
    {es : List Xml.Element} :
    (loadTranslatorElements w services es).result = .error f ↔
      ∃ problem cause, f = .configuration problem cause ∧
        AtFirst (fun e => ∃ t, GivesTranslator w services e t)
          (fun e => TranslatorDefect w services e problem cause) es := by
  have hnil : (loadTranslatorElements w services []).result ≠ .error f := by
    intro h
    cases h
  rw [loop_eq_error_iff hnil (loadTranslatorElements_cons w services)]
  simp only [loadTranslatorElement_eq_ok_iff, loadTranslatorElement_eq_error_iff hs, atFirst_iff]
  constructor
  · rintro ⟨before, e, after, rfl, hbefore, problem, cause, rfl, hdefect⟩
    exact ⟨problem, cause, rfl, before, e, after, rfl, hbefore, hdefect⟩
  · rintro ⟨problem, cause, rfl, before, e, after, rfl, hbefore, hdefect⟩
    exact ⟨before, e, after, rfl, hbefore, problem, cause, rfl, hdefect⟩

/-- Nothing below a translator is looked at. -/
theorem loadTranslatorElements_bare (es : List Xml.Element) :
    loadTranslatorElements w services (es.map Xml.Element.bare)
      = loadTranslatorElements w services es := by
  induction es with
  | nil => rfl
  | cons e es ih =>
    have hfirst : loadTranslatorElement w services e.bare = loadTranslatorElement w services e :=
      rfl
    rw [List.map_cons, loadTranslatorElements, loadTranslatorElements, hfirst, ih]

/-! ### The document -/

/-- A document fails by its translators alone. -/
theorem loadTranslator_eq_error_iff (hs : services.Importable w.modules .translators) :
    (loadTranslator w services root).result = .error f ↔
      (loadTranslatorElements w services (root.children Family.translators.label)).result
        = .error f := by
  rw [result_loadTranslator, bind_eq_error, or_iff_left]
  -- Neither taking the first translator nor taking the default one can fail.
  rintro ⟨_ | ⟨first, rest⟩, -, h⟩
  · rw [result_defaultTranslator hs] at h
    cases h
  · cases h

/-- A document gives the first of its translators once all of them are loaded, and the default one
    where there is none. -/
theorem loadTranslator_eq_ok_iff (hs : services.Importable w.modules .translators) :
    (loadTranslator w services root).result = .ok t ↔
      (∀ e ∈ root.children Family.translators.label, ∃ u, GivesTranslator w services e u) ∧
        (root.children Family.translators.label = [] ∧ t = discoveredTranslator w services ∨
          ∃ first rest, root.children Family.translators.label = first :: rest ∧
            GivesTranslator w services first t) := by
  rw [result_loadTranslator, bind_eq_ok]
  simp only [loadTranslatorElements_eq_ok_iff]
  generalize root.children Family.translators.label = es
  constructor
  · rintro ⟨ts, hts, h⟩
    refine ⟨exists_translators_iff.mp ⟨ts, hts⟩, ?_⟩
    cases hts with
    | nil =>
      rw [result_defaultTranslator hs, Except.ok.injEq] at h
      exact .inl ⟨rfl, h.symm⟩
    | cons hfirst _ =>
      cases h
      exact .inr ⟨_, _, rfl, hfirst⟩
  · rintro ⟨hall, ⟨rfl, rfl⟩ | ⟨first, rest, rfl, hfirst⟩⟩
    · exact ⟨[], .nil, result_defaultTranslator hs⟩
    · obtain ⟨ts, hts⟩ := exists_translators_iff.mpr (List.forall_mem_cons.mp hall).2
      exact ⟨t :: ts, .cons hfirst hts, rfl⟩

/-- A table that knows one translator, by its class. -/
def soleTranslator : ServiceTable :=
  { ServiceTable.empty with translators :=
    [⟨"EmptyTranslator", .implementation Packaged.emptyTranslator, false,
      ServiceTable.registerOrigin⟩] }

/-- A document with a known translator, an unknown one behind it, and one that lies too deep. -/
def secondUnknown : Xml.Element :=
  ⟨"properties", [],
    [.element "notes" [] [.element "translator" [("class", "Nowhere")] []],
     .element "translator" [("class", " EmptyTranslator ")] [],
     .element "translator" [("class", "Missing")] []]⟩

end Config

end MediaGraph
