import MediaGraph.Config.Loading
import MediaGraph.Proofs.Traced

namespace MediaGraph

/-!
# Failures of class names

A target that cannot be imported makes its entry unavailable, but only for some kinds of failures;
any other failure of an import is handed on as it is.

* `Entry.Breaks` — importing the target of an entry fails in another way.
* `ServiceTable.Provides`, `resolveClass_eq_ok_iff` — the class that looking a name up gives.
* `ClassFault`, `escapes_resolveClass` — what escapes from looking a class up.
* `Entry.built?`, `result_discoverFrom_cons` — what an entry adds to a discovery.
* `DiscoveryFault`, `discoverFrom_eq_error` — how a discovery fails.
-/

variable {f : Failure} {modules : ModuleTable} {family : Family}

/-- Whether a failure says that an entry is unavailable. -/
def Failure.isUnavailable : Failure → Bool
  | .unavailableService .. => true
  | _ => false

/-- Whether a failure says that a name is not declared, or its entry unavailable. -/
def Failure.isOfService : Failure → Bool
  | .unknownService .. => true
  | .unavailableService .. => true
  | _ => false

/-- Whether importing the target of an entry fails with `f`, which is none of the kinds that make an
    entry unavailable. -/
def Entry.Breaks (modules : ModuleTable) (e : Entry) (f : Failure) : Prop :=
  ∃ text, e.target = .path text ∧ modules.resolve text = .error f ∧ f.isUnresolved = false

/-- An entry fails to resolve because it is unavailable, or with the failure of its import. -/
theorem Entry.resolve_eq_error (family : Family) {e : Entry} (hf : f.isUnavailable = false) :
    e.resolve modules family = .error f ↔ e.Breaks modules f := by
  -- A class that belongs to another family makes the entry unavailable.
  have hcheck : ∀ i : Implementation, (if i.isOf family then .ok i
      else .error (.unavailableService family e.name .notImplementation none)) ≠
        (.error f : Except Failure Implementation) := by
    intro i h
    split at h
    · cases h
    · cases h
      cases hf
  unfold Entry.resolve Entry.Breaks
  cases htarget : e.target with
  | implementation i =>
    simp only [reduceCtorEq, false_and, exists_false, iff_false]
    exact hcheck i
  | path text =>
    simp only [Target.path.injEq, exists_eq_left']
    cases hr : modules.resolve text with
    | ok member =>
      simp only [reduceCtorEq, false_and, iff_false]
      cases member with
      | implementation i => exact hcheck i
      | _ =>
        intro h
        cases h
        cases hf
    | error g =>
      -- The kinds of failure that make an entry unavailable are the ones that are replaced.
      dsimp only
      split
      · rename_i hg
        constructor
        · intro h
          cases h
          cases hf
        · rintro ⟨h, hg'⟩
          cases h
          rw [hg] at hg'
          cases hg'
      · rename_i hg
        constructor
        · intro h
          cases h
          exact ⟨rfl, by simpa using hg⟩
        · rintro ⟨h, -⟩
          cases h
          rfl

/-! ### Looking a class up -/

/-- A name for which looking up the class fails with `f`, which is not made a problem of the
    configuration: the entry is found, and its target breaks. -/
def ClassFault (modules : ModuleTable) (services : ServiceTable) (family : Family) (name : String)
    (f : Failure) : Prop :=
  ∃ e, services.find family name = .ok e ∧ e.Breaks modules f ∧ f.isConfiguration = false ∧
    f.isOfService = false

/-- A lookup that leads to no entry tells that the name is unknown. -/
theorem ServiceTable.exists_unknown_of_find {t : ServiceTable} {name : String}
    (h : t.find family name = .error f) : ∃ names, f = .unknownService family name names := by
  unfold ServiceTable.find at h
  split at h
  · cases h
  · split at h
    · cases h
    · cases h
      exact ⟨_, rfl⟩

/-- A lookup is found out to be for an unknown name, or leads to an entry. -/
theorem ServiceTable.find_eq_error {t : ServiceTable} {name : String}
    (h : t.find family name = .error f) : f.isOfService = true := by
  obtain ⟨names, rfl⟩ := exists_unknown_of_find h
  rfl

/-- What a lookup leads to is an entry of the table. -/
theorem ServiceTable.mem_entries_of_find {t : ServiceTable} {name : String} {e : Entry}
    (h : t.find family name = .ok e) : e ∈ t.entries family := by
  unfold ServiceTable.find at h
  split at h
  · rename_i hdeclared
    cases h
    exact List.mem_of_find?_eq_some hdeclared
  · split at h
    · rename_i hshort
      cases h
      exact (List.mem_filter.mp (hshort ▸ List.mem_singleton_self e)).1
    · cases h

/-! ### Available classes -/

/-- Whether an entry stands for a class: it is given the class, or a target that leads to it. -/
def Entry.StandsFor (modules : ModuleTable) (e : Entry) (i : Implementation) : Prop :=
  e.target = .implementation i ∨
    ∃ text, e.target = .path text ∧ modules.resolve text = .ok (.implementation i)

/-- An entry resolves to the class for which it stands, if that is one of the family. -/
theorem Entry.resolve_eq_ok_iff {e : Entry} {i : Implementation} :
    e.resolve modules family = .ok i ↔ e.StandsFor modules i ∧ i.isOf family = true := by
  -- Whichever way an entry comes by a class, the class is looked at before it is handed on.
  have hcheck : ∀ j : Implementation, (if j.isOf family then .ok j
      else .error (.unavailableService family e.name .notImplementation none)) =
        (.ok i : Except Failure Implementation) ↔ j = i ∧ i.isOf family = true := by
    intro j
    split
    · rename_i hj
      rw [Except.ok.injEq]
      constructor
      · rintro rfl
        exact ⟨rfl, hj⟩
      · exact And.left
    · rename_i hj
      simp only [reduceCtorEq, false_iff]
      rintro ⟨rfl, hi⟩
      exact hj hi
  unfold Entry.resolve Entry.StandsFor
  cases htarget : e.target with
  | implementation j =>
    simp only [Target.implementation.injEq, reduceCtorEq, false_and, exists_false, or_false]
    exact hcheck j
  | path text =>
    simp only [reduceCtorEq, Target.path.injEq, exists_eq_left', false_or]
    cases modules.resolve text with
    | ok member =>
      cases member with
      | implementation j =>
        simp only [Except.ok.injEq, Member.implementation.injEq]
        exact hcheck j
      | _ => simp
    | error g =>
      simp only [reduceCtorEq, false_and, iff_false]
      split <;> exact nofun

/-- Whether a class is available under a name: the entry of the name stands for it, and it is one of
    the family. -/
def ServiceTable.Provides (t : ServiceTable) (modules : ModuleTable) (family : Family)
    (name : String) (i : Implementation) : Prop :=
  ∃ e, t.find family name = .ok e ∧ e.StandsFor modules i ∧ i.isOf family = true

namespace Config

/-- Looking a class up gives the class that is available under its name. -/
theorem resolveClass_eq_ok_iff {w : World} {services : ServiceTable} {name : String}
    {i : Implementation} :
    (resolveClass w services family name).result = .ok i ↔
      services.Provides w.modules family name i := by
  unfold resolveClass ServiceTable.classFor ServiceTable.Provides
  rw [Traced.result_mapFailure, mapError_eq_ok]
  simp only [result_bind_eq_ok, Traced.result_ofExcept, Traced.result_report_bind,
    Traced.result_pure, Entry.resolve_eq_ok_iff, Except.ok.injEq, exists_eq_right]

/-- Looking a class up hands on exactly the failures that it does not replace. -/
theorem ofResolving_eq_iff {item name : String} {g : Failure} (hf : f.isConfiguration = false) :
    ofResolving item name g = f ↔ g = f ∧ f.isOfService = false := by
  cases g with
  | unknownService family name candidates =>
    constructor
    · rintro rfl
      cases hf
    · rintro ⟨rfl, h⟩
      cases h
  | unavailableService family name fault cause =>
    constructor
    · rintro rfl
      cases hf
    · rintro ⟨rfl, h⟩
      cases h
  | _ =>
    simp only [ofResolving]
    constructor
    · rintro rfl
      exact ⟨rfl, rfl⟩
    · rintro ⟨h, -⟩
      exact h

/-- **What escapes from looking a class up** is the failure of an import. -/
theorem escapes_resolveClass {w : World} {services : ServiceTable} {name : String} :
    Escapes f (resolveClass w services family name).result ↔
      ClassFault w.modules services family name f := by
  unfold resolveClass ServiceTable.classFor ClassFault
  rw [Traced.result_mapFailure, escapes_mapError]
  constructor
  · rintro ⟨g, hg, hfg, hf⟩
    obtain ⟨rfl, hservice⟩ := (ofResolving_eq_iff hf).mp hfg
    rcases result_bind_eq_error.mp hg with hfind | ⟨e, hfind, hrest⟩
    · rw [ServiceTable.find_eq_error hfind] at hservice
      cases hservice
    · rcases result_bind_eq_error.mp hrest with hresolve | ⟨i, -, hdone⟩
      · have hunavailable : g.isUnavailable = false := by
          cases g <;> first | rfl | cases hservice
        exact ⟨e, hfind, (Entry.resolve_eq_error family hunavailable).mp hresolve, hf, hservice⟩
      · cases hdone
  · rintro ⟨e, hfind, hbreaks, hf, hservice⟩
    have hunavailable : f.isUnavailable = false := by
      cases f <;> first | rfl | cases hservice
    have hresolve := (Entry.resolve_eq_error family hunavailable).mpr hbreaks
    refine ⟨f, ?_, (ofResolving_eq_iff hf).mpr ⟨rfl, hservice⟩, hf⟩
    rw [result_bind_eq_error]
    refine .inr ⟨e, hfind, ?_⟩
    rw [result_bind_eq_error]
    exact .inl hresolve

end Config

/-! ### Discovery -/

/-- An entry that takes part by itself and breaks a discovery. -/
def Entry.BreaksDiscovery (modules : ModuleTable) (e : Entry) (f : Failure) : Prop :=
  e.auto = true ∧ e.Breaks modules f ∧ f.isUnavailable = false

/-- An entry breaks a discovery when it takes part and fails to resolve although it is not
    unavailable. -/
theorem Entry.breaksDiscovery_iff {e : Entry} (family : Family) :
    e.BreaksDiscovery modules f ↔
      e.auto = true ∧ e.resolve modules family = .error f ∧ f.isUnavailable = false := by
  unfold BreaksDiscovery
  constructor
  · rintro ⟨hauto, hbreaks, hf⟩
    exact ⟨hauto, (resolve_eq_error family hf).mpr hbreaks, hf⟩
  · rintro ⟨hauto, hresolve, hf⟩
    exact ⟨hauto, (resolve_eq_error family hf).mp hresolve, hf⟩

/-- The first entry that breaks a discovery breaks it with `f`. -/
def DiscoveryFault (modules : ModuleTable) (es : List Entry) (f : Failure) : Prop :=
  AtFirst (fun e => ∀ g, ¬ e.BreaksDiscovery modules g) (fun e => e.BreaksDiscovery modules f) es

/-- An entry that does not break a discovery leaves it to the entries behind. -/
theorem discoveryFault_cons_of_passes {e : Entry} {es : List Entry}
    (h : ∀ g, ¬ e.BreaksDiscovery modules g) :
    DiscoveryFault modules (e :: es) f ↔ DiscoveryFault modules es f := by
  unfold DiscoveryFault
  rw [atFirst_cons]
  constructor
  · rintro (hf | ⟨-, hrest⟩)
    · exact absurd hf (h f)
    · exact hrest
  · intro hrest
    exact .inr ⟨h, hrest⟩

section

variable {ι : Type} {excluded : List ClassRef} {make : Implementation → Traced ι} {e : Entry}
  {es : List Entry}

/-- An entry that breaks a discovery ends it, whatever is behind. -/
theorem result_discoverFrom_of_breaks (h : e.BreaksDiscovery modules f) :
    (discoverFrom modules family excluded make (e :: es)).result = .error f := by
  obtain ⟨hauto, hresolve, hf⟩ := (Entry.breaksDiscovery_iff family).mp h
  rw [discoverFrom, hauto, hresolve]
  cases f with
  | unavailableService => cases hf
  | _ => rfl

/-- What an entry adds to a discovery: the instance of its class, if it takes part, stands for a
    class of the family that is not excluded, and the instance can be built. -/
def Entry.built? (modules : ModuleTable) (family : Family) (excluded : List ClassRef)
    (make : Implementation → Traced ι) (e : Entry) : Option ι :=
  match e.auto, e.resolve modules family with
  | true, .ok i => if i.cls.derivesFromAny excluded then none else (make i).result.toOption
  | _, _ => none

/-- An entry that is left out adds nothing, whatever it stands for. -/
theorem Entry.built?_of_not_auto (h : e.auto = false) :
    e.built? modules family excluded make = none := by
  rw [built?, h]

/-- An entry that does not stop a discovery adds what it builds to what the others give. -/
theorem result_discoverFrom_cons (h : ∀ f, ¬ e.BreaksDiscovery modules f) :
    (discoverFrom modules family excluded make (e :: es)).result
      = (discoverFrom modules family excluded make es).result.map
          ((e.built? modules family excluded make).toList ++ ·) := by
  have hnothing : ∀ r : Except Failure (List ι), r.map ((none : Option ι).toList ++ ·) = r := by
    intro r
    cases r <;> rfl
  rw [discoverFrom]
  cases hauto : e.auto with
  | false =>
    rw [Entry.built?_of_not_auto hauto, hnothing]
    rfl
  | true =>
    simp only [Bool.not_true, Bool.false_eq_true, if_false]
    cases hresolve : e.resolve modules family with
    | error g =>
      -- The entry is unavailable, for any other failure would stop the discovery.
      have hg : g.isUnavailable = true := by
        by_contra hg
        exact h g ((Entry.breaksDiscovery_iff family).mpr
          ⟨hauto, hresolve, Bool.eq_false_iff.mpr hg⟩)
      have hbuilt : e.built? modules family excluded make = none := by
        rw [Entry.built?, hauto, hresolve]
      rw [hbuilt, hnothing]
      cases g with
      | unavailableService => rfl
      | _ => cases hg
    | ok i =>
      dsimp only
      have hbuilt : e.built? modules family excluded make
          = if i.cls.derivesFromAny excluded then none else (make i).result.toOption := by
        rw [Entry.built?, hauto, hresolve]
      rw [hbuilt]
      split
      · rw [Traced.result_report_bind, hnothing]
      · rw [Traced.result_bind, Traced.result_attempt]
        cases hmake : (make i).result with
        | error g => exact (hnothing _).symm
        | ok built =>
          change (discoverFrom modules family excluded make es >>= fun found =>
            pure (built :: found)).result = _
          rw [Traced.result_bind]
          rfl

/-- **A discovery fails** with the failure of the first entry that breaks it, whatever can be
    built. -/
theorem discoverFrom_eq_error :
    (discoverFrom modules family excluded make es).result = .error f ↔
      DiscoveryFault modules es f := by
  induction es with
  | nil =>
    constructor <;> intro h <;> cases h
  | cons e es ih =>
    by_cases hpasses : ∀ g, ¬ e.BreaksDiscovery modules g
    · rw [result_discoverFrom_cons hpasses, discoveryFault_cons_of_passes hpasses, ← ih]
      cases (discoverFrom modules family excluded make es).result with
      | ok found => exact ⟨nofun, nofun⟩
      | error g => rfl
    · obtain ⟨g, hg⟩ := not_forall_not.mp hpasses
      rw [result_discoverFrom_of_breaks hg, Except.error.injEq]
      constructor
      · rintro rfl
        exact .here hg
      · intro h
        rcases atFirst_cons.mp h with hf | ⟨hnone, -⟩
        · obtain ⟨-, hresolve, -⟩ := (Entry.breaksDiscovery_iff family).mp hg
          obtain ⟨-, hresolve', -⟩ := (Entry.breaksDiscovery_iff family).mp hf
          exact Except.error.inj (hresolve.symm.trans hresolve')
        · exact absurd hg (hnone g)

end

end MediaGraph
