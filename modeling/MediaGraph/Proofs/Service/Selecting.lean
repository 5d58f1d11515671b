import MediaGraph.Proofs.Service.Discovery

namespace MediaGraph

/-!
# What a discovery selects

A discovery passes over an entry for one of three reasons: its target does not lead to a class of
the family, the class is excluded, or no instance of it can be built.  No entry has a say in what
becomes of another, so excluding more classes takes away the instances of these classes and nothing
else.  An entry remembers the class to which it once resolved; a discovery that goes by what was
remembered is the same discovery.

* `Builder`, `Builder.standard` — a way to build instances, which are of the class they are built
  from.
* `Entry.Selected`, `Entry.Yields` — the entries that a discovery takes in, and what comes of one.
* `forall₂_yields` — one instance for every selected entry, in their order.
* `result_discoverFrom_of_subset` — more exclusions take away instances.
* `Remembered`, `discoverRemembering` — a discovery over entries that remember their class.
* `discoverRemembering_eq`, `map_entry_afterDiscoveries` — what is remembered does not matter,
  however many discoveries there were before.
* `discover_selects` — all of it, for every table.
-/

variable {ι : Type} {modules : ModuleTable} {family : Family} {excluded excluded' : List ClassRef}

/-! ### Building instances of a class -/

/-- A way to build instances of classes, and the class of an instance. -/
structure Builder (ι : Type) where
  make : Implementation → Traced ι
  cls : ι → ClassRef
  /-- An instance is of the class from which it is built. -/
  cls_of_make : ∀ {i x}, (make i).result = .ok x → cls x = i.cls

namespace Builder

/-- The instances of the classes of a family. -/
def Instance : Family → Type
  | .detectors => Detector
  | .parsers => Parser
  | .translators => Translator

/-- A detector is of the class from which it is built. -/
theorem cls_of_newDetector {i : Implementation} {d : Detector}
    (h : i.newDetector.result = .ok d) : d.cls = i.cls := by
  unfold Implementation.newDetector at h
  split at h <;> cases h <;> rfl

/-- A translator is of the class from which it is built. -/
theorem cls_of_newTranslator {i : Implementation} {t : Translator}
    (h : i.newTranslator.result = .ok t) : t.cls = i.cls := by
  unfold Implementation.newTranslator at h
  split at h <;> cases h <;> rfl

/-- A parser is of the class from which it is built. -/
theorem cls_of_newParser {w : World} {i : Implementation} {p : Parser}
    (h : (i.newParser w).result = .ok p) : p.cls = i.cls := by
  unfold Implementation.newParser at h
  split at h
  -- The parts of an auto-detecting parser come from elsewhere, its class does not.
  case h_4 =>
    rw [Traced.result_bind] at h
    obtain ⟨parts, -, hp⟩ := bind_eq_ok.mp h
    cases hp
    rfl
  all_goals cases h <;> rfl

/-- How the instances of each family are built without arguments. -/
def standard (w : World) : (family : Family) → Builder (Instance family)
  | .detectors => ⟨Implementation.newDetector, Detector.cls, cls_of_newDetector⟩
  | .parsers => ⟨Implementation.newParser w, Parser.cls, cls_of_newParser⟩
  | .translators => ⟨Implementation.newTranslator, Translator.cls, cls_of_newTranslator⟩

/-- The instances that are of none of some classes. -/
def without (b : Builder ι) (excluded : List ClassRef) (found : List ι) : List ι :=
  found.filter fun x => !(b.cls x).derivesFromAny excluded

end Builder

/-! ### Selected entries -/

/-- Whether a discovery takes an entry in: it takes part by itself, its target leads to a class of
    the family that derives from no excluded one, and an instance of the class can be built. -/
def Entry.Selected (modules : ModuleTable) (family : Family) (excluded : List ClassRef)
    (make : Implementation → Traced ι) (e : Entry) : Prop :=
  e.auto = true ∧ ∃ i, e.StandsFor modules i ∧ i.isOf family = true ∧
    (∀ c ∈ excluded, i.cls.derivesFrom c = false) ∧ ∃ x, (make i).result = .ok x

/-- Whether `x` is an instance of the class for which an entry stands. -/
def Entry.Yields (modules : ModuleTable) (make : Implementation → Traced ι) (e : Entry) (x : ι) :
    Prop :=
  ∃ i, e.StandsFor modules i ∧ (make i).result = .ok x

/-- A class derives from none of some classes. -/
theorem ClassRef.derivesFromAny_eq_false {c : ClassRef} :
    c.derivesFromAny excluded = false ↔ ∀ d ∈ excluded, c.derivesFrom d = false := by
  simp [ClassRef.derivesFromAny]

/-- A class that derives from one of some classes derives from one of more classes. -/
theorem ClassRef.derivesFromAny_mono {c : ClassRef} (hsub : excluded ⊆ excluded')
    (h : c.derivesFromAny excluded = true) : c.derivesFromAny excluded' = true := by
  obtain ⟨d, hd, hderives⟩ := List.any_eq_true.mp h
  exact List.any_eq_true.mpr ⟨d, hsub hd, hderives⟩

section

variable {make : Implementation → Traced ι} {e : Entry} {x : ι}

/-- What an entry adds to a discovery is an instance of a class of the family that is not
    excluded. -/
theorem Entry.built?_eq_some_iff :
    e.built? modules family excluded make = some x ↔
      e.auto = true ∧ ∃ i, e.resolve modules family = .ok i ∧
        i.cls.derivesFromAny excluded = false ∧ (make i).result = .ok x := by
  unfold Entry.built?
  cases e.auto with
  | false => simp
  | true =>
    cases e.resolve modules family with
    | error f => simp
    | ok i =>
      simp only [true_and, Except.ok.injEq, exists_eq_left']
      cases i.cls.derivesFromAny excluded with
      | true => simp
      | false => simp [toOption_eq_some]

/-- An entry adds an instance exactly when it is selected. -/
theorem Entry.selected_iff_isSome :
    e.Selected modules family excluded make ↔
      (e.built? modules family excluded make).isSome = true := by
  simp only [Option.isSome_iff_exists, built?_eq_some_iff, resolve_eq_ok_iff, Selected,
    ClassRef.derivesFromAny_eq_false]
  constructor
  · rintro ⟨hauto, i, hstands, hfamily, hkept, x, hx⟩
    exact ⟨x, hauto, i, ⟨hstands, hfamily⟩, hkept, hx⟩
  · rintro ⟨x, hauto, i, ⟨hstands, hfamily⟩, hkept, hx⟩
    exact ⟨hauto, i, hstands, hfamily, hkept, x, hx⟩

instance : DecidablePred (Entry.Selected modules family excluded make) :=
  fun _ => decidable_of_iff _ Entry.selected_iff_isSome.symm

/-- What an entry adds is what it yields. -/
theorem Entry.yields_of_built? (h : e.built? modules family excluded make = some x) :
    e.Yields modules make x := by
  obtain ⟨-, i, hresolve, -, hx⟩ := built?_eq_some_iff.mp h
  exact ⟨i, (resolve_eq_ok_iff.mp hresolve).1, hx⟩

/-- **One instance for every selected entry**, in the order of the entries. -/
theorem forall₂_yields (es : List Entry) :
    List.Forall₂ (Entry.Yields modules make)
      (es.filter (Entry.Selected modules family excluded make))
      (es.filterMap (Entry.built? modules family excluded make)) := by
  induction es with
  | nil => exact .nil
  | cons e es ih =>
    cases hbuilt : e.built? modules family excluded make with
    | none =>
      have hpassed : ¬ e.Selected modules family excluded make := by
        rw [Entry.selected_iff_isSome, hbuilt]
        exact Bool.false_ne_true
      rw [List.filterMap_cons_none hbuilt, List.filter_cons_of_neg (by simpa using hpassed)]
      exact ih
    | some x =>
      have hselected : e.Selected modules family excluded make := by
        rw [Entry.selected_iff_isSome, hbuilt]
        rfl
      rw [List.filterMap_cons_some hbuilt, List.filter_cons_of_pos (by simpa using hselected)]
      exact .cons (Entry.yields_of_built? hbuilt) ih

end

/-! ### More exclusions -/

/-- Under more exclusions, an entry adds what it added before, unless that is of a class that is
    now excluded. -/
theorem Entry.built?_of_subset (b : Builder ι) (hsub : excluded ⊆ excluded') (e : Entry) :
    e.built? modules family excluded' b.make
      = (e.built? modules family excluded b.make).filter
          fun x => !(b.cls x).derivesFromAny excluded' := by
  ext x
  simp only [Option.filter_eq_some_iff, built?_eq_some_iff, Bool.not_eq_true']
  constructor
  · rintro ⟨hauto, i, hresolve, hkept, hx⟩
    have hbefore : i.cls.derivesFromAny excluded = false := by
      cases h : i.cls.derivesFromAny excluded with
      | false => rfl
      | true => exact absurd (ClassRef.derivesFromAny_mono hsub h) (by simp [hkept])
    exact ⟨⟨hauto, i, hresolve, hbefore, hx⟩, b.cls_of_make hx ▸ hkept⟩
  · rintro ⟨⟨hauto, i, hresolve, -, hx⟩, hkept⟩
    exact ⟨hauto, i, hresolve, b.cls_of_make hx ▸ hkept, hx⟩

/-- **More exclusions** take away the instances of the classes that they name; whether a discovery
    fails, and how, does not depend on them. -/
theorem result_discoverFrom_of_subset (b : Builder ι) (hsub : excluded ⊆ excluded')
    (es : List Entry) :
    (discoverFrom modules family excluded' b.make es).result
      = (discoverFrom modules family excluded b.make es).result.map (b.without excluded') := by
  by_cases hundisturbed : ∀ e ∈ es, ∀ f, ¬ e.BreaksDiscovery modules f
  · rw [discoverFrom_of_undisturbed hundisturbed, discoverFrom_of_undisturbed hundisturbed]
    have hadded : es.filterMap (Entry.built? modules family excluded' b.make)
        = b.without excluded' (es.filterMap (Entry.built? modules family excluded b.make)) := by
      rw [Builder.without, List.filter_filterMap]
      exact List.filterMap_congr fun e _ => Entry.built?_of_subset b hsub e
    rw [hadded]
    rfl
  · obtain ⟨f, hfault⟩ : ∃ f, DiscoveryFault modules es f := by
      apply exists_discoveryFault
      push Not at hundisturbed
      exact hundisturbed
    rw [discoverFrom_eq_error.mpr hfault, discoverFrom_eq_error.mpr hfault]
    rfl

/-! ### Remembered classes -/

/-- An entry that remembers the class to which it was resolved, if it was. -/
structure Remembered (modules : ModuleTable) (family : Family) where
  entry : Entry
  resolved : Option Implementation
  /-- What is remembered is what resolving the entry gives. -/
  resolve_eq : ∀ {i}, resolved = some i → entry.resolve modules family = .ok i

namespace Remembered

/-- The class of an entry: the one that is remembered, or else the one that its target leads to. -/
def resolve (r : Remembered modules family) : Except Failure Implementation :=
  match r.resolved with
  | some i => .ok i
  | none => r.entry.resolve modules family

/-- What is remembered makes no difference to what an entry resolves to. -/
theorem resolve_eq_resolve (r : Remembered modules family) :
    r.resolve = r.entry.resolve modules family := by
  unfold resolve
  cases hresolved : r.resolved with
  | none => rfl
  | some i => exact (r.resolve_eq hresolved).symm

/-- An entry after it was resolved; where that failed, nothing is remembered. -/
def resolvedOnce (r : Remembered modules family) : Remembered modules family where
  entry := r.entry
  resolved := r.resolve.toOption
  resolve_eq h := r.resolve_eq_resolve ▸ toOption_eq_some.mp h

end Remembered

/-- Takes in the entries one after another, going by what they remember, and gives the entries with
    what they remember from then on. -/
def discoverRemembering (excluded : List ClassRef) (make : Implementation → Traced ι) :
    List (Remembered modules family) → Traced (List ι) × List (Remembered modules family)
  | [] => (return [], [])
  | r :: rs =>
    if !r.entry.auto then
      let (others, rest) := discoverRemembering excluded make rs
      (others, r :: rest)
    else
      match r.resolve with
      | .error (.unavailableService ..) =>
        let (others, rest) := discoverRemembering excluded make rs
        (do Traced.report .warning s!"Skipping unavailable {family.label} {r.entry.name}"
            others,
          r.resolvedOnce :: rest)
      | .error f => (Traced.fail f, r.resolvedOnce :: rs)
      | .ok i =>
        let (others, rest) := discoverRemembering excluded make rs
        if i.cls.derivesFromAny excluded then
          (do Traced.report .debug
                s!"Excluding {family.label} {r.entry.name} from default discovery"
              others,
            r.resolvedOnce :: rest)
        else
          (do match ← (make i).attempt with
              | .ok instance_ => return instance_ :: (← others)
              | .error _ =>
                Traced.report .error s!"Failed to instantiate {family.label} {r.entry.name}"
                others,
            r.resolvedOnce :: rest)

/-- **A discovery that remembers** gives and reports what one does that looks every class up
    anew. -/
theorem discoverRemembering_eq (make : Implementation → Traced ι)
    (rs : List (Remembered modules family)) :
    (discoverRemembering excluded make rs).1
      = discoverFrom modules family excluded make (rs.map (·.entry)) := by
  induction rs with
  | nil => rfl
  | cons r rs ih =>
    rw [discoverRemembering, List.map_cons, discoverFrom, ← r.resolve_eq_resolve, ← ih]
    split
    · rfl
    · cases r.resolve with
      | error f => cases f <;> rfl
      | ok i =>
        dsimp only
        split <;> rfl

/-- A discovery leaves the entries themselves as they are. -/
theorem map_entry_discoverRemembering (make : Implementation → Traced ι)
    (rs : List (Remembered modules family)) :
    (discoverRemembering excluded make rs).2.map (·.entry) = rs.map (·.entry) := by
  induction rs with
  | nil => rfl
  | cons r rs ih =>
    rw [discoverRemembering, List.map_cons, ← ih]
    split
    · rfl
    · cases r.resolve with
      | error f =>
        cases f with
        | unavailableService => rfl
        | _ => exact congrArg (r.entry :: ·) ih.symm
      | ok i =>
        dsimp only
        split <;> rfl

/-- What the entries remember after some discoveries, each with its own exclusions. -/
def afterDiscoveries (make : Implementation → Traced ι) (rs : List (Remembered modules family)) :
    List (List ClassRef) → List (Remembered modules family)
  | [] => rs
  | excluded :: later => afterDiscoveries make (discoverRemembering excluded make rs).2 later

/-- However many discoveries there are, the entries themselves stay. -/
theorem map_entry_afterDiscoveries (make : Implementation → Traced ι)
    (rs : List (Remembered modules family)) (history : List (List ClassRef)) :
    (afterDiscoveries make rs history).map (·.entry) = rs.map (·.entry) := by
  induction history generalizing rs with
  | nil => rfl
  | cons excluded later ih =>
    rw [afterDiscoveries, ih, map_entry_discoverRemembering]

/-! ### Every table -/

/-- **What a discovery selects.**  Whatever the table, the family, the modules and the way in which
    instances are built: a discovery that gives a list gives one instance for each entry that takes
    part by itself, leads to a class of the family that derives from no excluded one, and can be
    built, in the order of the entries.  A discovery that excludes more gives the same list without
    the instances of the classes that it excludes, and fails where the other fails.  Neither changes
    by what the entries remember from whatever discoveries there were before. -/
theorem discover_selects (b : Builder ι) (t : ServiceTable) (modules : ModuleTable)
    (family : Family) {excluded excluded' : List ClassRef} (hsub : excluded ⊆ excluded') :
    (∀ found, (t.discover modules family excluded b.make).result = .ok found →
      List.Forall₂ (Entry.Yields modules b.make)
        ((t.entries family).filter (Entry.Selected modules family excluded b.make)) found) ∧
    (t.discover modules family excluded' b.make).result
      = (t.discover modules family excluded b.make).result.map (b.without excluded') ∧
    ∀ (rs : List (Remembered modules family)) (history : List (List ClassRef)),
      rs.map (·.entry) = t.entries family →
        (discoverRemembering excluded b.make (afterDiscoveries b.make rs history)).1
          = t.discover modules family excluded b.make := by
  refine ⟨fun found hfound => ?_, result_discoverFrom_of_subset b hsub _, fun rs history hrs => ?_⟩
  · have hundisturbed := discoverFrom_returns_iff.mp ⟨found, hfound⟩
    cases hfound.symm.trans (discoverFrom_of_undisturbed hundisturbed)
    exact forall₂_yields _
  · rw [discoverRemembering_eq, map_entry_afterDiscoveries, hrs, ServiceTable.discover]

/-- The packaged parsers: without exclusions both are found, and without the class of the first only
    the second. -/
theorem discover_selects_packaged :
    [] ⊆ [Parser.textClass] ∧
    ((Packaged.services.discover packagedModules .parsers []
        (Builder.standard (.ofModules .own packagedModules) .parsers).make).result.map
          (·.map Parser.cls)).toOption = some [Parser.textClass, Parser.xmlClass] ∧
    (Packaged.services.discover packagedModules .parsers [Parser.textClass]
        (Builder.standard (.ofModules .own packagedModules) .parsers).make).result
      = (Packaged.services.discover packagedModules .parsers []
          (Builder.standard (.ofModules .own packagedModules) .parsers).make).result.map
            ((Builder.standard (.ofModules .own packagedModules) .parsers).without
              [Parser.textClass]) := by
  have hsub : [] ⊆ [Parser.textClass] := List.nil_subset _
  refine ⟨hsub, by decide +kernel, ?_⟩
  exact (discover_selects (Builder.standard (.ofModules .own packagedModules) .parsers)
    Packaged.services packagedModules .parsers hsub).2.1

end MediaGraph
