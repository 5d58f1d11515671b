import MediaGraph.Proofs.Service.Changes

namespace MediaGraph.ServiceTable

/-!
# What a failed manifest leaves

The entries of a manifest are added one after another, and nothing takes them back when a later one
cannot be read.  A failed manifest so leaves the table alone exactly when all that stands in front
of its fault has names that are taken.

* `upToFailure_eq_error_iff` — a list split at its first failure.
* `newEntries` — the entries that some declarations add to a family.
* `entries_applyAll_puts` — what declarations leave in a family.
* `readManifest_unchanged_iff` — when a failed manifest leaves the table as it was.
* `readManifest_incomplete` — a manifest that fails and leaves an entry behind.
-/

variable {t : ServiceTable} {reader : TableReader} {family : Family} {text origin : String}
  {f : Failure} {inFront : List (Family × Entry)}

/-! ### What stands in front of a fault -/

/-- The first failure of a list stands behind what is in front of it. -/
theorem upToFailure_eq_error_iff {α : Type} {rs : List (Except Failure α)} :
    (upToFailure rs).2 = .error f ↔
      ∃ rest, rs = (upToFailure rs).1.map .ok ++ .error f :: rest := by
  induction rs with
  | nil => exact ⟨nofun, nofun⟩
  | cons r rs ih =>
    cases r with
    | error g =>
      constructor
      · intro h
        cases h
        exact ⟨rs, rfl⟩
      · rintro ⟨rest, h⟩
        cases h
        rfl
    | ok a =>
      change (upToFailure rs).2 = .error f ↔
        ∃ rest, .ok a :: rs = .ok a :: ((upToFailure rs).1.map .ok ++ .error f :: rest)
      simp only [List.cons.injEq, true_and, ih]

/-- The change that adds an entry to a family. -/
def declare (p : Family × Entry) : TableChange := .put p.1 p.2

theorem exists_map_declare {cs : List TableChange} (h : ∀ c ∈ cs, ∃ own e, c = .put own e) :
    ∃ inFront : List (Family × Entry), cs = inFront.map declare := by
  induction cs with
  | nil => exact ⟨[], rfl⟩
  | cons c cs ih =>
    obtain ⟨⟨own, e, rfl⟩, hcs⟩ := List.forall_mem_cons.mp h
    obtain ⟨inFront, rfl⟩ := ih hcs
    exact ⟨(own, e) :: inFront, rfl⟩

/-- A failed manifest ends at a fault, and adds the entries that are declared in front of it. -/
theorem exists_inFront (h : (t.readManifest reader text origin).outcome.result = .error f) :
    ∃ (inFront : List (Family × Entry)) (rest : List (Except Failure TableChange)),
      declarations reader text origin = (inFront.map declare).map .ok ++ .error f :: rest ∧
        (t.readManifest reader text origin).table = t.applyAll (inFront.map declare) := by
  rw [readManifest_eq] at h ⊢
  obtain ⟨rest, hrest⟩ := upToFailure_eq_error_iff.mp h
  obtain ⟨inFront, hfront⟩ : ∃ inFront : List (Family × Entry),
      (upToFailure (declarations reader text origin)).1 = inFront.map declare :=
    exists_map_declare fun c hc => put_of_mem_declarations (mem_of_mem_upToFailure hc)
  rw [hfront] at hrest
  exact ⟨inFront, rest, hrest, by rw [← hfront]; rfl⟩

/-! ### What declarations add -/

/-- The entries that are added when their names are not taken, each name once. -/
def newEntries (taken : List String) : List Entry → List Entry
  | [] => []
  | e :: es =>
    if e.name ∈ taken then newEntries taken es else e :: newEntries (taken ++ [e.name]) es

/-- Nothing is added exactly when all names are taken. -/
theorem newEntries_eq_nil_iff {taken : List String} {es : List Entry} :
    newEntries taken es = [] ↔ ∀ e ∈ es, e.name ∈ taken := by
  induction es with
  | nil => exact ⟨fun _ => List.forall_mem_nil _, fun _ => rfl⟩
  | cons e es ih =>
    rw [newEntries, List.forall_mem_cons]
    by_cases he : e.name ∈ taken
    · rw [if_pos he, ih, and_iff_right he]
    · rw [if_neg he]
      exact ⟨nofun, fun h => absurd h.1 he⟩

/-- The entries that are declared for a family. -/
def declaredFor (family : Family) (inFront : List (Family × Entry)) : List Entry :=
  (inFront.filter fun p => p.1 = family).map (·.2)

theorem names_apply_put_of_free {e : Entry} (h : ∀ d ∈ t.entries family, d.name ≠ e.name) :
    (t.apply (.put family e)).names family = t.names family ++ [e.name] := by
  rw [names, entries_apply_put_of_free h, List.map_append, List.map_singleton, names]

/-- **Declarations add their new entries**, in their order, behind those that are there. -/
theorem entries_applyAll_puts (t : ServiceTable) (inFront : List (Family × Entry))
    (family : Family) :
    (t.applyAll (inFront.map declare)).entries family
      = t.entries family ++ newEntries (t.names family) (declaredFor family inFront) := by
  induction inFront generalizing t with
  | nil => exact (List.append_nil _).symm
  | cons p inFront ih =>
    obtain ⟨own, e⟩ := p
    change ((t.apply (.put own e)).applyAll (inFront.map declare)).entries family = _
    rw [ih]
    by_cases hown : own = family
    · subst hown
      have hdeclared : declaredFor own ((own, e) :: inFront) = e :: declaredFor own inFront := by
        rw [declaredFor, List.filter_cons_of_pos (by simp), List.map_cons, declaredFor]
      rw [hdeclared, newEntries]
      by_cases htaken : e.name ∈ t.names own
      · rw [if_pos htaken, apply_put_of_taken (List.mem_map.mp htaken)]
      · have hfree : ∀ d ∈ t.entries own, d.name ≠ e.name := fun d hd hname =>
          htaken (List.mem_map.mpr ⟨d, hd, hname⟩)
        rw [if_neg htaken, entries_apply_put_of_free hfree, names_apply_put_of_free hfree,
          List.append_assoc, List.singleton_append]
    · have hentries : (t.apply (.put own e)).entries family = t.entries family :=
        entries_apply_of_ne hown
      have hdeclared : declaredFor family ((own, e) :: inFront) = declaredFor family inFront := by
        rw [declaredFor, List.filter_cons_of_neg (by simpa using hown), declaredFor]
      rw [hentries, hdeclared, names, names, hentries]

/-! ### A table that is left alone -/

/-- Two tables with the same entries and the same names in every family. -/
def SameEntries (t t' : ServiceTable) : Prop :=
  ∀ family, t.entries family = t'.entries family ∧ t.names family = t'.names family

/-- Declarations leave a table alone exactly when all of their names are taken. -/
theorem sameEntries_applyAll_iff :
    (t.applyAll (inFront.map declare)).SameEntries t ↔ ∀ p ∈ inFront, p.2.name ∈ t.names p.1 := by
  constructor
  · intro h p hp
    have hentries := (h p.1).1
    rw [entries_applyAll_puts, List.append_right_eq_self, newEntries_eq_nil_iff] at hentries
    exact hentries p.2 (List.mem_map.mpr ⟨p, List.mem_filter.mpr ⟨hp, by simp⟩, rfl⟩)
  · intro h family
    have hnone : newEntries (t.names family) (declaredFor family inFront) = [] := by
      rw [newEntries_eq_nil_iff]
      intro e he
      obtain ⟨p, hp, rfl⟩ := List.mem_map.mp he
      obtain ⟨hp, hfamily⟩ := List.mem_filter.mp hp
      rw [← of_decide_eq_true hfamily]
      exact h p hp
    have hentries : (t.applyAll (inFront.map declare)).entries family = t.entries family := by
      rw [entries_applyAll_puts, hnone, List.append_nil]
    exact ⟨hentries, by rw [names, hentries, names]⟩

/-- **What a failed manifest leaves.**  Whatever fails, every family keeps the entries it had, and
    behind them come those that are declared in front of the fault under new names.  So the table is
    left as it was exactly when all names in front of the fault are taken. -/
theorem readManifest_unchanged_iff
    (h : (t.readManifest reader text origin).outcome.result = .error f) :
    ∃ (inFront : List (Family × Entry)) (rest : List (Except Failure TableChange)),
      declarations reader text origin = (inFront.map declare).map .ok ++ .error f :: rest ∧
      (∀ family, (t.readManifest reader text origin).table.entries family
        = t.entries family ++ newEntries (t.names family) (declaredFor family inFront)) ∧
      ((t.readManifest reader text origin).table.SameEntries t ↔
        ∀ p ∈ inFront, p.2.name ∈ t.names p.1) := by
  obtain ⟨inFront, rest, hdeclared, htable⟩ := exists_inFront h
  refine ⟨inFront, rest, hdeclared, fun family => ?_, ?_⟩
  · rw [htable, entries_applyAll_puts]
  · rw [htable, sameEntries_applyAll_iff]

/-- A manifest of two parsers, the second of them without a target. -/
def incompleteManifest : String :=
  "[[parsers]]\nname = \"a\"\ntarget = \"m:A\"\n\n[[parsers]]\nname = \"b\"\n"

/-- The parser that it declares. -/
def firstParser : Entry := ⟨"a", .path "m:A", false, "bad.toml"⟩

/-- The fault of the other one. -/
def secondFault : Failure := .configuration (.manifestIncomplete "bad.toml" .parsers) none

theorem declarations_incompleteManifest :
    declarations .own incompleteManifest "bad.toml"
      = [.ok (.put .parsers firstParser), .error secondFault] := by
  have hdocument : Repository.readDocument .own (.manifestMalformed "bad.toml") incompleteManifest
      = .ok [("parsers", .array [.table [("name", .text "a"), ("target", .text "m:A")],
          .table [("name", .text "b")]])] := toOption_eq_some.mp (by decide +kernel)
  rw [declarations, hdocument]
  rfl

theorem result_incompleteManifest (t : ServiceTable) :
    (t.readManifest .own incompleteManifest "bad.toml").outcome.result = .error secondFault := by
  rw [readManifest_eq, declarations_incompleteManifest]
  rfl

/-- A table in which the name of the first parser is taken is left as it was. -/
theorem readManifest_unchanged_iff_taken :
    ∃ t : ServiceTable, (t.readManifest .own incompleteManifest "bad.toml").outcome.result
        = .error secondFault ∧
      (t.readManifest .own incompleteManifest "bad.toml").table.SameEntries t := by
  let t : ServiceTable := ⟨[], [⟨"a", .path "m:Other", true, registerOrigin⟩], []⟩
  have hresult := result_incompleteManifest t
  obtain ⟨inFront, rest, hdeclared, -, hsame⟩ := readManifest_unchanged_iff hresult
  refine ⟨t, hresult, hsame.mpr fun p hp => ?_⟩
  have hmem : .ok (declare p) ∈ declarations .own incompleteManifest "bad.toml" := by
    rw [hdeclared]
    exact List.mem_append_left _ (List.mem_map_of_mem (List.mem_map_of_mem hp))
  rw [declarations_incompleteManifest] at hmem
  obtain ⟨own, e⟩ := p
  rcases List.mem_cons.mp hmem with heq | hmem
  · cases heq
    exact List.mem_singleton.mpr rfl
  · cases List.mem_singleton.mp hmem

/-- The empty table has the first parser afterwards, although the manifest failed. -/
theorem readManifest_incomplete :
    ¬ ∀ (t : ServiceTable) (text origin : String) (f : Failure),
      (t.readManifest .own text origin).outcome.result = .error f →
        (t.readManifest .own text origin).table.SameEntries t := by
  intro h
  have hsame := h empty incompleteManifest "bad.toml" secondFault (result_incompleteManifest empty)
  have hnames := (hsame .parsers).2
  rw [readManifest_eq, declarations_incompleteManifest] at hnames
  cases hnames

end MediaGraph.ServiceTable
