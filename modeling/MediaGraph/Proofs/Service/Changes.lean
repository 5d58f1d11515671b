import MediaGraph.Proofs.Traced
import MediaGraph.Service.Calls

namespace MediaGraph

/-!
# What calls change in a service table

However a call ends, what it leaves is the table to which some entries were added and from which
some names were dropped, one after another.  Which ones does not depend on the table: a name that is
taken keeps its entry, and that is reported.

* `TableCall.changes` — the changes that a call asks for.
* `ServiceTable.applyAll` — the table after some changes, each made or ignored.
* `readManifest_eq` — a manifest adds the entries in front of the first that cannot be read.
* `table_perform`, `warnings_perform` — what a call leaves, and what it warns of.
-/

/-- A change of a service table that is asked for. -/
inductive TableChange where
  | put (family : Family) (e : Entry)
  | drop (family : Family) (name : String)

/-- The family that a change is about. -/
def TableChange.family : TableChange → Family
  | .put family _ => family
  | .drop family _ => family

namespace ServiceTable

variable {t : ServiceTable} {family : Family} {name origin : String} {e : Entry}

/-! ### One change -/

@[simp] theorem entries_withEntries (t : ServiceTable) (es : List Entry) (family : Family) :
    (t.withEntries es family).entries family = es := by
  cases family <;> rfl

/-- The entries of the other families stay. -/
theorem entries_withEntries_of_ne {es : List Entry} {other : Family} (h : family ≠ other) :
    (t.withEntries es family).entries other = t.entries other := by
  cases family <;> cases other <;> first | rfl | exact absurd rfl h

/-- A name is free when no entry has it. -/
theorem declared?_eq_none_iff :
    t.declared? family name = none ↔ ∀ e ∈ t.entries family, e.name ≠ name := by
  simp [declared?]

/-- What is declared under a name is an entry of that name. -/
theorem mem_entries_of_declared? (h : t.declared? family name = some e) :
    e ∈ t.entries family ∧ e.name = name :=
  ⟨List.mem_of_find?_eq_some h, by simpa using List.find?_some h⟩

/-- The table after a change; an entry whose name is taken is not added. -/
def apply (t : ServiceTable) : TableChange → ServiceTable
  | .put family e =>
    if (t.declared? family e.name).isSome then t
    else t.withEntries (t.entries family ++ [e]) family
  | .drop family name => t.unregister family name

/-- What is reported about a change: a name that is taken, with the origins of both entries. -/
def notice (t : ServiceTable) : TableChange → List Record
  | .put family e =>
    match t.declared? family e.name with
    | some kept => [⟨.warning,
        s!"Duplicate {family.label} name {e.name} from {e.origin} (keeping {kept.origin})"⟩]
    | none => []
  | .drop .. => []

theorem apply_put_of_taken (h : ∃ kept ∈ t.entries family, kept.name = e.name) :
    t.apply (.put family e) = t := by
  have htaken : (t.declared? family e.name).isSome = true := by
    simpa [declared?] using h
  rw [apply, if_pos htaken]

theorem entries_apply_put_of_free (h : ∀ d ∈ t.entries family, d.name ≠ e.name) :
    (t.apply (.put family e)).entries family = t.entries family ++ [e] := by
  rw [apply, declared?_eq_none_iff.mpr h]
  exact entries_withEntries ..

theorem entries_apply_drop (t : ServiceTable) (family : Family) (name : String) :
    (t.apply (.drop family name)).entries family
      = (t.entries family).filter fun e => e.name ≠ name :=
  entries_withEntries ..

/-- **A change of one family leaves the others.** -/
theorem entries_apply_of_ne {c : TableChange} (h : c.family ≠ family) :
    (t.apply c).entries family = t.entries family := by
  cases c with
  | put own e =>
    rw [apply]
    split
    · rfl
    · exact entries_withEntries_of_ne h
  | drop own name => exact entries_withEntries_of_ne h

/-- Whether a change is made, and how, depends on the entries of its own family. -/
theorem entries_apply_congr {t' : ServiceTable} {c : TableChange}
    (h : t.entries c.family = t'.entries c.family) :
    (t.apply c).entries c.family = (t'.apply c).entries c.family := by
  cases c with
  | put own e =>
    change t.entries own = t'.entries own at h
    change (t.apply (.put own e)).entries own = (t'.apply (.put own e)).entries own
    by_cases hfree : ∀ d ∈ t.entries own, d.name ≠ e.name
    · rw [entries_apply_put_of_free hfree, entries_apply_put_of_free (h ▸ hfree), h]
    · have htaken : ∃ kept ∈ t.entries own, kept.name = e.name := by simpa using hfree
      rw [apply_put_of_taken htaken, apply_put_of_taken (h ▸ htaken), h]
  | drop own name =>
    change (t.apply (.drop own name)).entries own = (t'.apply (.drop own name)).entries own
    rw [entries_apply_drop, entries_apply_drop, show t.entries own = t'.entries own from h]

/-- Adding an entry is a change that is reported when it is not made. -/
theorem add_eq (t : ServiceTable) (family : Family) (e : Entry) :
    t.add family e = ⟨.ok (t.apply (.put family e)), t.notice (.put family e)⟩ := by
  rw [add, apply, notice]
  cases t.declared? family e.name <;> rfl

/-! ### Changes one after another -/

/-- The table after some changes. -/
def applyAll (t : ServiceTable) (changes : List TableChange) : ServiceTable :=
  changes.foldl apply t

/-- What is reported about some changes. -/
def notices (t : ServiceTable) : List TableChange → List Record
  | [] => []
  | c :: cs => t.notice c ++ (t.apply c).notices cs

variable {c : TableChange} {cs ds : List TableChange}

theorem applyAll_append (t : ServiceTable) (cs ds : List TableChange) :
    t.applyAll (cs ++ ds) = (t.applyAll cs).applyAll ds := List.foldl_append

theorem notices_append (t : ServiceTable) (cs ds : List TableChange) :
    t.notices (cs ++ ds) = t.notices cs ++ (t.applyAll cs).notices ds := by
  induction cs generalizing t with
  | nil => rfl
  | cons c cs ih =>
    rw [List.cons_append, notices, notices, ih, List.append_assoc]
    rfl

/-- Everything that is reported about changes is a warning. -/
theorem filter_notices (t : ServiceTable) (cs : List TableChange) :
    (t.notices cs).filter (·.level = .warning) = t.notices cs := by
  induction cs generalizing t with
  | nil => rfl
  | cons c cs ih =>
    have hc : (t.notice c).filter (·.level = .warning) = t.notice c := by
      cases c with
      | put family e =>
        rw [notice]
        cases t.declared? family e.name <;> rfl
      | drop family name => rfl
    rw [notices, List.filter_append, hc, ih]

/-- **A family is changed by its own changes only.** -/
theorem entries_applyAll (t : ServiceTable) (cs : List TableChange) (family : Family) :
    (t.applyAll cs).entries family
      = (t.applyAll (cs.filter fun c => c.family = family)).entries family := by
  -- The two runs go through different tables, which agree on the family.
  suffices h : ∀ t' : ServiceTable, t.entries family = t'.entries family →
      (t.applyAll cs).entries family
        = (t'.applyAll (cs.filter fun c => c.family = family)).entries family from h t rfl
  induction cs generalizing t with
  | nil => exact fun _ h => h
  | cons c cs ih =>
    intro t' h
    by_cases hc : c.family = family
    · subst hc
      rw [List.filter_cons_of_pos (by simp)]
      exact ih (t.apply c) (t'.apply c) (entries_apply_congr h)
    · rw [List.filter_cons_of_neg (by simpa using hc)]
      exact ih (t.apply c) t' ((entries_apply_of_ne hc).trans h)

/-- Entries that are added come behind those that are there. -/
theorem entries_prefix_applyAll (hputs : ∀ c ∈ cs, ∃ own e, c = .put own e) :
    t.entries family <+: (t.applyAll cs).entries family := by
  induction cs generalizing t with
  | nil => exact List.prefix_rfl
  | cons c cs ih =>
    obtain ⟨⟨own, e, rfl⟩, hcs⟩ := List.forall_mem_cons.mp hputs
    have hstep : t.entries family <+: (t.apply (.put own e)).entries family := by
      by_cases hfamily : own = family
      · subst hfamily
        by_cases hfree : ∀ d ∈ t.entries own, d.name ≠ e.name
        · rw [entries_apply_put_of_free hfree]
          exact List.prefix_append _ _
        · have hsame : t.apply (.put own e) = t := apply_put_of_taken (by simpa using hfree)
          exact hsame.symm ▸ List.prefix_rfl
      · have hsame : (t.apply (.put own e)).entries family = t.entries family :=
          entries_apply_of_ne hfamily
        exact hsame.symm ▸ List.prefix_rfl
    exact hstep.trans (ih hcs)

/-! ### Manifests -/

/-- What stands in front of the first failure, and how that ends it. -/
def upToFailure {α : Type} : List (Except Failure α) → List α × Except Failure Unit
  | [] => ([], .ok ())
  | .ok a :: rest => (a :: (upToFailure rest).1, (upToFailure rest).2)
  | .error f :: _ => ([], .error f)

theorem mem_of_mem_upToFailure {α : Type} {rs : List (Except Failure α)} {a : α}
    (h : a ∈ (upToFailure rs).1) : .ok a ∈ rs := by
  induction rs with
  | nil => cases h
  | cons r rs ih =>
    cases r with
    | error f => cases h
    | ok b =>
      rcases List.mem_cons.mp h with rfl | h
      · exact List.mem_cons_self
      · exact List.mem_cons_of_mem _ (ih h)

/-- The table after the declarations in front of the first that cannot be read, which ends it. -/
def following (t : ServiceTable) (declarations : List (Except Failure TableChange)) : Progress :=
  let (changes, ending) := upToFailure declarations
  ⟨t.applyAll changes, ⟨ending, t.notices changes⟩⟩

/-- Going on may be grouped in any way. -/
theorem Progress.andThen_assoc (p : Progress) (f g : ServiceTable → Progress) :
    (p.andThen f).andThen g = p.andThen fun t => (f t).andThen g := by
  obtain ⟨table, result, records⟩ := p
  cases result with
  | error g => rfl
  | ok u =>
    unfold andThen
    dsimp only
    cases h : (f table).outcome.result with
    | error g => simp only [h]
    | ok u => simp only [List.append_assoc]

theorem following_cons (t : ServiceTable) (c : TableChange)
    (rest : List (Except Failure TableChange)) :
    t.following (.ok c :: rest)
      = Progress.andThen ⟨t.apply c, ⟨.ok (), t.notice c⟩⟩ fun t => t.following rest := rfl

theorem following_append (t : ServiceTable)
    (declarations rest : List (Except Failure TableChange)) :
    t.following (declarations ++ rest)
      = (t.following declarations).andThen fun t => t.following rest := by
  induction declarations generalizing t with
  | nil => rfl
  | cons d declarations ih =>
    cases d with
    | error f => rfl
    | ok c =>
      rw [List.cons_append, following_cons, following_cons, Progress.andThen_assoc]
      congr 1
      funext t
      exact ih t

/-- What an item of a manifest declares. -/
def declaration (origin : String) (family : Family) (v : Toml.Value) :
    Except Failure TableChange :=
  (entryOf origin family v).map (.put family)

/-- What a manifest declares for a family. -/
def familyDeclarations (origin : String) (document : Toml.Table) (family : Family) :
    List (Except Failure TableChange) :=
  match Toml.find? family.plural document with
  | none => []
  | some (.array items) => items.map (declaration origin family)
  | some _ => [.error (.configuration (.manifestNotArray origin family) none)]

/-- What a manifest declares, family by family; a text that is no document is a fault itself. -/
def declarations (reader : TableReader) (text origin : String) :
    List (Except Failure TableChange) :=
  match Repository.readDocument reader (.manifestMalformed origin) text with
  | .error f => [.error f]
  | .ok document => Family.all.flatMap (familyDeclarations origin document)

theorem readEntries_eq (t : ServiceTable) (origin : String) (family : Family)
    (vs : List Toml.Value) :
    t.readEntries origin family vs = t.following (vs.map (declaration origin family)) := by
  induction vs generalizing t with
  | nil => rfl
  | cons v vs ih =>
    rw [readEntries, List.map_cons, declaration]
    cases entryOf origin family v with
    | error f => rfl
    | ok e =>
      simp only [add_eq, ih]
      exact (following_cons ..).symm

theorem readFamily_eq (t : ServiceTable) (origin : String) (family : Family)
    (document : Toml.Table) :
    t.readFamily origin family document
      = t.following (familyDeclarations origin document family) := by
  rw [readFamily, familyDeclarations]
  cases Toml.find? family.plural document with
  | none => rfl
  | some v =>
    cases v with
    | array items => exact readEntries_eq ..
    | _ => rfl

/-- **A manifest** adds the entries in front of the first that cannot be read, and fails with the
    fault of that one. -/
theorem readManifest_eq (t : ServiceTable) (reader : TableReader) (text origin : String) :
    t.readManifest reader text origin = t.following (declarations reader text origin) := by
  rw [readManifest, declarations]
  cases Repository.readDocument reader (.manifestMalformed origin) text with
  | error f => rfl
  | ok document =>
    dsimp only
    generalize Family.all = families
    induction families generalizing t with
    | nil => rfl
    | cons family families ih =>
      rw [readFamilies, readFamily_eq, List.flatMap_cons, following_append]
      congr 1
      funext t
      exact ih t

/-- A manifest declares entries and drops none. -/
theorem put_of_mem_declarations {reader : TableReader} {text origin : String} {c : TableChange}
    (h : .ok c ∈ declarations reader text origin) : ∃ family e, c = .put family e := by
  unfold declarations at h
  split at h
  · simp at h
  · obtain ⟨family, -, h⟩ := List.mem_flatMap.mp h
    unfold familyDeclarations at h
    split at h
    · cases h
    · obtain ⟨v, -, hv⟩ := List.mem_map.mp h
      unfold declaration at hv
      cases hentry : entryOf origin family v with
      | error f =>
        rw [hentry] at hv
        cases hv
      | ok e =>
        rw [hentry] at hv
        cases hv
        exact ⟨family, e, rfl⟩
    · simp at h

/-! ### Entry points -/

/-- What announcements declare for a family. -/
def announced (family : Family) (points : List EntryPoint) : List TableChange :=
  points.map fun p =>
    .put family ⟨p.name, .path p.value, true, s!"entry point {family.entryPointGroup}"⟩

/-- Whether a computation makes some changes and warns of those that it does not make. -/
structure Makes (t : ServiceTable) (cs : List TableChange) (x : Traced ServiceTable) : Prop where
  result : x.result = .ok (t.applyAll cs)
  warnings : x.records.filter (·.level = .warning) = t.notices cs

theorem makes_pure (t : ServiceTable) : t.Makes [] (pure t) := ⟨rfl, rfl⟩

theorem makes_add (t : ServiceTable) (family : Family) (e : Entry) :
    t.Makes [.put family e] (t.add family e) where
  result := by rw [add_eq]; rfl
  warnings := by
    rw [add_eq, show t.notice (.put family e) = t.notices [.put family e] by simp [notices]]
    exact filter_notices t _

theorem Makes.bind {x : Traced ServiceTable} {k : ServiceTable → Traced ServiceTable}
    (hx : t.Makes cs x) (hk : (t.applyAll cs).Makes ds (k (t.applyAll cs))) :
    t.Makes (cs ++ ds) (x >>= k) where
  result := by
    rw [result_bind_eq_ok, applyAll_append]
    exact ⟨_, hx.result, hk.result⟩
  warnings := by
    rw [Traced.records_bind x k hx.result, List.filter_append, hx.warnings, hk.warnings,
      notices_append]

/-- Reports other than warnings are not counted. -/
theorem Makes.report {level : Level} {text : String} {k : Unit → Traced ServiceTable}
    (hlevel : level ≠ .warning) (hk : t.Makes cs (k ())) :
    t.Makes cs (Traced.report level text >>= k) where
  result := by rw [Traced.result_report_bind, hk.result]
  warnings := by
    rw [Traced.records_bind _ k rfl, List.filter_append, hk.warnings]
    simp [Traced.report, hlevel]

theorem makes_addEntryPoints (t : ServiceTable) (family : Family) (points : List EntryPoint) :
    t.Makes (announced family points) (t.addEntryPoints family points) := by
  induction points generalizing t with
  | nil => exact makes_pure t
  | cons p points ih => exact .report (by decide) (.bind (makes_add t family _) (ih _))

/-- The announcements of all families are made in the order of the families. -/
theorem makes_addAnnounced (t : ServiceTable) (points : List EntryPoint)
    (families : List Family) :
    t.Makes (families.flatMap fun family =>
      announced family (points.filter fun p => p.group = family.entryPointGroup))
      (t.addAnnounced points families) := by
  induction families generalizing t with
  | nil => exact makes_pure t
  | cons family families ih => exact .bind (makes_addEntryPoints t family _) (ih _)

end ServiceTable

/-! ### Calls -/

open ServiceTable

/-- The changes that a call asks for, one after another. -/
def TableCall.changes (reader : TableReader) : TableCall → List TableChange
  | .readManifest text origin => (upToFailure (declarations reader text origin)).1
  | .loadEntryPoints none => []
  | .loadEntryPoints (some points) => Family.all.flatMap fun family =>
    announced family (points.filter fun p => p.group = family.entryPointGroup)
  | .register family name target auto => [.put family ⟨name, target, auto, registerOrigin⟩]
  | .unregister family name => [.drop family name]

/-- Calls other than those that unregister only add entries. -/
theorem TableCall.put_of_mem_changes {reader : TableReader} {call : TableCall} {c : TableChange}
    (hcall : ∀ family name, call ≠ .unregister family name) (h : c ∈ call.changes reader) :
    ∃ family e, c = .put family e := by
  cases call with
  | readManifest text origin => exact put_of_mem_declarations (mem_of_mem_upToFailure h)
  | loadEntryPoints points =>
    cases points with
    | none => cases h
    | some points =>
      obtain ⟨family, -, h⟩ := List.mem_flatMap.mp h
      obtain ⟨p, -, rfl⟩ := List.mem_map.mp h
      exact ⟨family, _, rfl⟩
  | register family name target auto => exact ⟨family, _, List.mem_singleton.mp h⟩
  | unregister family name => exact absurd rfl (hcall family name)

namespace ServiceTable

variable {t : ServiceTable} {reader : TableReader} {call : TableCall}

/-- A registration under a name that is taken is refused. -/
theorem register_of_taken {family : Family} {name : String} {target : Target} {auto : Bool}
    (h : ∃ kept ∈ t.entries family, kept.name = name) :
    t.register family name target auto = .error (.invalidValue (.nameTaken family name)) := by
  obtain ⟨kept, hkept⟩ : ∃ kept, t.declared? family name = some kept :=
    Option.isSome_iff_exists.mp (by simpa [declared?] using h)
  rw [register, hkept]

/-- **What a call leaves** is the table after its changes, also where it fails. -/
theorem table_perform (t : ServiceTable) (reader : TableReader) (call : TableCall) :
    (t.perform reader call).table = t.applyAll (call.changes reader) := by
  cases call with
  | readManifest text origin =>
    rw [perform, readManifest_eq]
    rfl
  | loadEntryPoints points =>
    cases points with
    | none => rfl
    | some points =>
      rw [perform, loadEntryPoints, Progress.ofWhole,
        (makes_addAnnounced t points Family.all).result]
      rfl
  | register family name target auto =>
    change (Progress.ofWhole t _).table = t.apply (.put family ⟨name, target, auto, registerOrigin⟩)
    rw [Progress.ofWhole, Traced.result_ofExcept, register, apply]
    cases t.declared? family name <;> rfl
  | unregister family name => rfl

/-- **What a call warns of** are the names that are taken; a registration is refused instead. -/
theorem warnings_perform (h : ∀ family name target auto, call ≠ .register family name target auto) :
    (t.perform reader call).outcome.records.filter (·.level = .warning)
      = t.notices (call.changes reader) := by
  cases call with
  | readManifest text origin =>
    rw [perform, readManifest_eq]
    exact filter_notices t _
  | loadEntryPoints points =>
    cases points with
    | none => rfl
    | some points =>
      have hmakes := makes_addAnnounced t points Family.all
      rw [perform, loadEntryPoints, Progress.ofWhole, hmakes.result]
      exact hmakes.warnings
  | register family name target auto => exact absurd rfl (h family name target auto)
  | unregister family name => rfl

/-- The table after some calls is the table after their changes. -/
theorem after_eq (t : ServiceTable) (reader : TableReader) (calls : List TableCall) :
    t.after reader calls = t.applyAll (calls.flatMap (TableCall.changes reader)) := by
  induction calls generalizing t with
  | nil => rfl
  | cons call calls ih =>
    rw [List.flatMap_cons, applyAll_append, ← table_perform, ← ih]
    rfl

end ServiceTable

end MediaGraph
