import MediaGraph.Proofs.Traced
import MediaGraph.Repository.Reading

namespace MediaGraph.Repository

/-!
# Failures of repositories

A repository that cannot be read is a problem of the configuration, with two exceptions: a failure of
the reader of tables that is not expected, and an entry without a name.

* `readEntry_eq_error` — an entry is invalid, or has no name.
* `TextFault`, `escapes_readText` — what escapes from reading a repository.
-/

variable {f : Failure}

/-! ### One entry -/

/-- A failure for which an entry is called invalid. -/
abbrev Invalid (f : Failure) : Prop := makesInvalid f = true

theorem failsOnly_typeOf (v : Toml.Value) : FailsOnly Invalid (typeOf v) := by
  unfold typeOf
  cases MediaType.read v.display with
  | ok t => exact failsOnly_ok
  | error problem => exact failsOnly_error rfl

theorem failsOnly_listUnder (key : String) (entry : Toml.Table) :
    FailsOnly Invalid (listUnder key entry) := by
  unfold listUnder itemsOf
  split
  · exact failsOnly_ok
  · split
    · exact failsOnly_ok
    · exact failsOnly_error rfl

theorem failsOnly_addAliases (t : MediaType) (vs : List Toml.Value) (draft : Draft) :
    FailsOnly Invalid (addAliases t vs draft) := by
  induction vs generalizing draft with
  | nil => exact failsOnly_ok
  | cons v vs ih =>
    refine failsOnly_bind (failsOnly_typeOf v) fun newName => ?_
    refine failsOnly_bind ?_ fun draft => ih draft
    cases draft.addAlias t newName with
    | ok draft => exact failsOnly_ok
    | error taken => exact failsOnly_error rfl

theorem failsOnly_addEntrySupertype (t : MediaType) (entry : Toml.Table) (draft : Draft) :
    FailsOnly Invalid (addEntrySupertype t entry draft) := by
  unfold addEntrySupertype
  split
  · exact failsOnly_ok
  · exact failsOnly_map (failsOnly_typeOf _)

theorem failsOnly_singleBytes (s : String) : FailsOnly Invalid (singleBytes s) := by
  refine failsOnly_mapM fun c _ => ?_
  split
  · exact failsOnly_ok
  · exact failsOnly_error rfl

/-- An entry with a name fails only in ways that make it invalid. -/
theorem failsOnly_readEntry {entry : Toml.Table} {v : Toml.Value} (draft : Draft)
    (hname : Toml.find? "name" entry = some v) : FailsOnly Invalid (readEntry entry draft) := by
  unfold readEntry
  rw [hname]
  refine failsOnly_bind failsOnly_ok fun name => ?_
  refine failsOnly_bind (failsOnly_typeOf name) fun t => ?_
  refine failsOnly_bind (failsOnly_listUnder _ entry) fun names => ?_
  refine failsOnly_bind (failsOnly_addAliases _ names _) fun draft => ?_
  refine failsOnly_bind (failsOnly_addEntrySupertype _ entry draft) fun draft => ?_
  refine failsOnly_bind (failsOnly_listUnder _ entry) fun globs => ?_
  refine failsOnly_bind (failsOnly_listUnder _ entry) fun magic => ?_
  exact failsOnly_bind (failsOnly_mapM fun v _ => failsOnly_singleBytes _) fun _ => failsOnly_ok

/-- An entry without a name fails because the key is missing. -/
theorem readEntry_of_nameless {entry : Toml.Table} (draft : Draft)
    (hname : Toml.find? "name" entry = none) :
    readEntry entry draft = .error (.missingKey "name") := by
  unfold readEntry
  rw [hname]
  rfl

/-- An entry fails without being called invalid exactly when it has no name. -/
theorem readEntry_eq_error {entry : Toml.Table} {draft : Draft} (hf : makesInvalid f = false) :
    readEntry entry draft = .error f ↔
      Toml.find? "name" entry = none ∧ f = .missingKey "name" := by
  cases hname : Toml.find? "name" entry with
  | none =>
    rw [readEntry_of_nameless draft hname]
    simp [eq_comm]
  | some v =>
    simp only [reduceCtorEq, false_and, iff_false]
    intro h
    have hinvalid := failsOnly_readEntry draft hname f h
    rw [Invalid, hf] at hinvalid
    cases hinvalid

/-! ### All entries -/

/-- Whether the entries up to the first one without a name can be read, and there is such a one. -/
def HasNameless (source : String) (index : Nat) (rules : Assoc MediaType TypeRules)
    (draft : Draft) (entries : List Toml.Value) : Prop :=
  ∃ before entry after, entries = before ++ .table entry :: after ∧
    (∃ read, readEntries source index rules draft before = .ok read) ∧
    Toml.find? "name" entry = none

variable {source : String} {index : Nat} {rules : Assoc MediaType TypeRules} {draft : Draft}

theorem hasNameless_cons {entry : Toml.Table} {rule : TypeRules} {draft' : Draft}
    {rest : List Toml.Value} (h : readEntry entry draft = .ok (rule, draft')) :
    HasNameless source index rules draft (.table entry :: rest) ↔
      HasNameless source (index + 1) (rules.put rule.mediaType rule) draft' rest := by
  constructor
  · rintro ⟨before, e, after, heq, ⟨read, hread⟩, hname⟩
    cases before with
    | nil =>
      cases heq
      rw [readEntry_of_nameless draft hname] at h
      cases h
    | cons b before =>
      cases heq
      rw [readEntries, h] at hread
      exact ⟨before, e, after, rfl, ⟨read, hread⟩, hname⟩
  · rintro ⟨before, e, after, rfl, ⟨read, hread⟩, hname⟩
    refine ⟨.table entry :: before, e, after, rfl, ⟨read, ?_⟩, hname⟩
    rw [readEntries, h]
    exact hread

/-- Behind an entry that cannot be read no other is looked at, so it is itself the one without a
    name. -/
theorem nameless_of_unreadable {v : Toml.Value} {rest : List Toml.Value}
    (hv : ∀ before read, readEntries source index rules draft (v :: before) ≠ .ok read)
    (h : HasNameless source index rules draft (v :: rest)) :
    ∃ entry, v = .table entry ∧ Toml.find? "name" entry = none := by
  obtain ⟨before, e, after, heq, ⟨read, hread⟩, hname⟩ := h
  cases before with
  | nil =>
    cases heq
    exact ⟨e, rfl, hname⟩
  | cons b before =>
    cases heq
    exact absurd hread (hv before read)

/-- What escapes from reading entries is the missing name of one, behind readable ones. -/
theorem escapes_readEntries {entries : List Toml.Value} :
    Escapes f (readEntries source index rules draft entries) ↔
      HasNameless source index rules draft entries ∧ f = .missingKey "name" := by
  induction entries generalizing index rules draft with
  | nil => simp [readEntries, HasNameless]
  | cons v rest ih =>
    cases v with
    | table entry =>
      rw [readEntries]
      cases hentry : readEntry entry draft with
      | ok read =>
        obtain ⟨rule, draft'⟩ := read
        rw [hasNameless_cons hentry]
        exact ih
      | error g =>
        dsimp only
        cases hg : makesInvalid g with
        | true =>
          -- The entry has a name, so the first nameless one, if any, is never reached.
          rw [if_pos rfl]
          simp only [escapes_configuration, false_iff]
          rintro ⟨h, -⟩
          have hunreadable : ∀ before read,
              readEntries source index rules draft (.table entry :: before) ≠ .ok read := by
            intro before read hread
            rw [readEntries, hentry] at hread
            simp only [hg, if_true, reduceCtorEq] at hread
          obtain ⟨_, ⟨⟩, hname⟩ := nameless_of_unreadable hunreadable h
          rw [readEntry_of_nameless draft hname] at hentry
          cases hentry
          cases hg
        | false =>
          obtain ⟨hname, rfl⟩ := (readEntry_eq_error hg).mp hentry
          rw [if_neg Bool.false_ne_true]
          constructor
          · rintro ⟨heq, -⟩
            cases heq
            exact ⟨⟨[], entry, rest, rfl, ⟨_, rfl⟩, hname⟩, rfl⟩
          · rintro ⟨-, rfl⟩
            exact ⟨rfl, rfl⟩
    | _ =>
      simp only [readEntries, escapes_configuration, false_iff]
      rintro ⟨h, -⟩
      obtain ⟨_, heq, -⟩ := nameless_of_unreadable (fun _ _ hread => by cases hread) h
      cases heq

/-- Which entries can be read does not depend on the name of the source. -/
theorem readEntries_of_source {other : String} {index' : Nat} {entries : List Toml.Value}
    {read : Assoc MediaType TypeRules × Draft}
    (h : readEntries source index rules draft entries = .ok read) :
    readEntries other index' rules draft entries = .ok read := by
  induction entries generalizing index index' rules draft with
  | nil => exact h
  | cons v rest ih =>
    cases v with
    | table entry =>
      rw [readEntries] at h ⊢
      cases hentry : readEntry entry draft with
      | ok rule =>
        rw [hentry] at h
        exact ih h
      | error g =>
        rw [hentry] at h
        dsimp only at h
        split at h <;> cases h
    | _ => cases h

/-! ### The document -/

/-- What goes wrong in a text of a repository without being made a problem of the configuration: its
    tables are not read for a reason that is not expected, or an entry has no name. -/
inductive TextFault (reader : TableReader) (text : String) : Failure → Prop where
  | unexpected {f : Failure} (h : reader.read text = .error (.unexpected f)) :
      TextFault reader text f
  | nameless {document entries source} (hread : reader.read text = .ok document)
      (htypes : Toml.find? "types" document = some (.array entries))
      (h : HasNameless source 0 .empty .empty entries) :
      TextFault reader text (.missingKey "name")

/-- What escapes from a document is the missing name of one of its entries. -/
theorem escapes_ofTable (document : Toml.Table) (source : String) :
    Escapes f (ofTable document source).result ↔
      ∃ entries, Toml.find? "types" document = some (.array entries) ∧
        HasNameless source 0 .empty .empty entries ∧ f = .missingKey "name" := by
  -- What follows the entries cannot fail.
  have hrest : ∀ entries (rest : Assoc MediaType TypeRules × Draft → Traced Repository),
      (∀ read, ¬ Escapes f (rest read).result) →
        (Escapes f (Traced.ofExcept (readEntries source 0 .empty .empty entries) >>= rest).result ↔
          HasNameless source 0 .empty .empty entries ∧ f = .missingKey "name") := by
    intro entries rest hdone
    rw [escapes_result_bind, Traced.result_ofExcept, escapes_readEntries]
    simp only [hdone, and_false, exists_false, or_false]
  unfold ofTable
  split
  · rename_i htypes
    dsimp only
    rw [pure_bind, hrest [] _ fun _ => escapes_ok]
    simp [HasNameless, htypes]
  · rename_i entries htypes
    dsimp only
    rw [pure_bind, hrest entries _ fun _ => escapes_ok]
    simp [htypes]
  · rename_i v hne htypes
    rw [htypes]
    simp only [escapes_result_bind, Traced.result_fail, escapes_configuration, reduceCtorEq,
      false_and, exists_false, false_or, Option.some.injEq, false_iff]
    rintro ⟨entries, rfl, -⟩
    exact hne entries rfl

/-- The table of a document is what its reader makes of it. -/
theorem readDocument_eq_ok {reader : TableReader} {problem : ConfigProblem} {text : String}
    {document : Toml.Table} :
    readDocument reader problem text = .ok document ↔ reader.read text = .ok document := by
  unfold readDocument
  split <;> simp_all

/-- What escapes from reading tables is a failure that is not expected. -/
theorem escapes_readDocument {reader : TableReader} {problem : ConfigProblem} {text : String} :
    Escapes f (readDocument reader problem text) ↔ reader.read text = .error (.unexpected f) := by
  unfold readDocument
  cases hread : reader.read text with
  | ok document => simp
  | error fault =>
    cases fault with
    | malformed => simp
    | unexpected g =>
      have hforeign : g.isConfiguration = false :=
        Failure.isConfiguration_of_isForeign (reader.foreign text g hread)
      simp only [Escapes, Except.error.injEq, TableFault.unexpected.injEq]
      constructor
      · exact And.left
      · rintro rfl
        exact ⟨rfl, hforeign⟩

/-- **What escapes from reading a repository** is a failure of the reader that is not expected, or
    the missing name of an entry. -/
theorem escapes_readText (reader : TableReader) (text source : String) :
    Escapes f (readText reader text source).result ↔ TextFault reader text f := by
  unfold readText
  simp only [escapes_result_bind, Traced.result_ofExcept, escapes_readDocument,
    readDocument_eq_ok, escapes_ofTable]
  constructor
  · rintro (h | ⟨document, hread, entries, htypes, h, rfl⟩)
    · exact .unexpected h
    · exact .nameless hread htypes h
  · rintro (h | ⟨hread, htypes, h⟩)
    · exact .inl h
    · obtain ⟨before, entry, after, heq, ⟨read, hbefore⟩, hname⟩ := h
      refine .inr ⟨_, hread, _, htypes, ?_, rfl⟩
      exact ⟨before, entry, after, heq, ⟨read, readEntries_of_source hbefore⟩, hname⟩

end MediaGraph.Repository
