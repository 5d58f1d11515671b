import MediaGraph.Proofs.MediaType.WrittenForm
import MediaGraph.Proofs.Registry.Building
import MediaGraph.Proofs.Repository.Reading
import MediaGraph.Repository.Detection

namespace MediaGraph.Repository

/-!
# What becomes of the entries of a repository

An entry declares rules for its type, and other names for the type.  The rules of all entries go
into a map by type, so of several entries for one type the last one counts.  The other names go into
the registry, so an entry whose type is another name of a second type is passed over when the rules
of its type are asked for; in detection it takes part none the less.

* `declared`, `declarations` — what one entry declares; what all entries of a text do.
* `readEntries_eq_ok` — reading entries collects what they declare, each apart from the others.
* `LastFor` — the rules of a type; `StandsFor` — the type that a type stands for.
* `rules_of_readText` — what is told and what is detected with the rules of an entry.
-/

/-! ### One entry -/

/-- What an entry declares: rules for its type, and other names for the type. -/
structure Declaration where
  rule : TypeRules
  otherNames : List MediaType
  deriving Repr, DecidableEq

/-- What an entry declares, read apart from all other entries. -/
def declared (entry : Toml.Table) : Except Failure Declaration := do
  let name ←
    match Toml.find? "name" entry with
    | some v => Except.ok v
    | none => .error (.missingKey "name")
  let t := (← typeOf name).base
  let names ← (← listUnder "aliases" entry).mapM typeOf
  let description := ((Toml.find? "description" entry).map Toml.Value.display).getD ""
  let globs ← listUnder "globs" entry
  let magic ← (← listUnder "magic" entry).mapM fun v => singleBytes v.display
  return ⟨⟨t, description, globs.map Toml.Value.display, magic⟩, names.map MediaType.base⟩

/-- Whether the aliases of a draft are those of an earlier one and some other names of a type. -/
def Named (before after : Draft) (t : MediaType) (names : List MediaType) : Prop :=
  ∀ a c, after.aliases.get? a = some c ↔ before.aliases.get? a = some c ∨ c = t ∧ a ∈ names

section

variable {t : MediaType} {draft draft' : Draft}

/-- A value that writes a type writes it in normal form. -/
theorem normal_of_typeOf {v : Toml.Value} (h : typeOf v = .ok t) : t.Normal :=
  MediaType.normal_of_read (mapError_eq_ok.mp h)

/-- An alias that is taken in is another name of its type, and was no name of another one. -/
theorem named_addAlias {newName : MediaType} (h : draft.addAlias t newName = .ok draft') :
    Named draft draft' t.base [newName.base] := by
  obtain ⟨hfree, rfl⟩ := Draft.addAlias_eq_ok_iff.mp h
  intro a c
  show (draft.aliases.put newName.base t.base).get? a = some c ↔ _
  rw [Assoc.get?_put, List.mem_singleton]
  by_cases ha : newName.base = a
  · -- A name that is taken in again has the type that it had before.
    subst ha
    rw [if_pos rfl, Option.some.injEq]
    constructor
    · rintro rfl
      exact .inr ⟨rfl, rfl⟩
    · rintro (hc | ⟨rfl, -⟩)
      · exact (hfree c hc).symm
      · rfl
  · rw [if_neg ha]
    exact (or_iff_left fun h => ha h.2.symm).symm

/-- Names that are taken in one after another are taken in together. -/
theorem Named.trans {middle : Draft} {names more : List MediaType}
    (h : Named draft middle t names) (h' : Named middle draft' t more) :
    Named draft draft' t (names ++ more) := by
  intro a c
  rw [h' a c, h a c, List.mem_append, and_or_left, or_assoc]

/-- The listed other names are taken in, as they are read. -/
theorem addAliases_eq_ok {vs : List Toml.Value} (h : addAliases t vs draft = .ok draft') :
    ∃ names, vs.mapM typeOf = .ok names ∧ Named draft draft' t.base (names.map MediaType.base) := by
  induction vs generalizing draft with
  | nil =>
    cases h
    exact ⟨[], rfl, fun a c => by simp⟩
  | cons v vs ih =>
    obtain ⟨newName, hname, h⟩ := bind_eq_ok.mp h
    obtain ⟨middle, hadd, h⟩ := bind_eq_ok.mp h
    obtain ⟨names, hnames, hrest⟩ := ih h
    refine ⟨newName :: names, ?_, (named_addAlias (mapError_eq_ok.mp hadd)).trans hrest⟩
    rw [List.mapM_cons, hname, hnames]
    rfl

/-- Taking in other names keeps the form of a draft. -/
theorem sound_addAliases {vs : List Toml.Value} (hd : draft.Sound) (ht : t.Normal)
    (h : addAliases t vs draft = .ok draft') : draft'.Sound := by
  induction vs generalizing draft with
  | nil =>
    cases h
    exact hd
  | cons v vs ih =>
    obtain ⟨newName, hname, h⟩ := bind_eq_ok.mp h
    obtain ⟨middle, hadd, h⟩ := bind_eq_ok.mp h
    exact ih (hd.addAlias ht (normal_of_typeOf hname) (mapError_eq_ok.mp hadd)) h

/-- A supertype is no other name, and keeps the form of a draft. -/
theorem addEntrySupertype_eq_ok {entry : Toml.Table} (ht : t.Normal)
    (h : addEntrySupertype t entry draft = .ok draft') :
    draft'.aliases = draft.aliases ∧ (draft.Sound → draft'.Sound) := by
  unfold addEntrySupertype at h
  split at h
  · cases h
    exact ⟨rfl, id⟩
  · rename_i v _
    cases hsuper : typeOf v with
    | error f =>
      rw [hsuper] at h
      cases h
    | ok supertype =>
      rw [hsuper] at h
      cases h
      exact ⟨rfl, fun hd => hd.addSupertype ht (normal_of_typeOf hsuper)⟩

/-- **Reading an entry** gives the rules that it declares, whatever the draft, and takes in the
    other names that it declares. -/
theorem readEntry_eq_ok {entry : Toml.Table} {rule : TypeRules}
    (h : readEntry entry draft = .ok (rule, draft')) :
    ∃ d, declared entry = .ok d ∧ d.rule = rule ∧ rule.mediaType.base = rule.mediaType ∧
      Named draft draft' rule.mediaType d.otherNames ∧ (draft.Sound → draft'.Sound) := by
  cases hname : Toml.find? "name" entry with
  | none =>
    rw [readEntry_of_nameless draft hname] at h
    cases h
  | some name =>
    unfold readEntry at h
    rw [hname] at h
    obtain ⟨_, ⟨⟩, h⟩ := bind_eq_ok.mp h
    obtain ⟨t, ht, h⟩ := bind_eq_ok.mp h
    obtain ⟨listed, hlisted, h⟩ := bind_eq_ok.mp h
    obtain ⟨named, haliases, h⟩ := bind_eq_ok.mp h
    obtain ⟨linked, hlinked, h⟩ := bind_eq_ok.mp h
    obtain ⟨globs, hglobs, h⟩ := bind_eq_ok.mp h
    obtain ⟨signatures, hsignatures, h⟩ := bind_eq_ok.mp h
    obtain ⟨magic, hmagic, h⟩ := bind_eq_ok.mp h
    cases h
    have hnormal : t.base.Normal := (normal_of_typeOf ht).base
    obtain ⟨names, hnames, hnamed⟩ := addAliases_eq_ok haliases
    obtain ⟨hkept, hsound⟩ := addEntrySupertype_eq_ok hnormal hlinked
    refine ⟨⟨⟨t.base, _, globs.map Toml.Value.display, magic⟩, names.map MediaType.base⟩, ?_, rfl,
      MediaType.base_base t, ?_, ?_⟩
    · simp only [declared, hname, ht, hlisted, hnames, hglobs, hsignatures, hmagic, bind,
        Except.bind]
      rfl
    · intro a c
      rw [hkept]
      exact hnamed a c
    · intro hd
      exact hsound (sound_addAliases (hd.addType hnormal) hnormal haliases)

end

/-! ### All entries -/

/-- The aliases that come from some declarations: each for a type of which it is another name. -/
def AliasedBy (ds : List Declaration) (a c : MediaType) : Prop :=
  ∃ d ∈ ds, d.rule.mediaType = c ∧ a ∈ d.otherNames

/-- **Reading entries** collects what they declare, each of them read apart from the others: the
    rules are put by type, one after another, and the other names become aliases. -/
theorem readEntries_eq_ok {source : String} {index : Nat} {rules rules' : Assoc MediaType TypeRules}
    {draft draft' : Draft} {entries : List Toml.Value}
    (h : readEntries source index rules draft entries = .ok (rules', draft')) :
    ∃ (tables : List Toml.Table) (ds : List Declaration),
      entries = tables.map Toml.Value.table ∧ tables.mapM declared = .ok ds ∧
      rules' = rules.putAll (ds.map fun d => (d.rule.mediaType, d.rule)) ∧
      (∀ d ∈ ds, d.rule.mediaType.base = d.rule.mediaType) ∧ (draft.Sound → draft'.Sound) ∧
      ∀ a c, draft'.aliases.get? a = some c ↔ draft.aliases.get? a = some c ∨ AliasedBy ds a c := by
  induction entries generalizing index rules draft with
  | nil =>
    cases h
    exact ⟨[], [], rfl, rfl, rfl, nofun, id, fun a c => by simp [AliasedBy]⟩
  | cons v entries ih =>
    cases v with
    | table entry =>
      rw [readEntries] at h
      cases hentry : readEntry entry draft with
      | error f =>
        rw [hentry] at h
        dsimp only at h
        split at h <;> cases h
      | ok read =>
        obtain ⟨rule, middle⟩ := read
        rw [hentry] at h
        -- What the entry declares does not depend on the draft, so the rest is read as by itself.
        obtain ⟨d, hd, rfl, hbase, hnamed, hsound⟩ := readEntry_eq_ok hentry
        obtain ⟨tables, ds, rfl, hds, rfl, hbases, hsounds, haliases⟩ := ih h
        refine ⟨entry :: tables, d :: ds, rfl, ?_, rfl, ?_, fun h => hsounds (hsound h), ?_⟩
        · rw [List.mapM_cons, hd, hds]
          rfl
        · exact List.forall_mem_cons.mpr ⟨hbase, hbases⟩
        · intro a c
          rw [haliases a c, hnamed a c, or_assoc]
          simp only [AliasedBy, List.exists_mem_cons_iff, @eq_comm _ c]
    | _ => cases h

/-- The tables that a text lists as entries. -/
def tables (reader : TableReader) (text : String) : List Toml.Table :=
  match reader.read text with
  | .error _ => []
  | .ok document =>
    match Toml.find? "types" document with
    | some (.array entries) => entries.filterMap fun
      | .table entry => some entry
      | _ => none
    | _ => []

/-- What the entries of a text declare. -/
def declarations (reader : TableReader) (text : String) : Except Failure (List Declaration) :=
  (tables reader text).mapM declared

/-- The repository of a document is put together of what its entries give. -/
theorem ofTable_eq_ok {document : Toml.Table} {source : String} {r : Repository}
    (h : (ofTable document source).result = .ok r) :
    ∃ entries rules draft,
      (Toml.find? "types" document = some (.array entries) ∨
        Toml.find? "types" document = none ∧ entries = []) ∧
      readEntries source 0 .empty .empty entries = .ok (rules, draft) ∧
      r = ⟨draft.freeze, rules, source⟩ := by
  unfold ofTable at h
  split at h
  · rename_i htypes
    obtain ⟨_, ⟨⟩, h⟩ := result_bind_eq_ok.mp h
    obtain ⟨⟨rules, draft⟩, hentries, h⟩ := result_bind_eq_ok.mp h
    exact ⟨[], rules, draft, .inr ⟨htypes, rfl⟩, hentries, (Except.ok.inj h).symm⟩
  · rename_i entries htypes
    obtain ⟨_, ⟨⟩, h⟩ := result_bind_eq_ok.mp h
    obtain ⟨⟨rules, draft⟩, hentries, h⟩ := result_bind_eq_ok.mp h
    exact ⟨entries, rules, draft, .inl htypes, hentries, (Except.ok.inj h).symm⟩
  · obtain ⟨_, ⟨⟩, _⟩ := result_bind_eq_ok.mp h

/-- The tables of a text are its entries, where all of them are tables. -/
theorem tables_eq {reader : TableReader} {text : String} {document : Toml.Table}
    {entries : List Toml.Value} {tables : List Toml.Table} (hread : reader.read text = .ok document)
    (htypes : Toml.find? "types" document = some (.array entries) ∨
      Toml.find? "types" document = none ∧ entries = [])
    (hentries : entries = tables.map Toml.Value.table) : Repository.tables reader text = tables := by
  subst hentries
  unfold Repository.tables
  rcases htypes with htypes | ⟨htypes, hnone⟩
  · simp only [hread, htypes]
    rw [List.filterMap_map]
    exact List.filterMap_some
  · simp only [hread, htypes]
    exact (List.map_eq_nil_iff.mp hnone).symm

/-- **What a repository is made of**: the rules that the entries declare, put by type one after
    another, and the other names of their types. -/
theorem readText_eq_ok {reader : TableReader} {text source : String} {r : Repository}
    (h : (readText reader text source).result = .ok r) :
    ∃ ds, declarations reader text = .ok ds ∧
      r.rules = Assoc.empty.putAll (ds.map fun d => (d.rule.mediaType, d.rule)) ∧
      (∀ d ∈ ds, d.rule.mediaType.base = d.rule.mediaType) ∧ r.registry.thaw.Sound ∧
      ∀ a c, r.registry.aliases.get? a = some c ↔ AliasedBy ds a c := by
  obtain ⟨document, hdocument, h⟩ := result_bind_eq_ok.mp h
  have hread : reader.read text = .ok document := readDocument_eq_ok.mp hdocument
  obtain ⟨entries, rules, draft, htypes, hentries, rfl⟩ := ofTable_eq_ok h
  obtain ⟨tables, ds, htables, hds, rfl, hbases, hsound, haliases⟩ := readEntries_eq_ok hentries
  refine ⟨ds, ?_, rfl, hbases, hsound Draft.Sound.empty, fun a c => ?_⟩
  · rw [declarations, tables_eq hread htypes htables, hds]
  · have hempty : Draft.empty.aliases.get? a ≠ some c := nofun
    exact (haliases a c).trans (or_iff_right hempty)

/-! ### What is told, and what is detected -/

/-- The rules of the last declaration for a type. -/
def LastFor (ds : List Declaration) (t : MediaType) (rule : TypeRules) : Prop :=
  ∃ before d after, ds = before ++ d :: after ∧ d.rule = rule ∧ rule.mediaType = t ∧
    ∀ later ∈ after, later.rule.mediaType ≠ t

/-- The type that a name stands for: the one of which it is declared to be another name, else the
    type of that name. -/
def StandsFor (ds : List Declaration) (t c : MediaType) : Prop :=
  AliasedBy ds t c ∨ (∀ d ∈ ds, t ∉ d.otherNames) ∧ c = t

/-- Whether some rules hold all patterns and all signatures of others. -/
def Holds (info rule : TypeRules) : Prop := rule.globs ⊆ info.globs ∧ rule.magic ⊆ info.magic

section

variable {ds : List Declaration} {rule info : TypeRules} {t c : MediaType}

/-- The last rules that are put for a type are the last that are declared for it. -/
theorem get?_putAll_iff_lastFor :
    (Assoc.empty.putAll (ds.map fun d => (d.rule.mediaType, d.rule))).get? t = some rule ↔
      LastFor ds t rule := by
  have hempty : (Assoc.empty : Assoc MediaType TypeRules).get? t ≠ some rule := nofun
  rw [Assoc.get?_putAll_eq_some_iff, or_iff_left fun h => hempty h.2]
  constructor
  · rintro ⟨before, after, hsplit, hafter⟩
    obtain ⟨firsts, others, rfl, rfl, hothers⟩ := List.map_eq_append_iff.mp hsplit
    obtain ⟨d, lasts, rfl, hd, rfl⟩ := List.map_eq_cons_iff.mp hothers
    obtain ⟨htype, hrule⟩ := Prod.mk.inj hd
    subst hrule
    refine ⟨firsts, d, lasts, rfl, rfl, htype, fun later hlater => ?_⟩
    exact hafter (later.rule.mediaType, later.rule) (List.mem_map_of_mem hlater)
  · rintro ⟨before, d, after, rfl, rfl, rfl, hafter⟩
    refine ⟨before.map _, after.map _, by rw [List.map_append, List.map_cons], fun p hp => ?_⟩
    obtain ⟨later, hlater, rfl⟩ := List.mem_map.mp hp
    exact hafter later hlater

/-- A type for which something is declared has rules. -/
theorem exists_lastFor {d : Declaration} (hd : d ∈ ds) :
    ∃ rule, LastFor ds d.rule.mediaType rule := by
  induction ds generalizing d with
  | nil => cases hd
  | cons first ds ih =>
    by_cases hlater : ∃ later ∈ ds, later.rule.mediaType = d.rule.mediaType
    · obtain ⟨later, hmem, htype⟩ := hlater
      obtain ⟨rule, before, last, after, rfl, hrule, hlast, hafter⟩ := ih hmem
      rw [← htype]
      exact ⟨rule, first :: before, last, after, rfl, hrule, hlast, hafter⟩
    · -- Nothing behind the first declaration is for the type, so the first one is meant.
      have hfirst : d = first := by
        rcases List.mem_cons.mp hd with heq | hmem
        · exact heq
        · exact absurd ⟨d, hmem, rfl⟩ hlater
      subst hfirst
      exact ⟨d.rule, [], d, ds, rfl, rfl, rfl, fun later hmem htype => hlater ⟨later, hmem, htype⟩⟩

/-- The type of a declaration stands for some type that has rules. -/
theorem exists_standsFor {d : Declaration} (hd : d ∈ ds) :
    ∃ c rule, StandsFor ds d.rule.mediaType c ∧ LastFor ds c rule := by
  by_cases hlisted : ∃ owner ∈ ds, d.rule.mediaType ∈ owner.otherNames
  · obtain ⟨owner, howner, hname⟩ := hlisted
    obtain ⟨rule, hlast⟩ := exists_lastFor howner
    exact ⟨_, rule, .inl ⟨owner, howner, rfl, hname⟩, hlast⟩
  · have hself : ∀ owner ∈ ds, d.rule.mediaType ∉ owner.otherNames :=
      fun owner howner hname => hlisted ⟨owner, howner, hname⟩
    obtain ⟨rule, hlast⟩ := exists_lastFor hd
    exact ⟨_, rule, .inr ⟨hself, rfl⟩, hlast⟩

/-- The values of the map that is put are the last rules for their types. -/
theorem mem_values_iff_lastFor :
    rule ∈ (Assoc.empty.putAll (ds.map fun d => (d.rule.mediaType, d.rule))).values ↔
      LastFor ds rule.mediaType rule := by
  constructor
  · intro h
    obtain ⟨⟨key, value⟩, he, rfl⟩ := List.mem_map.mp h
    -- Rules are put under their own type, and different keys make every entry an answer.
    have hkey : key = value.mediaType := by
      rcases Assoc.mem_entries_of_mem_putAll he with he | he
      · obtain ⟨d, -, heq⟩ := List.mem_map.mp he
        cases heq
        rfl
      · cases he
    subst hkey
    have hempty : (Assoc.empty : Assoc MediaType TypeRules).keys.Nodup := List.nodup_nil
    have hnodup := Assoc.nodup_keys_putAll hempty (ds.map fun d => (d.rule.mediaType, d.rule))
    exact get?_putAll_iff_lastFor.mp ((Assoc.mem_entries_iff_get? hnodup).mp he)
  · intro h
    exact Assoc.mem_values_of_get? (get?_putAll_iff_lastFor.mpr h)

/-- The types that some part of their rules leads to are those whose last rules hold such a
    part. -/
theorem mem_candidates_iff {β : Type} {rules : Assoc MediaType TypeRules}
    {parts : TypeRules → List β} {fits : β → Bool} {weight : β → Nat} {n : Nat}
    (hrules : rules = Assoc.empty.putAll (ds.map fun d => (d.rule.mediaType, d.rule))) :
    (n, t) ∈ (rules.values.flatMap fun rule =>
        ((parts rule).filter fits).map fun part => (weight part, rule.mediaType)) ↔
      ∃ info, LastFor ds t info ∧ ∃ part ∈ parts info, fits part = true ∧ weight part = n := by
  subst hrules
  simp only [List.mem_flatMap, mem_values_iff_lastFor, List.mem_map, List.mem_filter,
    Prod.mk.injEq]
  constructor
  · rintro ⟨info, hinfo, part, ⟨hpart, hfits⟩, hweight, rfl⟩
    exact ⟨info, hinfo, part, hpart, hfits, hweight⟩
  · rintro ⟨info, hinfo, part, hpart, hfits, hweight⟩
    have ht : info.mediaType = t := by
      obtain ⟨_, _, _, _, _, ht, _⟩ := hinfo
      exact ht
    subst ht
    exact ⟨info, hinfo, part, ⟨hpart, hfits⟩, hweight, rfl⟩

/-- What a name stands for is what its alias says, else the name. -/
theorem standsFor_iff {aliases : Assoc MediaType MediaType}
    (h : ∀ a c, aliases.get? a = some c ↔ AliasedBy ds a c) :
    StandsFor ds t c ↔ (aliases.get? t).getD t = c := by
  unfold StandsFor
  rw [← h]
  -- A name that is listed somewhere is an alias, and a name that is not is none.
  cases halias : aliases.get? t with
  | some u =>
    obtain ⟨d, hd, -, ht⟩ := (h t u).mp halias
    have hlisted : ¬ ∀ d ∈ ds, t ∉ d.otherNames := fun hno => hno d hd ht
    simp [hlisted]
  | none =>
    have hunlisted : ∀ d ∈ ds, t ∉ d.otherNames := by
      intro d hd ht
      have hsome : aliases.get? t = some d.rule.mediaType := (h t _).mpr ⟨d, hd, rfl, ht⟩
      rw [halias] at hsome
      cases hsome
    simp only [reduceCtorEq, false_or, Option.getD_none]
    constructor
    · rintro ⟨-, rfl⟩
      rfl
    · rintro rfl
      exact ⟨hunlisted, rfl⟩

/-- The rules that are told for a name are the last ones for the type that it stands for. -/
theorem rulesFor?_eq_some_iff {r : Repository}
    (hrules : r.rules = Assoc.empty.putAll (ds.map fun d => (d.rule.mediaType, d.rule)))
    (hsound : r.registry.thaw.Sound)
    (haliases : ∀ a c, r.registry.aliases.get? a = some c ↔ AliasedBy ds a c) :
    r.rulesFor? t = some info ↔ ∃ c, StandsFor ds t.base c ∧ LastFor ds c info := by
  unfold rulesFor?
  rw [Registry.base_normalize hsound, hrules, get?_putAll_iff_lastFor]
  simp only [standsFor_iff haliases, exists_eq_left']

end

/-- **What becomes of the entries.**  Every repository that is read from a text answers with the
    rules of the last entry for the type that a name stands for, and detects by the patterns and
    the signatures of the last entry for each type.  So it has an answer for the type of every
    entry, and the answer holds all that the entry declares exactly where that last entry does. -/
theorem rules_of_readText {reader : TableReader} {text source : String} {r : Repository}
    (h : (readText reader text source).result = .ok r) :
    ∃ ds, declarations reader text = .ok ds ∧
      (∀ t info, r.rulesFor? t = some info ↔ ∃ c, StandsFor ds t.base c ∧ LastFor ds c info) ∧
      (∀ base n t, (n, t) ∈ r.nameCandidates base ↔
        ∃ info, LastFor ds t info ∧ ∃ pattern ∈ info.globs,
          Text.globMatches (Text.lower pattern) base = true ∧ pattern.length = n) ∧
      (∀ head n t, (n, t) ∈ r.magicCandidates head ↔
        ∃ info, LastFor ds t info ∧ ∃ signature ∈ info.magic,
          signature.isPrefixOf head = true ∧ signature.length = n) ∧
      ∀ d ∈ ds, (∃ info, r.rulesFor? d.rule.mediaType = some info) ∧
        ((∃ info, r.rulesFor? d.rule.mediaType = some info ∧ Holds info d.rule) ↔
          ∃ c info, StandsFor ds d.rule.mediaType c ∧ LastFor ds c info ∧ Holds info d.rule) := by
  obtain ⟨ds, hds, hrules, hbases, hsound, haliases⟩ := readText_eq_ok h
  have hinfo : ∀ t info, r.rulesFor? t = some info ↔
      ∃ c, StandsFor ds t.base c ∧ LastFor ds c info := fun t info =>
    rulesFor?_eq_some_iff hrules hsound haliases
  refine ⟨ds, hds, hinfo, fun base n t => mem_candidates_iff hrules,
    fun head n t => mem_candidates_iff hrules, fun d hd => ?_⟩
  simp only [hinfo, hbases d hd]
  obtain ⟨c, info, hstands, hlast⟩ := exists_standsFor hd
  refine ⟨⟨info, c, hstands, hlast⟩, ?_⟩
  constructor
  · rintro ⟨info, ⟨c, hc, hlast⟩, hholds⟩
    exact ⟨c, info, hc, hlast, hholds⟩
  · rintro ⟨c, info, hc, hlast, hholds⟩
    exact ⟨info, ⟨c, hc, hlast⟩, hholds⟩

/-! ### Entries that are passed over -/

/-- A type that is registered nowhere else. -/
def sampleType (subtype : String) : MediaType := ⟨"application", subtype, []⟩

/-- Two entries, of which the first gives the type of the second as another name of its own. -/
def aliasedText : String :=
  "[[types]]\nname = \"application/x-a\"\naliases = [\"application/x-b\"]\n" ++
    "globs = [\"*.one\"]\n\n[[types]]\nname = \"application/x-b\"\nglobs = [\"*.two\"]\n"

/-- What these entries declare. -/
def aliasedDeclarations : List Declaration :=
  [⟨⟨sampleType "x-a", "", ["*.one"], []⟩, [sampleType "x-b"]⟩,
    ⟨⟨sampleType "x-b", "", ["*.two"], []⟩, []⟩]

/-- For the type of the second entry the rules of the first one are told; the pattern of the second
    one takes part in detection all the same. -/
theorem rules_of_readText_aliased :
    ∃ r, (readText .own aliasedText "<string>").result = .ok r ∧
      declarations .own aliasedText = .ok aliasedDeclarations ∧
      r.rulesFor? (sampleType "x-b") = some ⟨sampleType "x-a", "", ["*.one"], []⟩ ∧
      (5, sampleType "x-b") ∈ r.nameCandidates "file.two" := by
  obtain ⟨r, hr⟩ : ∃ r, (readText .own aliasedText "<string>").result.toOption = some r :=
    Option.isSome_iff_exists.mp (by decide +kernel)
  have hread : (readText .own aliasedText "<string>").result = .ok r := toOption_eq_some.mp hr
  have hds : declarations .own aliasedText = .ok aliasedDeclarations :=
    toOption_eq_some.mp (by decide +kernel)
  obtain ⟨_, hds', hinfo, hnames, -⟩ := rules_of_readText hread
  rw [hds] at hds'
  cases hds'
  have hfirst : LastFor aliasedDeclarations (sampleType "x-a")
      ⟨sampleType "x-a", "", ["*.one"], []⟩ := ⟨[], _, _, rfl, rfl, rfl, by decide⟩
  have hsecond : LastFor aliasedDeclarations (sampleType "x-b")
      ⟨sampleType "x-b", "", ["*.two"], []⟩ := ⟨[_], _, [], rfl, rfl, rfl, nofun⟩
  refine ⟨r, hread, hds, (hinfo _ _).mpr ⟨sampleType "x-a", .inl ?_, hfirst⟩,
    (hnames _ _ _).mpr ⟨_, hsecond, "*.two", List.mem_singleton.mpr rfl, by decide +kernel, rfl⟩⟩
  exact ⟨_, List.mem_cons_self, rfl, List.mem_singleton.mpr rfl⟩

/-- Two entries for one type. -/
def repeatedText : String :=
  "[[types]]\nname = \"application/x-a\"\nglobs = [\"*.one\"]\n\n" ++
    "[[types]]\nname = \"application/x-a\"\nglobs = [\"*.two\"]\n"

/-- What the first of them declares. -/
def firstRule : TypeRules := ⟨sampleType "x-a", "", ["*.one"], []⟩

/-- What the second of them declares. -/
def secondRule : TypeRules := ⟨sampleType "x-a", "", ["*.two"], []⟩

/-- A repository is read from the two entries, and the first of them is lost: its pattern is not
    among the rules of the type, and the name of a resource is not recognized by it. -/
theorem readText_repeated :
    ∃ r, (readText .own repeatedText "<string>").result = .ok r ∧
      declarations .own repeatedText = .ok [⟨firstRule, []⟩, ⟨secondRule, []⟩] ∧
      r.rulesFor? firstRule.mediaType = some secondRule ∧ ¬ Holds secondRule firstRule ∧
      r.byName? "file.one" = none := by
  have hread : (readText .own repeatedText "<string>").result
      = .ok ⟨⟨[sampleType "x-a"], .empty, .empty⟩, ⟨[(sampleType "x-a", secondRule)]⟩,
          "<string>"⟩ := toOption_eq_some.mp (by decide +kernel)
  have hds : declarations .own repeatedText = .ok [⟨firstRule, []⟩, ⟨secondRule, []⟩] :=
    toOption_eq_some.mp (by decide +kernel)
  refine ⟨_, hread, hds, by decide +kernel, ?_, by decide +kernel⟩
  rintro ⟨hglobs, -⟩
  exact absurd (hglobs (List.mem_singleton.mpr rfl)) (by decide)

end MediaGraph.Repository
