import Mathlib.Data.List.Pairwise
import MediaGraph.Proofs.Repository.Declarations
import MediaGraph.Proofs.Repository.Longest

namespace MediaGraph.Repository

/-!
# The order of the entries of a repository

Reading goes through the entries of a repository one by one and adds each to what the earlier ones
left.  What an entry states does not depend on the others, and an entry is refused only for a name
that another one gives to a different type, whichever of them comes first.  So entries for different
types may be listed in any order.

* `Statement`, `stated` — what one entry states, read apart from the others.
* `readEntry_eq_ok_iff` — an entry is taken in where it states something and its names are free.
* `readEntries_eq_ok_iff`, `readText_eq_ok_iff` — a repository is assembled of what its entries
  state.
* `alike_assembled` — repositories that are assembled in different orders.
* `heaviest_weighed_of_perm` — the longest rule in any order.
* `readText_of_perm` — texts that list the same entries.
-/

/-! ### One entry -/

/-- What an entry states: what it declares, and the supertype of its type, if it names one. -/
structure Statement where
  declaration : Declaration
  supertype : Option MediaType
  deriving Repr, DecidableEq

/-- The supertype that an entry names, read apart from all others. -/
def supertypeOf (entry : Toml.Table) : Except Failure (Option MediaType) :=
  match (Toml.find? "supertype" entry).filter (·.isTrue) with
  | none => .ok none
  | some v => (typeOf v).map fun s => some s.base

/-- What an entry states, read apart from all others. -/
def stated (entry : Toml.Table) : Except Failure Statement := do
  let declaration ← declared entry
  return ⟨declaration, ← supertypeOf entry⟩

namespace Statement

variable {s s' : Statement} {draft : Draft}

/-- The type for which something is stated. -/
def type (s : Statement) : MediaType := s.declaration.rule.mediaType

/-- The other names of the type. -/
def names (s : Statement) : List MediaType := s.declaration.otherNames

/-- The signatures by which the type is recognized. -/
def magic (s : Statement) : List Bytes := s.declaration.rule.magic

/-- The other names of the type, each with the type. -/
def aliases (s : Statement) : List (MediaType × MediaType) := s.names.map fun a => (a, s.type)

/-- The type with its supertype, if one is named. -/
def links (s : Statement) : List (MediaType × MediaType) :=
  s.supertype.toList.map fun u => (s.type, u)

/-- The draft to which a statement is added, whatever it held before. -/
def addTo (s : Statement) (draft : Draft) : Draft where
  types := TypeSet.insert s.type draft.types
  aliases := draft.aliases.putAll s.aliases
  links := draft.links.putAll s.links

/-- Whether no other name of the type is one of another type in a draft. -/
def Free (s : Statement) (draft : Draft) : Prop :=
  ∀ a ∈ s.names, ∀ c, draft.aliases.get? a = some c → c = s.type

/-- Whether two statements are for one type where they have a part in common. -/
def Agree {β : Type} (parts : Statement → List β) (s s' : Statement) : Prop :=
  ∀ a ∈ parts s, a ∈ parts s' → s.type = s'.type

instance {β : Type} (parts : Statement → List β) : Std.Symm (Agree parts) :=
  ⟨fun _ _ h a ha ha' => (h a ha' ha).symm⟩

/-- The parts of statements that agree belong to one type each. -/
theorem consistent_of_agree {β : Type} {parts : Statement → List β} {ss : List Statement}
    (hagree : ss.Pairwise (Agree parts)) :
    Assoc.Consistent (ss.flatMap fun s => (parts s).map fun a => (a, s.type)) := by
  intro a t t' ht ht'
  obtain ⟨s, hs, hpart⟩ := List.mem_flatMap.mp ht
  obtain ⟨s', hs', hpart'⟩ := List.mem_flatMap.mp ht'
  obtain ⟨_, ha, ⟨⟩⟩ := List.mem_map.mp hpart
  obtain ⟨_, ha', heq⟩ := List.mem_map.mp hpart'
  obtain ⟨rfl, rfl⟩ := Prod.mk.inj heq
  exact hagree.forall_of_forall (fun _ _ _ _ _ => rfl) hs hs' _ ha ha'

theorem mem_aliases {a c : MediaType} :
    (a, c) ∈ s.aliases ↔ a ∈ s.names ∧ c = s.type := by
  simp [aliases, eq_comm]

theorem consistent_aliases (s : Statement) : Assoc.Consistent s.aliases := by
  intro a c c' hc hc'
  rw [(mem_aliases.mp hc).2, (mem_aliases.mp hc').2]

/-- The names of a statement stay free when another one is added with which it agrees. -/
theorem free_addTo (hfree : s.Free draft) :
    s'.Free (s.addTo draft) ↔ s'.Free draft ∧ Agree names s s' := by
  have hget : ∀ a c, (s.addTo draft).aliases.get? a = some c ↔ (a, c) ∈ s.aliases ∨
      (∀ p ∈ s.aliases, p.1 ≠ a) ∧ draft.aliases.get? a = some c :=
    fun a c => Assoc.get?_putAll_of_consistent s.consistent_aliases
  unfold Free
  simp only [hget, mem_aliases]
  constructor
  · intro h
    have hagree : Agree names s s' := fun a ha ha' => h a ha' _ (.inl ⟨ha, rfl⟩)
    refine ⟨fun a ha c hc => ?_, hagree⟩
    by_cases hname : a ∈ s.names
    · rw [hfree a hname c hc]
      exact hagree a hname ha
    · refine h a ha c (.inr ⟨?_, hc⟩)
      rintro ⟨a', c'⟩ hp rfl
      exact hname (mem_aliases.mp hp).1
  · rintro ⟨h, hagree⟩ a ha c (⟨hname, rfl⟩ | ⟨-, hc⟩)
    · exact hagree a hname ha
    · exact h a ha c hc

end Statement

section

variable {t : MediaType} {draft draft' : Draft} {entry : Toml.Table}

/-- A type that a draft holds is not added again. -/
theorem addType_of_mem (h : t.base ∈ draft.types) : draft.addType t = draft := by
  rw [Draft.addType, TypeSet.insert, if_pos h]

/-- **The listed other names** are taken in where all of them can be read and none is a name of
    another type. -/
theorem addAliases_eq_ok_iff {vs : List Toml.Value} (hbase : t.base = t) (ht : t ∈ draft.types) :
    addAliases t vs draft = .ok draft' ↔
      ∃ names, vs.mapM typeOf = .ok names ∧
        (∀ n ∈ names, ∀ c, draft.aliases.get? n.base = some c → c = t) ∧
        { draft with aliases := draft.aliases.putAll (names.map fun n => (n.base, t)) }
          = draft' := by
  induction vs generalizing draft with
  | nil =>
    simp only [addAliases, List.mapM_nil]
    constructor
    · rintro ⟨⟩
      exact ⟨[], rfl, List.forall_mem_nil _, rfl⟩
    · rintro ⟨_, ⟨⟩, -, rfl⟩
      rfl
  | cons v vs ih =>
    simp only [addAliases, List.mapM_cons, bind_eq_ok, mapError_eq_ok, Draft.addAlias_eq_ok_iff,
      hbase, addType_of_mem (hbase ▸ ht)]
    -- A name that was just taken in is a name of the same type.
    have hput : ∀ n a : MediaType, (∀ c, (draft.aliases.put n t).get? a = some c → c = t) ↔
        n = a ∨ ∀ c, draft.aliases.get? a = some c → c = t := by
      intro n a
      rw [Assoc.get?_put]
      by_cases hn : n = a <;> simp [hn, eq_comm]
    constructor
    · rintro ⟨n, hn, middle, ⟨hfree, rfl⟩, hrest⟩
      obtain ⟨names, hnames, hnamed, rfl⟩ := (@ih { draft with
        aliases := draft.aliases.put n.base t } ht).mp hrest
      refine ⟨n :: names, ⟨n, hn, names, hnames, rfl⟩, List.forall_mem_cons.mpr ⟨hfree, ?_⟩, rfl⟩
      intro n' hn'
      rcases (hput _ _).mp (hnamed n' hn') with heq | h
      · exact heq ▸ hfree
      · exact h
    · rintro ⟨_, ⟨n, hn, names, hnames, ⟨⟩⟩, hnamed, rfl⟩
      obtain ⟨hfree, hrest⟩ := List.forall_mem_cons.mp hnamed
      refine ⟨n, hn, _, ⟨hfree, rfl⟩, (@ih { draft with
        aliases := draft.aliases.put n.base t } ht).mpr ⟨names, hnames, fun n' hn' => ?_, rfl⟩⟩
      exact (hput _ _).mpr (.inr (hrest n' hn'))

/-- A supertype is recorded where it can be read. -/
theorem addEntrySupertype_eq_ok_iff (hbase : t.base = t) (ht : t ∈ draft.types) :
    addEntrySupertype t entry draft = .ok draft' ↔
      ∃ u, supertypeOf entry = .ok u ∧
        { draft with links := draft.links.putAll (u.toList.map fun u => (t, u)) } = draft' := by
  unfold addEntrySupertype supertypeOf
  cases (Toml.find? "supertype" entry).filter (·.isTrue) with
  | none => simp [Assoc.putAll]
  | some v =>
    dsimp only
    cases typeOf v with
    | error f => simp [Except.map]
    | ok u =>
      simp [Except.map, Draft.addSupertype, addType_of_mem (hbase ▸ ht), hbase, Assoc.putAll]

/-- **Reading an entry** adds what it states, where it states something and the other names of its
    type are free. -/
theorem readEntry_eq_ok_iff {rule : TypeRules} :
    readEntry entry draft = .ok (rule, draft') ↔
      ∃ s, stated entry = .ok s ∧ s.Free draft ∧ s.declaration.rule = rule ∧
        s.addTo draft = draft' := by
  cases hname : Toml.find? "name" entry with
  | none =>
    rw [readEntry_of_nameless draft hname]
    simp only [reduceCtorEq, false_iff]
    rintro ⟨s, hs, -⟩
    rw [stated, declared, hname] at hs
    cases hs
  | some name =>
    -- The type of the entry is in the draft when the rest of the entry is looked at.
    have hmem : ∀ t : MediaType, t.base ∈ (draft.addType t.base).types := fun t =>
      Draft.mem_types_addType.mpr (.inl (MediaType.base_base t).symm)
    unfold readEntry stated declared
    simp only [hname, bind_eq_ok, Except.ok.injEq, exists_eq_left', pure, Except.pure,
      Prod.mk.injEq]
    constructor
    · rintro ⟨t, ht, listed, hlisted, named, haliases, linked, hlinked, globs, hglobs, signatures,
        hsignatures, magic, hmagic, hrule, rfl⟩
      obtain ⟨names, hnames, hfree, rfl⟩ :=
        (addAliases_eq_ok_iff (MediaType.base_base t) (hmem t)).mp haliases
      obtain ⟨u, hu, rfl⟩ :=
        (addEntrySupertype_eq_ok_iff (MediaType.base_base t) (by exact hmem t)).mp hlinked
      refine ⟨_, ⟨_, ⟨t, ht, listed, hlisted, names, hnames, globs, hglobs, signatures,
        hsignatures, magic, hmagic, rfl⟩, u, hu, rfl⟩, List.forall_mem_map.mpr hfree, hrule, ?_⟩
      simp only [Statement.addTo, Statement.aliases, Statement.names, Statement.links,
        Statement.type, List.map_map]
      rfl
    · rintro ⟨_, ⟨_, ⟨t, ht, listed, hlisted, names, hnames, globs, hglobs, signatures,
        hsignatures, magic, hmagic, rfl⟩, u, hu, rfl⟩, hfree, hrule, rfl⟩
      refine ⟨t, ht, listed, hlisted, _, (addAliases_eq_ok_iff (MediaType.base_base t)
        (hmem t)).mpr ⟨names, hnames, List.forall_mem_map.mp hfree, rfl⟩, _,
        (addEntrySupertype_eq_ok_iff (MediaType.base_base t) (by exact hmem t)).mpr ⟨u, hu, rfl⟩,
        globs, hglobs, signatures, hsignatures, magic, hmagic, hrule, ?_⟩
      simp only [Statement.addTo, Statement.aliases, Statement.names, Statement.links,
        Statement.type, List.map_map]
      rfl

end

/-! ### All entries -/

section

variable {tables : List Toml.Table} {ss ss' : List Statement} {draft : Draft}

/-- The draft to which some statements are added one after another. -/
def addAll (ss : List Statement) (draft : Draft) : Draft :=
  ss.foldl (fun draft s => s.addTo draft) draft

/-- The rules that are stated, each with its type. -/
def ruled (ss : List Statement) : List (MediaType × TypeRules) :=
  ss.map fun s => (s.type, s.declaration.rule)

/-- **Reading entries** adds what they state, where each of them states something, names that are
    free, and no two of them give a name to different types. -/
theorem readEntries_eq_ok_iff {source : String} {index : Nat}
    {rules rules' : Assoc MediaType TypeRules} {draft' : Draft} :
    readEntries source index rules draft (tables.map .table) = .ok (rules', draft') ↔
      ∃ ss, tables.mapM stated = .ok ss ∧ (∀ s ∈ ss, s.Free draft) ∧
        ss.Pairwise (Statement.Agree Statement.names) ∧ rules.putAll (ruled ss) = rules' ∧
        addAll ss draft = draft' := by
  induction tables generalizing index rules draft with
  | nil =>
    simp only [List.map_nil, readEntries, List.mapM_nil]
    constructor
    · rintro ⟨⟩
      exact ⟨[], rfl, List.forall_mem_nil _, .nil, rfl, rfl⟩
    · rintro ⟨_, ⟨⟩, -, -, rfl, rfl⟩
      rfl
  | cons entry tables ih =>
    rw [List.map_cons, readEntries]
    simp only [List.mapM_cons, bind_eq_ok]
    cases hentry : readEntry entry draft with
    | error f =>
      -- Where the first entry is refused, it states nothing or one of its names is not free.
      have hrefused : ∀ s, stated entry = .ok s → ¬ s.Free draft := fun s hs hfree => by
        cases hentry.symm.trans (readEntry_eq_ok_iff.mpr ⟨s, hs, hfree, rfl, rfl⟩)
      constructor
      · intro h
        dsimp only at h
        split at h <;> cases h
      · rintro ⟨_, ⟨s, hs, ss, -, ⟨⟩⟩, hfree, -⟩
        exact absurd (hfree s List.mem_cons_self) (hrefused s hs)
    | ok read =>
      obtain ⟨rule, middle⟩ := read
      obtain ⟨s, hs, hfree, rfl, rfl⟩ := readEntry_eq_ok_iff.mp hentry
      -- The names of the others are free behind the first one where they are free in front of it
      -- and agree with it.
      have hfrees : ∀ ss : List Statement, (∀ s' ∈ ss, s'.Free (s.addTo draft)) ↔
          (∀ s' ∈ ss, s'.Free draft) ∧ ∀ s' ∈ ss, Statement.Agree Statement.names s s' := by
        intro ss
        simp only [Statement.free_addTo hfree, ← forall₂_and]
      dsimp only
      rw [ih]
      constructor
      · rintro ⟨ss, hss, hfreed, hagree, rfl, rfl⟩
        obtain ⟨hothers, hfirst⟩ := (hfrees ss).mp hfreed
        exact ⟨s :: ss, ⟨s, hs, ss, hss, rfl⟩, List.forall_mem_cons.mpr ⟨hfree, hothers⟩,
          List.pairwise_cons.mpr ⟨hfirst, hagree⟩, rfl, rfl⟩
      · rintro ⟨_, ⟨s', hs', ss, hss, ⟨⟩⟩, hfreed, hagree, rfl, rfl⟩
        cases hs.symm.trans hs'
        obtain ⟨hfirst, hagree⟩ := List.pairwise_cons.mp hagree
        obtain ⟨-, hothers⟩ := List.forall_mem_cons.mp hfreed
        exact ⟨ss, hss, (hfrees ss).mpr ⟨hothers, hfirst⟩, hagree, rfl, rfl⟩

/-- Whether a text lists some tables as its entries. -/
def Lists (reader : TableReader) (text : String) (tables : List Toml.Table) : Prop :=
  ∃ document, reader.read text = .ok document ∧
    (Toml.find? "types" document = some (.array (tables.map .table)) ∨
      Toml.find? "types" document = none ∧ tables = [])

/-- The repository that is assembled of some statements. -/
def assembled (ss : List Statement) (source : String) : Repository :=
  ⟨(addAll ss .empty).freeze, Assoc.empty.putAll (ruled ss), source⟩

/-- A document gives a repository where its entries can be read. -/
theorem ofTable_eq_ok_iff {document : Toml.Table} {source : String} {r : Repository}
    (htypes : Toml.find? "types" document = some (.array (tables.map .table)) ∨
      Toml.find? "types" document = none ∧ tables = []) :
    (ofTable document source).result = .ok r ↔
      ∃ rules draft, readEntries source 0 .empty .empty (tables.map .table) = .ok (rules, draft) ∧
        ⟨draft.freeze, rules, source⟩ = r := by
  unfold ofTable
  -- What follows the entries is reported and put together.
  rcases htypes with htypes | ⟨htypes, rfl⟩
  all_goals
    rw [htypes]
    simp only [pure_bind, result_bind_eq_ok, Traced.result_ofExcept, Prod.exists]
    exact exists₂_congr fun rules draft => and_congr_right fun _ =>
      ⟨fun ⟨_, _, _, _, h⟩ => Except.ok.inj h, fun h => ⟨(), rfl, (), rfl, congrArg Except.ok h⟩⟩

/-- **A repository is assembled** of what its entries state, and can be read exactly where each of
    them states something and no two give a name to different types. -/
theorem readText_eq_ok_iff {reader : TableReader} {text source : String} {r : Repository}
    (h : Lists reader text tables) :
    (readText reader text source).result = .ok r ↔
      ∃ ss, tables.mapM stated = .ok ss ∧ ss.Pairwise (Statement.Agree Statement.names) ∧
        assembled ss source = r := by
  obtain ⟨document, hread, htypes⟩ := h
  -- Every name is free in the draft without entries.
  have hfree : ∀ s : Statement, s.Free .empty := fun s a _ c hc => by cases hc
  unfold readText
  rw [result_bind_eq_ok]
  simp only [Traced.result_ofExcept, readDocument_eq_ok, hread, Except.ok.injEq, exists_eq_left',
    ofTable_eq_ok_iff htypes, readEntries_eq_ok_iff, hfree, implies_true, true_and]
  constructor
  · rintro ⟨_, _, ⟨ss, hss, hagree, rfl, rfl⟩, rfl⟩
    exact ⟨ss, hss, hagree, rfl⟩
  · rintro ⟨ss, hss, hagree, rfl⟩
    exact ⟨_, _, ⟨ss, hss, hagree, rfl, rfl⟩, rfl⟩

/-! ### What is assembled -/

/-- The types of a draft after statements are added. -/
theorem mem_types_addAll {t : MediaType} :
    t ∈ (addAll ss draft).types ↔ (∃ s ∈ ss, s.type = t) ∨ t ∈ draft.types := by
  induction ss generalizing draft with
  | nil => simp [addAll]
  | cons s ss ih =>
    have hadd : t ∈ (s.addTo draft).types ↔ t = s.type ∨ t ∈ draft.types :=
      TypeSet.mem_insert s.type t draft.types
    change t ∈ (addAll ss (s.addTo draft)).types ↔ _
    rw [ih, hadd, List.exists_mem_cons_iff, or_left_comm, or_assoc, @eq_comm _ t]

/-- A map in a draft to which every statement puts something holds all of it after the statements
    are added. -/
theorem map_addAll (map : Draft → Assoc MediaType MediaType)
    (parts : Statement → List (MediaType × MediaType))
    (hput : ∀ s draft, map (s.addTo draft) = (map draft).putAll (parts s)) :
    map (addAll ss draft) = (map draft).putAll (ss.flatMap parts) := by
  induction ss generalizing draft with
  | nil => rfl
  | cons s ss ih =>
    change map (addAll ss (s.addTo draft)) = _
    rw [ih, hput, List.flatMap_cons, Assoc.putAll_append]

/-- Statements for different types record one supertype for each. -/
theorem consistent_links (hnodup : (ss.map Statement.type).Nodup) :
    Assoc.Consistent (ss.flatMap Statement.links) := by
  have hlinks : ∀ t u, (t, u) ∈ ss.flatMap Statement.links ↔
      ∃ s ∈ ss, s.supertype = some u ∧ s.type = t := by
    simp [Statement.links]
  intro t u u' hu hu'
  obtain ⟨s, hs, hsuper, rfl⟩ := (hlinks t u).mp hu
  obtain ⟨s', hs', hsuper', htype⟩ := (hlinks _ u').mp hu'
  cases List.inj_on_of_nodup_map hnodup hs hs' htype.symm
  exact Option.some.inj (hsuper.symm.trans hsuper')

/-- Statements for different types give rules to each. -/
theorem consistent_ruled (hnodup : (ss.map Statement.type).Nodup) :
    Assoc.Consistent (ruled ss) := by
  intro t rule rule' hrule hrule'
  obtain ⟨s, hs, ⟨⟩⟩ := List.mem_map.mp hrule
  obtain ⟨s', hs', heq⟩ := List.mem_map.mp hrule'
  obtain ⟨htype, rfl⟩ := Prod.mk.inj heq
  rw [List.inj_on_of_nodup_map hnodup hs' hs htype]

/-- Whether two repositories know the same types, aliases and supertypes, and tell the same rules
    for every type. -/
structure Alike (r r' : Repository) : Prop where
  types : ∀ t, t ∈ r.registry.types ↔ t ∈ r'.registry.types
  aliases : ∀ a, r.registry.aliases.get? a = r'.registry.aliases.get? a
  links : ∀ t, r.registry.links.get? t = r'.registry.links.get? t
  rules : ∀ t, r.rulesFor? t = r'.rulesFor? t

/-- What a type is normalized to depends on what its name is an alias of. -/
theorem normalize_congr {r r' : Registry} {t : MediaType}
    (h : r.aliases.get? t.base = r'.aliases.get? t.base) : r.normalize t = r'.normalize t := by
  rw [Registry.normalize, Registry.normalize, h]

/-- **Repositories that are assembled in different orders** are alike, where the statements agree
    and are for different types. -/
theorem alike_assembled (hperm : ss.Perm ss')
    (hagree : ss.Pairwise (Statement.Agree Statement.names))
    (hnodup : (ss.map Statement.type).Nodup) (source source' : String) :
    (assembled ss source).Alike (assembled ss' source') := by
  have haliases : ∀ a, (addAll ss .empty).aliases.get? a = (addAll ss' .empty).aliases.get? a := by
    have hput : ∀ s draft, (Statement.addTo s draft).aliases = draft.aliases.putAll s.aliases :=
      fun _ _ => rfl
    intro a
    rw [map_addAll Draft.aliases _ hput, map_addAll Draft.aliases _ hput]
    exact Assoc.get?_putAll_perm (Statement.consistent_of_agree hagree) (hperm.flatMap_right _) a
  have hlinks : ∀ t, (addAll ss .empty).links.get? t = (addAll ss' .empty).links.get? t := by
    have hput : ∀ s draft, (Statement.addTo s draft).links = draft.links.putAll s.links :=
      fun _ _ => rfl
    intro t
    rw [map_addAll Draft.links _ hput, map_addAll Draft.links _ hput]
    exact Assoc.get?_putAll_perm (consistent_links hnodup) (hperm.flatMap_right _) t
  refine ⟨fun t => ?_, haliases, hlinks, fun t => ?_⟩
  · change t ∈ (addAll ss .empty).types ↔ t ∈ (addAll ss' .empty).types
    simp only [mem_types_addAll, hperm.mem_iff]
  · have hnormal : (assembled ss source).registry.normalize t
        = (assembled ss' source').registry.normalize t := normalize_congr (haliases t.base)
    rw [rulesFor?, rulesFor?, hnormal]
    exact Assoc.get?_putAll_perm (consistent_ruled hnodup) (hperm.map _) _

end

/-! ### The longest rule in any order -/

section

variable {α β : Type} {rules rules' : List (List α × β)} {fits : List α → Bool} {t : β}

/-- Where equally long rules that fit are for one type, the longest of them decides, wherever it
    stands. -/
theorem heaviest_weighed_eq_some_iff_mem
    (hone : ∀ rule ∈ rules, ∀ rule' ∈ rules, fits rule.1 = true → fits rule'.1 = true →
      rule.1.length = rule'.1.length → rule.2 = rule'.2) :
    heaviest none 0 (weighed rules fits) = some t ↔
      ∃ part, (part, t) ∈ rules ∧ fits part = true ∧ part ≠ [] ∧
        ∀ rule ∈ rules, fits rule.1 = true → rule.1.length ≤ part.length := by
  have hlongest : ∀ u, heaviest none 0 (weighed rules fits) = some u →
      ∃ part, (part, u) ∈ rules ∧ fits part = true ∧ part ≠ [] ∧
        ∀ rule ∈ rules, fits rule.1 = true → rule.1.length ≤ part.length := by
    intro u hu
    obtain ⟨before, part, after, rfl, hfits, hne, hbefore, hafter⟩ :=
      heaviest_weighed_eq_some_iff.mp hu
    refine ⟨part, List.mem_append_right before List.mem_cons_self, hfits, hne, fun rule hrule => ?_⟩
    rcases List.mem_append.mp hrule with hrule | hrule
    · exact fun h => (hbefore rule hrule h).le
    · rcases List.mem_cons.mp hrule with rfl | hrule
      · exact fun _ => le_rfl
      · exact hafter rule hrule
  refine ⟨hlongest t, ?_⟩
  rintro ⟨part, hmem, hfits, hne, hle⟩
  cases hend : heaviest none 0 (weighed rules fits) with
  | none => exact absurd (heaviest_weighed_eq_none_iff.mp hend _ hmem hfits) hne
  | some u =>
    -- What the running maximum ends at is as long, so it is for the same type.
    obtain ⟨part', hmem', hfits', -, hle'⟩ := hlongest u hend
    have hlength : part'.length = part.length :=
      le_antisymm (hle _ hmem' hfits') (hle' _ hmem hfits)
    exact congrArg some (hone _ hmem' _ hmem hfits' hfits hlength)

/-- **The longest rule in any order** is the same, where equally long rules that fit are for one
    type. -/
theorem heaviest_weighed_of_perm (hperm : rules.Perm rules')
    (hone : ∀ rule ∈ rules, ∀ rule' ∈ rules, fits rule.1 = true → fits rule'.1 = true →
      rule.1.length = rule'.1.length → rule.2 = rule'.2) :
    heaviest none 0 (weighed rules fits) = heaviest none 0 (weighed rules' fits) := by
  have hone' : ∀ rule ∈ rules', ∀ rule' ∈ rules', fits rule.1 = true → fits rule'.1 = true →
      rule.1.length = rule'.1.length → rule.2 = rule'.2 := by
    simpa only [hperm.mem_iff] using hone
  ext t
  rw [heaviest_weighed_eq_some_iff_mem hone, heaviest_weighed_eq_some_iff_mem hone']
  simp only [hperm.mem_iff]

end

section

variable {ss ss' : List Statement} {source source' : String}

/-- The signatures of what is assembled are those that are stated. -/
theorem signatures_assembled (hnodup : (ss.map Statement.type).Nodup) :
    (assembled ss source).signatures
      = ss.flatMap fun s => s.magic.map fun sig => (sig, s.type) := by
  have hkeys : ((Assoc.empty : Assoc MediaType TypeRules).keys ++ (ruled ss).map (·.1)).Nodup := by
    rw [ruled, List.map_map]
    exact hnodup
  have hvalues : (assembled ss source).rules.values = ss.map (·.declaration.rule) := by
    change (Assoc.empty.putAll (ruled ss)).entries.map (·.2) = _
    rw [Assoc.entries_putAll hkeys, ruled]
    simp [Assoc.empty]
  rw [signatures, hvalues, List.flatMap_map]
  rfl

/-- Statements that share no signature are recognized by leading bytes in the same way in any
    order. -/
theorem byMagic?_assembled_of_perm (hperm : ss.Perm ss') (hnodup : (ss.map Statement.type).Nodup)
    (hagree : ss.Pairwise (Statement.Agree Statement.magic)) (head : Bytes) :
    (assembled ss source).byMagic? head = (assembled ss' source').byMagic? head := by
  have hnodup' : (ss'.map Statement.type).Nodup := (hperm.map _).nodup_iff.mp hnodup
  rw [byMagic?, byMagic?, magicCandidates_eq, magicCandidates_eq, signatures_assembled hnodup,
    signatures_assembled hnodup']
  refine heaviest_weighed_of_perm (hperm.flatMap_right _) ?_
  rintro ⟨sig, t⟩ ht ⟨sig', t'⟩ ht' hfits hfits' hlength
  -- Both signatures are in front of the same bytes, so equally long ones are the same.
  have hsame : sig = sig' :=
    (List.prefix_of_prefix_length_le (List.isPrefixOf_iff_prefix.mp hfits)
      (List.isPrefixOf_iff_prefix.mp hfits') hlength.le).eq_of_length hlength
  subst hsame
  exact Statement.consistent_of_agree hagree sig t t' ht ht'

end

/-! ### Texts that list the same entries -/

/-- The type that the name of an entry writes. -/
def nameOf (entry : Toml.Table) : Except Failure MediaType :=
  match Toml.find? "name" entry with
  | some v => typeOf v
  | none => .error (.missingKey "name")

/-- The names of some entries that can be read, without parameters. -/
def namesOf (tables : List Toml.Table) : List MediaType :=
  tables.filterMap fun entry => (nameOf entry).toOption.map (·.base)

/-- The signatures of each of some entries that can be read. -/
def signaturesOf (tables : List Toml.Table) : List (List Bytes) :=
  tables.filterMap fun entry => (stated entry).toOption.map Statement.magic

section

variable {reader : TableReader} {tables tables' : List Toml.Table} {ss : List Statement}
  {text text' source source' : String}

/-- What an entry states is for the type of its name. -/
theorem base_nameOf_of_stated {entry : Toml.Table} {s : Statement} (h : stated entry = .ok s) :
    (nameOf entry).toOption.map (·.base) = some s.type := by
  unfold stated declared at h
  unfold nameOf
  cases hname : Toml.find? "name" entry with
  | none =>
    rw [hname] at h
    cases h
  | some v =>
    rw [hname] at h
    simp only [bind_eq_ok, Except.ok.injEq, exists_eq_left', pure, Except.pure] at h
    obtain ⟨_, ⟨t, ht, _, -, _, -, _, -, _, -, _, -, rfl⟩, _, -, rfl⟩ := h
    rw [toOption_eq_some.mpr ht]
    rfl

/-- The names of entries that all can be read are those of what they state. -/
theorem namesOf_eq (h : tables.mapM stated = .ok ss) : namesOf tables = ss.map Statement.type :=
  filterMap_eq_map_of_mapM (fun _ _ => base_nameOf_of_stated) h

/-- The signatures of entries that all can be read are those of what they state. -/
theorem signaturesOf_eq (h : tables.mapM stated = .ok ss) :
    signaturesOf tables = ss.map Statement.magic :=
  filterMap_eq_map_of_mapM (fun _ _ hs => by rw [toOption_eq_some.mpr hs]; rfl) h

/-- A text can be read where one can that lists the same entries in another order. -/
theorem exists_readText_of_perm (h : Lists reader text tables) (h' : Lists reader text' tables')
    (hperm : tables.Perm tables') {r : Repository} (hr : (readText reader text source).result = .ok r) :
    ∃ r', (readText reader text' source').result = .ok r' := by
  obtain ⟨ss, hss, hagree, -⟩ := (readText_eq_ok_iff h).mp hr
  obtain ⟨ss', hss', hsame⟩ := exists_mapM_of_perm hperm hss
  have hagree' := (hsame.pairwise_iff fun h => Std.Symm.symm _ _ h).mp hagree
  exact ⟨_, (readText_eq_ok_iff h').mpr ⟨ss', hss', hagree', rfl⟩⟩

/-- **The order of the entries does not matter.**  Texts that list the same tables in different
    orders are both read or both refused.  Where the names of the tables that can be read are of
    different types, the two repositories know the same types, aliases and supertypes and tell the
    same rules for every type.  Where moreover no two tables declare the same signature, they
    recognize the same type by any leading bytes. -/
theorem readText_of_perm (h : Lists reader text tables) (h' : Lists reader text' tables')
    (hperm : tables.Perm tables') (hnames : (namesOf tables).Nodup) (source source' : String) :
    ((∃ f, (readText reader text source).result = .error f) ↔
      ∃ f, (readText reader text' source').result = .error f) ∧
    ∀ r r', (readText reader text source).result = .ok r → (readText reader text' source').result = .ok r' →
      r.Alike r' ∧
      ((signaturesOf tables).Pairwise (fun sigs others => ∀ sig ∈ sigs, sig ∉ others) →
        ∀ head, r.byMagic? head = r'.byMagic? head) := by
  constructor
  · rw [← toOption_eq_none, ← toOption_eq_none, Option.eq_none_iff_forall_ne_some,
      Option.eq_none_iff_forall_ne_some]
    simp only [ne_eq, toOption_eq_some, ← not_exists]
    refine not_congr ⟨?_, ?_⟩
    · rintro ⟨r, hr⟩
      exact exists_readText_of_perm h h' hperm hr
    · rintro ⟨r', hr'⟩
      exact exists_readText_of_perm h' h hperm.symm hr'
  · intro r r' hr hr'
    obtain ⟨ss, hss, hagree, rfl⟩ := (readText_eq_ok_iff h).mp hr
    obtain ⟨ss', hss', -, rfl⟩ := (readText_eq_ok_iff h').mp hr'
    obtain ⟨_, hss'', hsame⟩ := exists_mapM_of_perm hperm hss
    cases hss'.symm.trans hss''
    rw [namesOf_eq hss] at hnames
    refine ⟨alike_assembled hsame hagree hnames source source', fun hapart head => ?_⟩
    rw [signaturesOf_eq hss, List.pairwise_map] at hapart
    exact byMagic?_assembled_of_perm hsame hnames
      (hapart.imp fun h sig hsig hsig' => absurd hsig' (h sig hsig)) head

end

/-! ### Two entries in both orders -/

/-- A table with another name of its type and a signature. -/
def shortTable : Toml.Table :=
  [("name", .text "application/x-a"), ("aliases", .array [.text "application/x-c"]),
    ("magic", .array [.text "AB"])]

/-- A table with a supertype and a longer signature. -/
def longTable : Toml.Table :=
  [("name", .text "application/x-b"), ("supertype", .text "application/x-a"),
    ("magic", .array [.text "ABC"])]

/-- The text of the first table. -/
def shortText : String :=
  "[[types]]\nname = \"application/x-a\"\naliases = [\"application/x-c\"]\nmagic = [\"AB\"]\n"

/-- The text of the second table. -/
def longText : String :=
  "[[types]]\nname = \"application/x-b\"\nsupertype = \"application/x-a\"\nmagic = [\"ABC\"]\n"

/-- A text lists the tables of the array under its key. -/
theorem lists_of_read {text : String} {tables : List Toml.Table}
    (h : (TableReader.own.read text).toOption = some [("types", .array (tables.map .table))]) :
    Lists .own text tables := by
  cases hread : TableReader.own.read text with
  | error fault =>
    rw [hread] at h
    cases h
  | ok document =>
    rw [hread] at h
    cases h
    exact ⟨_, hread, .inl rfl⟩

/-- The rules of the first table. -/
def shortRule : TypeRules := ⟨sampleType "x-a", "", [], [[0x41, 0x42]]⟩

/-- The rules of the second table. -/
def longRule : TypeRules := ⟨sampleType "x-b", "", [], [[0x41, 0x42, 0x43]]⟩

/-- What the first table states. -/
def shortStatement : Statement := ⟨⟨shortRule, [sampleType "x-c"]⟩, none⟩

/-- What the second table states. -/
def longStatement : Statement := ⟨⟨longRule, []⟩, some (sampleType "x-a")⟩

/-- The repository of both tables, with their rules in some order. -/
def repositoryOf (rules : List TypeRules) : Repository where
  registry := ⟨[sampleType "x-a", sampleType "x-b"], ⟨[(sampleType "x-c", sampleType "x-a")]⟩,
    ⟨[(sampleType "x-b", sampleType "x-a")]⟩⟩
  rules := ⟨rules.map fun rule => (rule.mediaType, rule)⟩
  source := "<string>"

/-- The two tables are read in either order, and the repositories answer alike although they hold
    their rules in different orders. -/
theorem readText_of_perm_pair :
    Lists .own (shortText ++ longText) [shortTable, longTable] ∧
    Lists .own (longText ++ shortText) [longTable, shortTable] ∧
    [shortTable, longTable].Perm [longTable, shortTable] ∧
    (namesOf [shortTable, longTable]).Nodup ∧
    (readText .own (shortText ++ longText) "<string>").result
      = .ok (repositoryOf [shortRule, longRule]) ∧
    (readText .own (longText ++ shortText) "<string>").result
      = .ok (repositoryOf [longRule, shortRule]) ∧
    (repositoryOf [shortRule, longRule]).Alike (repositoryOf [longRule, shortRule]) ∧
    ∀ head, (repositoryOf [shortRule, longRule]).byMagic? head
      = (repositoryOf [longRule, shortRule]).byMagic? head := by
  have hforth : Lists .own (shortText ++ longText) [shortTable, longTable] :=
    lists_of_read (by decide +kernel)
  have hback : Lists .own (longText ++ shortText) [longTable, shortTable] :=
    lists_of_read (by decide +kernel)
  have hperm : [shortTable, longTable].Perm [longTable, shortTable] := .swap _ _ _
  have hnames : (namesOf [shortTable, longTable]).Nodup := by decide +kernel
  have hagree : [shortStatement, longStatement].Pairwise (Statement.Agree Statement.names) :=
    List.pairwise_pair.mpr fun a _ ha => absurd ha (List.not_mem_nil)
  have hread : (readText .own (shortText ++ longText) "<string>").result
      = .ok (repositoryOf [shortRule, longRule]) :=
    (readText_eq_ok_iff hforth).mpr
      ⟨[shortStatement, longStatement], toOption_eq_some.mp (by decide +kernel), hagree,
        by decide +kernel⟩
  have hread' : (readText .own (longText ++ shortText) "<string>").result
      = .ok (repositoryOf [longRule, shortRule]) :=
    (readText_eq_ok_iff hback).mpr
      ⟨[longStatement, shortStatement], toOption_eq_some.mp (by decide +kernel),
        List.pairwise_pair.mpr (Std.Symm.symm _ _ (List.pairwise_pair.mp hagree)),
        by decide +kernel⟩
  have hapart : (signaturesOf [shortTable, longTable]).Pairwise
      fun sigs others => ∀ sig ∈ sigs, sig ∉ others := by decide +kernel
  obtain ⟨-, halike⟩ := readText_of_perm hforth hback hperm hnames "<string>" "<string>"
  obtain ⟨hsame, hmagic⟩ := halike _ _ hread hread'
  exact ⟨hforth, hback, hperm, hnames, hread, hread', hsame, hmagic hapart⟩

end MediaGraph.Repository
