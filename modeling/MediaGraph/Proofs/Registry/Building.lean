import MediaGraph.Proofs.MediaType.Normal
import MediaGraph.Proofs.Registry.Canonical
import MediaGraph.Registry.Session

namespace MediaGraph

/-!
# What building a registry keeps

Types, aliases and supertypes come into a draft in any order, some aliases are refused, and drafts
are frozen and taken up again.  Whatever the order, a draft keeps to its form.

* `Draft.Sound` — the form of a draft: nothing in it has parameters, and what aliases stand for and
  what has a supertype recorded are canonical types.
* `Session.sound_step`, `Session.sound_run` — every step keeps the form, and so does every session.
* `Session.alias_kept` — an alias keeps its type until another draft is taken up.
* `Registry.Built` — the registries that sessions freeze.
* `session_invariants` — what holds at every point of every session.
-/

/-- Whether a media type is in normal form and has no parameters. -/
structure MediaType.Plain (t : MediaType) : Prop where
  normal : t.Normal
  parameters : t.parameters = []

/-- A type in normal form is plain without its parameters. -/
theorem MediaType.Normal.plain_base {t : MediaType} (h : t.Normal) : t.base.Plain :=
  ⟨h.base, rfl⟩

/-- A plain type is its own base type. -/
theorem MediaType.Plain.base_eq {t : MediaType} (h : t.Plain) : t.base = t :=
  MediaType.base_eq_self h.parameters

/-- A plain type is built from its two names. -/
theorem MediaType.Plain.of_eq {t : MediaType} (h : t.Plain) :
    MediaType.of t.type t.subtype [] = t := by
  rw [← h.parameters]
  exact h.normal.of_eq

/-! ### The form of a draft -/

/-- Whether everything in a draft is plain, every alias stands for a canonical type, and supertypes
    are recorded for canonical types. -/
structure Draft.Sound (d : Draft) : Prop where
  types : ∀ t ∈ d.types, t.Plain
  aliases : ∀ e ∈ d.aliases.entries, e.1.Plain ∧ e.2.Plain ∧ e.2 ∈ d.types
  links : ∀ e ∈ d.links.entries, e.1.Plain ∧ e.2.Plain ∧ e.1 ∈ d.types

namespace Draft

variable {d d' : Draft} {t newName supertype : MediaType} {e : AliasTaken}

/-- An alias is added unless it belongs to another type. -/
theorem addAlias_eq_ok_iff :
    d.addAlias t newName = .ok d' ↔
      (∀ owner, d.aliases.get? newName.base = some owner → owner = t.base) ∧
        d' = { d.addType t with aliases := d.aliases.put newName.base t.base } := by
  rw [addAlias]
  cases d.aliases.get? newName.base with
  | none => simp [eq_comm]
  | some owner => by_cases h : owner = t.base <;> simp [h, eq_comm]

/-- An alias is refused when it belongs to another type, which is named. -/
theorem addAlias_eq_error_iff :
    d.addAlias t newName = .error e ↔
      ∃ owner, d.aliases.get? newName.base = some owner ∧ owner ≠ t.base ∧
        e = ⟨newName, owner⟩ := by
  rw [addAlias]
  cases d.aliases.get? newName.base with
  | none => simp
  | some owner => by_cases h : owner = t.base <;> simp [h, eq_comm]

theorem mem_types_addType {u : MediaType} : u ∈ (d.addType t).types ↔ u = t.base ∨ u ∈ d.types :=
  TypeSet.mem_insert t.base u d.types

namespace Sound

theorem empty : Draft.empty.Sound where
  types := by simp [Draft.empty]
  aliases := by simp [Draft.empty, Assoc.empty]
  links := by simp [Draft.empty, Assoc.empty]

theorem addType (h : d.Sound) (ht : t.Normal) : (d.addType t).Sound where
  types u hu := by
    rcases mem_types_addType.mp hu with rfl | hu
    · exact ht.plain_base
    · exact h.types u hu
  aliases e he := by
    obtain ⟨hname, htarget, hmem⟩ := h.aliases e he
    exact ⟨hname, htarget, mem_types_addType.mpr (.inr hmem)⟩
  links e he := by
    obtain ⟨hkey, htarget, hmem⟩ := h.links e he
    exact ⟨hkey, htarget, mem_types_addType.mpr (.inr hmem)⟩

theorem addTypes {ts : List MediaType} (h : d.Sound) (hts : ∀ t ∈ ts, t.Normal) :
    (d.addTypes ts).Sound := by
  induction ts generalizing d with
  | nil => exact h
  | cons t ts ih =>
    exact ih (h.addType (hts t List.mem_cons_self)) fun u hu => hts u (List.mem_cons_of_mem _ hu)

theorem addAlias (h : d.Sound) (ht : t.Normal) (hnew : newName.Normal)
    (hd : d.addAlias t newName = .ok d') : d'.Sound := by
  obtain ⟨-, rfl⟩ := addAlias_eq_ok_iff.mp hd
  have hadded := h.addType ht
  refine ⟨hadded.types, fun e he => ?_, hadded.links⟩
  rcases Assoc.mem_entries_of_mem_put he with rfl | he
  · exact ⟨hnew.plain_base, ht.plain_base, mem_types_addType.mpr (.inl rfl)⟩
  · exact hadded.aliases e he

theorem addSupertype (h : d.Sound) (ht : t.Normal) (hsuper : supertype.Normal) :
    (d.addSupertype t supertype).Sound := by
  have hadded := h.addType ht
  refine ⟨hadded.types, hadded.aliases, fun e he => ?_⟩
  rcases Assoc.mem_entries_of_mem_put he with rfl | he
  · exact ⟨ht.plain_base, hsuper.plain_base, mem_types_addType.mpr (.inl rfl)⟩
  · exact hadded.links e he

end Sound

/-- An alias that a draft has keeps its type when another one is added. -/
theorem get?_addAlias {a owner : MediaType} (ha : d.aliases.get? a = some owner)
    (hd : d.addAlias t newName = .ok d') : d'.aliases.get? a = some owner := by
  obtain ⟨hfree, rfl⟩ := addAlias_eq_ok_iff.mp hd
  change (d.aliases.put newName.base t.base).get? a = some owner
  rw [Assoc.get?_put]
  split
  · -- The same alias was added again, which is only allowed for the type that it has.
    rename_i hname
    rw [hfree owner (hname ▸ ha)]
  · exact ha

theorem aliases_addTypes (d : Draft) (ts : List MediaType) :
    (d.addTypes ts).aliases = d.aliases := by
  induction ts generalizing d with
  | nil => rfl
  | cons t ts ih => exact ih (d.addType t)

end Draft

/-! ### Sessions -/

namespace Session

variable {s s' : Session} {e : Edit} {edits : List Edit} {t newName : MediaType}

/-- Whether the draft of a session and the registries frozen in it keep to the form of a draft. -/
structure Sound (s : Session) : Prop where
  draft : s.draft.Sound
  frozen : ∀ r ∈ s.frozen, r.thaw.Sound

theorem sound_start : start.Sound := ⟨Draft.Sound.empty, by simp [start]⟩

/-- **Every step keeps the form**, refused ones included. -/
theorem sound_step (h : s.Sound) (he : ∀ t ∈ e.given, t.Normal) : (s.step e).2.Sound := by
  cases e with
  | addType t =>
    rw [step_addType]
    exact ⟨h.draft.addType (he t (by simp [Edit.given])), h.frozen⟩
  | addTypes ts =>
    rw [step_addTypes]
    exact ⟨h.draft.addTypes he, h.frozen⟩
  | addAlias t newName =>
    rw [step_addAlias]
    cases hd : s.draft.addAlias t newName with
    | error e => exact h
    | ok d =>
      exact ⟨h.draft.addAlias (he t (by simp [Edit.given])) (he newName (by simp [Edit.given])) hd,
        h.frozen⟩
  | addSupertype t supertype =>
    rw [step_addSupertype]
    exact ⟨h.draft.addSupertype (he t (by simp [Edit.given])) (he supertype (by simp [Edit.given])),
      h.frozen⟩
  | freeze =>
    rw [step_freeze]
    refine ⟨h.draft, fun r hr => ?_⟩
    rcases List.mem_cons.mp hr with rfl | hr
    · exact h.draft
    · exact h.frozen r hr
  | thaw back =>
    rw [step_thaw]
    cases hback : s.frozen[back]? with
    | none => exact h
    | some r => exact ⟨h.frozen r (List.mem_of_getElem? hback), h.frozen⟩

/-- Every session keeps the form. -/
theorem sound_run (h : s.Sound) (hedits : ∀ e ∈ edits, ∀ t ∈ e.given, t.Normal) :
    (s.run edits).Sound := by
  induction edits generalizing s with
  | nil => exact h
  | cons e edits ih =>
    exact ih (sound_step h (hedits e List.mem_cons_self)) fun e' he' =>
      hedits e' (List.mem_cons_of_mem _ he')

/-- A step keeps the type of an alias, unless it takes up another draft. -/
theorem alias_kept_step {a owner : MediaType} (ha : s.draft.aliases.get? a = some owner)
    (he : ∀ back, e ≠ .thaw back) : (s.step e).2.draft.aliases.get? a = some owner := by
  cases e with
  | addType t =>
    rw [step_addType]
    exact ha
  | addTypes ts =>
    rw [step_addTypes]
    change (s.draft.addTypes ts).aliases.get? a = some owner
    rw [Draft.aliases_addTypes, ha]
  | addAlias t newName =>
    rw [step_addAlias]
    cases hd : s.draft.addAlias t newName with
    | error e => exact ha
    | ok d => exact Draft.get?_addAlias ha hd
  | addSupertype t supertype =>
    rw [step_addSupertype]
    exact ha
  | freeze =>
    rw [step_freeze]
    exact ha
  | thaw back => exact absurd rfl (he back)

/-- **An alias keeps its type** until another draft is taken up. -/
theorem alias_kept {a owner : MediaType} (ha : s.draft.aliases.get? a = some owner)
    (hedits : ∀ e ∈ edits, ∀ back, e ≠ .thaw back) :
    (s.run edits).draft.aliases.get? a = some owner := by
  induction edits generalizing s with
  | nil => exact ha
  | cons e edits ih =>
    exact ih (alias_kept_step ha (hedits e List.mem_cons_self)) fun e' he' =>
      hedits e' (List.mem_cons_of_mem _ he')

/-- An alias is refused exactly when it belongs to another type, and then nothing is changed. -/
theorem step_addAlias_eq_error_iff {f : AliasTaken} :
    s.step (.addAlias t newName) = (.error f, s') ↔
      s' = s ∧ ∃ owner, s.draft.aliases.get? newName.base = some owner ∧ owner ≠ t.base ∧
        f = ⟨newName, owner⟩ := by
  rw [step_addAlias, ← Draft.addAlias_eq_error_iff]
  cases s.draft.addAlias t newName with
  | ok d => simp
  | error e => simp [and_comm, eq_comm]

end Session

/-! ### The registries of sessions -/

namespace Registry

variable {r : Registry} {t : MediaType}

/-- The canonical type that a type stands for, without parameters: what its name is an alias of, or
    its own name. -/
theorem base_normalize (hr : r.thaw.Sound) (t : MediaType) :
    (r.normalize t).base = (r.aliases.get? t.base).getD t.base := by
  cases h : r.aliases.get? t.base with
  | none => rw [normalize_of_get? h, Option.getD_none]
  | some c =>
    obtain ⟨-, hc, -⟩ := hr.aliases _ (Assoc.mem_entries_of_get? h)
    rw [base_normalize_of_get? h hc.of_eq, Option.getD_some]

/-- Every canonical type and every alias is in the registry, whatever its parameters. -/
theorem contains_of_mem (hr : r.thaw.Sound) (ht : t.base ∈ r.types ∨ t.base ∈ r.aliases.keys) :
    r.contains t = true := by
  rw [contains, decide_eq_true_eq, base_normalize hr]
  -- What an alias stands for is a canonical type; a name that is no alias is canonical itself.
  cases h : r.aliases.get? t.base with
  | some c => exact (hr.aliases _ (Assoc.mem_entries_of_get? h)).2.2
  | none =>
    refine ht.resolve_right fun hkey => ?_
    obtain ⟨c, hc⟩ := Assoc.exists_get?_of_mem_keys hkey
    rw [h] at hc
    cases hc

/-- Whether some session that is given types in normal form freezes the registry. -/
def Built (r : Registry) : Prop :=
  ∃ edits : List Edit, (∀ e ∈ edits, ∀ t ∈ e.given, t.Normal) ∧ r ∈ (Session.start.run edits).frozen

theorem Built.sound (h : r.Built) : r.thaw.Sound := by
  obtain ⟨edits, hedits, hr⟩ := h
  exact (Session.sound_run Session.sound_start hedits).frozen r hr

end Registry

/-- **What holds throughout a session.**  After any steps from the draft without entries, refused
    ones included, the draft and every frozen registry keep to the form of a draft, and a frozen
    registry contains all of its types and aliases, whatever parameters they are given.  A refused
    alias changes nothing, and an alias keeps its type until another draft is taken up. -/
theorem session_invariants (edits : List Edit)
    (hnormal : ∀ e ∈ edits, ∀ t ∈ e.given, t.Normal) :
    (Session.start.run edits).draft.Sound ∧
    (∀ r ∈ (Session.start.run edits).frozen, r.thaw.Sound ∧
      (∀ t : MediaType, t.base ∈ r.types ∨ t.base ∈ r.aliases.keys → r.contains t = true) ∧
      ∀ t : MediaType, t ∈ r.types ∨ t ∈ r.aliases.keys →
        ∀ pairs, r.contains (t.withParameters pairs) = true) ∧
    (∀ t newName f s', (Session.start.run edits).step (.addAlias t newName) = (.error f, s') →
      s' = Session.start.run edits) ∧
    ∀ a owner, (Session.start.run edits).draft.aliases.get? a = some owner →
      ∀ more : List Edit, (∀ e ∈ more, ∀ back, e ≠ .thaw back) →
        ((Session.start.run edits).run more).draft.aliases.get? a = some owner := by
  have hsound := Session.sound_run Session.sound_start hnormal
  refine ⟨hsound.draft, fun r hr => ?_, ?_, ?_⟩
  · have hr := hsound.frozen r hr
    refine ⟨hr, fun t ht => Registry.contains_of_mem hr ht, fun t ht pairs => ?_⟩
    have hplain : t.Plain := by
      rcases ht with ht | ht
      · exact hr.types t ht
      · obtain ⟨c, hc⟩ := Assoc.exists_get?_of_mem_keys ht
        exact (hr.aliases _ (Assoc.mem_entries_of_get? hc)).1
    apply Registry.contains_of_mem hr
    rw [hplain.normal.base_withParameters, hplain.base_eq]
    exact ht
  · intro t newName f s' h
    exact (Session.step_addAlias_eq_error_iff.mp h).1
  · intro a owner ha more hmore
    exact Session.alias_kept ha hmore

/-- Steps one of which is refused, and a registry that is taken up again. -/
def refusedEdits : List Edit :=
  [.addType (.of "text" "plain" [("charset", "utf-8")]),
   .addAlias .applicationXml (.of "text" "xml" []),
   .addAlias .textPlain (.of "text" "xml" [("charset", "utf-8")]),
   .addSupertype (.of "image" "svg+xml" []) .applicationXml,
   .freeze, .addType .applicationZip, .thaw 0, .freeze]

/-- After these steps two registries are frozen, both contain the alias with any parameters, and the
    alias keeps its type when another refused step follows. -/
theorem session_invariants_refused :
    (∀ e ∈ refusedEdits, ∀ t ∈ e.given, t.Normal) ∧
    (Session.start.run refusedEdits).frozen.length = 2 ∧
    (∀ r ∈ (Session.start.run refusedEdits).frozen, ∀ pairs,
      r.contains (MediaType.withParameters ⟨"text", "xml", []⟩ pairs) = true) ∧
    ((Session.start.run refusedEdits).run [.addAlias .textPlain ⟨"text", "xml", []⟩]
      ).draft.aliases.get? ⟨"text", "xml", []⟩ = some .applicationXml := by
  have hnormal : ∀ e ∈ refusedEdits, ∀ t ∈ e.given, t.Normal := by decide
  obtain ⟨-, hfrozen, -, hkept⟩ := session_invariants refusedEdits hnormal
  refine ⟨hnormal, by decide, fun r hr pairs => ?_, ?_⟩
  · have hmem : ∀ r ∈ (Session.start.run refusedEdits).frozen,
        (⟨"text", "xml", []⟩ : MediaType) ∈ r.aliases.keys := by decide
    exact (hfrozen r hr).2.2 _ (.inr (hmem r hr)) pairs
  · exact hkept _ _ (by decide) _ (by simp)

end MediaGraph
