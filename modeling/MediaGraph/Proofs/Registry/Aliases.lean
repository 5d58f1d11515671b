import MediaGraph.Proofs.Registry.Normalization

namespace MediaGraph

/-!
# The aliases of a type

A registry tells the canonical type of an alias, and the aliases of a type.  The second looks for
what the type is normalized to among the types that aliases stand for.  Normalizing keeps
parameters, and no alias stands for a type with parameters, so a type that is given any has no
aliases, although its name may have some.

* `Session.aliasesKeyed_step`, `Session.aliasesKeyed_run` — every step keeps an alias to one type.
* `Registry.mem_aliasesOf_iff` — the aliases of a type are those that are recorded for what it is
  normalized to.
* `Registry.aliasesOf_inverse_iff` — when the aliases of a type are those of its canonical name.
* `Registry.aliasesOf_parameterized` — a type with parameters that has none.
-/

/-! ### One entry for each alias -/

namespace Session

variable {s : Session} {edits : List Edit}

/-- Whether every alias has one entry, in the draft and in the registries that were frozen. -/
structure AliasesKeyed (s : Session) : Prop where
  draft : s.draft.aliases.keys.Nodup
  frozen : ∀ r ∈ s.frozen, r.aliases.keys.Nodup

theorem aliasesKeyed_start : start.AliasesKeyed := ⟨List.nodup_nil, List.forall_mem_nil _⟩

/-- **Every step keeps one entry for each alias.** -/
theorem aliasesKeyed_step (h : s.AliasesKeyed) (e : Edit) : (s.step e).2.AliasesKeyed := by
  cases e with
  | addType t =>
    rw [step_addType]
    exact ⟨h.draft, h.frozen⟩
  | addTypes ts =>
    rw [step_addTypes]
    refine ⟨?_, h.frozen⟩
    rw [Draft.aliases_addTypes]
    exact h.draft
  | addAlias t newName =>
    rw [step_addAlias]
    cases hd : s.draft.addAlias t newName with
    | error e => exact h
    | ok d =>
      obtain ⟨-, rfl⟩ := Draft.addAlias_eq_ok_iff.mp hd
      exact ⟨Assoc.nodup_keys_put h.draft newName.base t.base, h.frozen⟩
  | addSupertype t supertype =>
    rw [step_addSupertype]
    exact ⟨h.draft, h.frozen⟩
  | freeze =>
    rw [step_freeze]
    exact ⟨h.draft, List.forall_mem_cons.mpr ⟨h.draft, h.frozen⟩⟩
  | thaw back =>
    rw [step_thaw]
    cases hback : s.frozen[back]? with
    | none => exact h
    | some r => exact ⟨h.frozen r (List.mem_of_getElem? hback), h.frozen⟩

/-- Every session keeps one entry for each alias. -/
theorem aliasesKeyed_run (h : s.AliasesKeyed) (edits : List Edit) :
    (s.run edits).AliasesKeyed := by
  induction edits generalizing s with
  | nil => exact h
  | cons e edits ih => exact ih (aliasesKeyed_step h e)

end Session

namespace Registry

variable {r : Registry} {a t : MediaType}

/-- The aliases in a registry that was built have one entry each. -/
theorem Built.nodup_aliases (h : r.Built) : r.aliases.keys.Nodup := by
  obtain ⟨edits, -, hr⟩ := h
  exact (Session.aliasesKeyed_run Session.aliasesKeyed_start edits).frozen r hr

/-! ### Aliases and normalizing -/

/-- The aliases of a type are those that are recorded for what it is normalized to. -/
theorem mem_aliasesOf_iff (hr : r.Built) :
    a ∈ r.aliasesOf t ↔ r.aliases.get? a = some (r.normalize t) := by
  rw [← Assoc.mem_entries_iff_get? hr.nodup_aliases, aliasesOf, TypeSet.mem_ofList]
  simp [List.mem_map, List.mem_filter]

/-- A type with parameters has no aliases, and another one those of its canonical name. -/
theorem mem_aliasesOf_iff_base (hr : r.Built) (ht : t.Normal) :
    a ∈ r.aliasesOf t ↔ t.parameters = [] ∧ r.aliases.get? a = some (r.normalize t).base := by
  rw [mem_aliasesOf_iff hr, ← parameters_normalize hr.sound ht]
  constructor
  · intro ha
    -- What an alias stands for has no parameters.
    obtain ⟨-, hplain, -⟩ := hr.sound.aliases _ (Assoc.mem_entries_of_get? ha)
    exact ⟨hplain.parameters, by rw [hplain.base_eq, ha]⟩
  · rintro ⟨hnone, ha⟩
    rw [ha, MediaType.base_eq_self hnone]

/-- An alias is normalized to the type that is recorded for it. -/
theorem normalize_of_get?_eq_some {c : MediaType} (hr : r.Built) (ha : r.aliases.get? a = some c) :
    r.normalize a = c := by
  obtain ⟨hname, hplain, -⟩ := hr.sound.aliases _ (Assoc.mem_entries_of_get? ha)
  have hbase : r.aliases.get? a.base = some c := by rw [hname.base_eq, ha]
  rw [normalize_of_alias hr.sound hname.normal hbase, hname.parameters, ← hplain.parameters]

/-- **When looking for aliases inverts normalizing.**  In every registry that was built, the aliases
    of a type without parameters are those that are recorded for the name it is normalized to, which
    are the aliases that are normalized to the same type; a type with parameters has none.  So they
    are those of its canonical name exactly when it has no parameters or its canonical name has no
    aliases. -/
theorem aliasesOf_inverse_iff (hr : r.Built) :
    (∀ t, t.Normal → ∀ a, a ∈ r.aliasesOf t ↔
      t.parameters = [] ∧ r.aliases.get? a = some (r.normalize t).base) ∧
    (∀ t, t.Normal → t.parameters = [] → ∀ a, a ∈ r.aliasesOf t ↔
      a ∈ r.aliases.keys ∧ r.normalize a = r.normalize t) ∧
    ∀ t, t.Normal →
      ((∀ a, a ∈ r.aliasesOf t ↔ r.aliases.get? a = some (r.normalize t).base) ↔
        t.parameters = [] ∨ ∀ a, r.aliases.get? a ≠ some (r.normalize t).base) := by
  refine ⟨fun t ht a => mem_aliasesOf_iff_base hr ht, fun t ht hnone a => ?_, fun t ht => ?_⟩
  · rw [mem_aliasesOf_iff hr]
    constructor
    · intro ha
      have hkey : a ∈ r.aliases.keys := Assoc.mem_keys_of_get? ha
      exact ⟨hkey, normalize_of_get?_eq_some hr ha⟩
    · rintro ⟨hkey, hsame⟩
      obtain ⟨c, hc⟩ := Assoc.exists_get?_of_mem_keys hkey
      rw [hc, ← hsame, normalize_of_get?_eq_some hr hc]
  · simp only [mem_aliasesOf_iff_base hr ht]
    constructor
    · intro h
      by_cases hnone : t.parameters = []
      · exact .inl hnone
      · exact .inr fun a ha => hnone ((h a).mpr ha).1
    · rintro (hnone | hfree) a
      · exact and_iff_right hnone
      · exact ⟨And.right, fun ha => absurd ha (hfree a)⟩

/-- Steps that give markup another name, and plain text one too. -/
def namedEdits : List Edit :=
  [.addAlias .applicationXml (.ofText "xml"), .addAlias .textPlain (.ofText "x-plain"),
   .addAlias .applicationXml (.ofApplication "x-xml"), .freeze]

/-- In the registry of these steps markup has both of its other names, also when it is asked for by
    one of them, and a type with parameters that no alias stands for has none. -/
theorem aliasesOf_inverse_iff_named :
    (Session.start.run namedEdits).frozen.length = 1 ∧
    ∀ r ∈ (Session.start.run namedEdits).frozen, r.Built ∧
      (.ofApplication "x-xml" : MediaType) ∈ r.aliasesOf (.ofText "xml") ∧
      ∀ a, a ∈ r.aliasesOf (.of "image" "png" [("q", "1")]) ↔
        r.aliases.get? a = some (.of "image" "png" []) := by
  refine ⟨by decide, fun r hr => ?_⟩
  have hbuilt : r.Built := ⟨namedEdits, by decide, hr⟩
  obtain ⟨hmem, -, hinverse⟩ := aliasesOf_inverse_iff hbuilt
  have hxml : ∀ r ∈ (Session.start.run namedEdits).frozen,
      r.aliases.get? (.ofApplication "x-xml") = some (r.normalize (.ofText "xml")).base := by decide
  have hpng : ∀ r ∈ (Session.start.run namedEdits).frozen,
      (r.normalize (.of "image" "png" [("q", "1")])).base = .of "image" "png" [] ∧
        ∀ c ∈ r.aliases.values, c ≠ .of "image" "png" [] := by decide
  obtain ⟨hbase, hfree⟩ := hpng r hr
  refine ⟨hbuilt, (hmem (.ofText "xml") (by decide) _).mpr ⟨rfl, hxml r hr⟩, ?_⟩
  rw [← hbase]
  refine (hinverse (.of "image" "png" [("q", "1")]) (by decide)).mpr (.inr fun a ha => ?_)
  exact hfree _ (Assoc.mem_values_of_get? ha) hbase

/-- In the registry of these steps markup with parameters has no aliases, although its name has. -/
theorem aliasesOf_parameterized :
    ¬ ∀ r : Registry, r.Built → ∀ t : MediaType, t.Normal → ∀ a, a ∈ r.aliasesOf t ↔
      r.aliases.get? a = some (r.normalize t).base := by
  intro h
  have hlost : ∃ r ∈ (Session.start.run namedEdits).frozen,
      r.aliases.get? (.ofText "xml")
          = some (r.normalize (.of "application" "xml" [("charset", "utf-8")])).base ∧
        r.aliasesOf (.of "application" "xml" [("charset", "utf-8")]) = [] := by
    decide
  obtain ⟨r, hr, hrecorded, hnone⟩ := hlost
  have hbuilt : r.Built := ⟨namedEdits, by decide, hr⟩
  have hmem := (h r hbuilt (.of "application" "xml" [("charset", "utf-8")]) (by decide) _).mpr
    hrecorded
  rw [hnone] at hmem
  cases hmem

end Registry

end MediaGraph
