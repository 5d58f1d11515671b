import MediaGraph.Proofs.Registry.Building

namespace MediaGraph.Registry

/-!
# Normalizing twice

Normalizing looks up the name of a type once.  In a registry that was built, the name that comes out
can be an alias again, since a draft neither looks up the type that an alias is added for nor checks
that a new alias stands for no type yet.

* `normalize_of_alias` — what an alias is normalized to: another name with the parameters that the
  alias had.
* `normalize_normalize_iff` — when normalizing twice is normalizing once.
* `normalize_chained` — an alias of an alias.
-/

variable {r : Registry} {c t : MediaType}

/-- An alias that was given parameters is normalized to the type that it stands for, with the same
    parameters. -/
theorem normalize_of_alias (hr : r.thaw.Sound) (ht : t.Normal)
    (h : r.aliases.get? t.base = some c) : r.normalize t = ⟨c.type, c.subtype, t.parameters⟩ := by
  obtain ⟨-, hc, -⟩ := hr.aliases _ (Assoc.mem_entries_of_get? h)
  rw [normalize, h]
  dsimp only
  split
  · exact MediaType.withParameters_eq hc.normal hc.parameters ht
  · rename_i hnone
    have hempty : t.parameters = [] := by simpa [MediaType.hasParameters] using hnone
    rw [hempty, ← hc.parameters]

/-- Normalizing keeps the parameters. -/
theorem parameters_normalize (hr : r.thaw.Sound) (ht : t.Normal) :
    (r.normalize t).parameters = t.parameters := by
  cases h : r.aliases.get? t.base with
  | none => rw [normalize_of_get? h]
  | some c => rw [normalize_of_alias hr ht h]

/-- What a type in normal form is normalized to is in normal form. -/
theorem normal_normalize (hr : r.thaw.Sound) (ht : t.Normal) : (r.normalize t).Normal := by
  cases h : r.aliases.get? t.base with
  | none =>
    rw [normalize_of_get? h]
    exact ht
  | some c =>
    obtain ⟨-, hc, -⟩ := hr.aliases _ (Assoc.mem_entries_of_get? h)
    rw [normalize_of_alias hr ht h]
    exact ⟨hc.normal.type, hc.normal.subtype, ht.names, ht.ordered⟩

/-- Normalizing twice is normalizing once exactly when the type that the name stands for is no alias
    of another one. -/
theorem normalize_normalize_eq_iff (hr : r.thaw.Sound) (ht : t.Normal) :
    r.normalize (r.normalize t) = r.normalize t ↔
      ∀ c d, r.aliases.get? t.base = some c → r.aliases.get? c = some d → d = c := by
  cases h : r.aliases.get? t.base with
  | none =>
    have hself : r.normalize t = t := normalize_of_get? h
    simp [hself]
  | some c =>
    have hbase : (r.normalize t).base = c := by rw [base_normalize hr, h, Option.getD_some]
    cases hd : r.aliases.get? c with
    | none =>
      have hself : r.normalize (r.normalize t) = r.normalize t :=
        normalize_of_get? (by rw [hbase, hd])
      refine iff_of_true hself ?_
      rintro c' d ⟨rfl⟩ hd'
      rw [hd] at hd'
      cases hd'
    | some d =>
      have htwice : (r.normalize (r.normalize t)).base = d := by
        rw [base_normalize hr, hbase, hd, Option.getD_some]
      -- Parameters are kept both times, so the names decide whether the two results are equal.
      constructor
      · rintro heq c' d' ⟨rfl⟩ hd'
        rw [hd, Option.some.injEq] at hd'
        rw [← hd', ← htwice, heq, hbase]
      · intro hall
        obtain rfl := hall c d rfl hd
        rw [normalize_of_alias hr (normal_normalize hr ht) (by rw [hbase, hd]),
          parameters_normalize hr ht, normalize_of_alias hr ht h]

/-- **When normalizing twice is normalizing once.**  In every registry that was built, normalizing
    keeps the parameters.  It is finished after the first time for a type exactly when the type that
    its name stands for is no alias of another one, and for all types exactly when no alias stands
    for an alias of another type. -/
theorem normalize_normalize_iff (hr : r.Built) :
    (∀ t, t.Normal → (r.normalize t).parameters = t.parameters) ∧
    (∀ t, t.Normal → (r.normalize (r.normalize t) = r.normalize t ↔
      ∀ c d, r.aliases.get? t.base = some c → r.aliases.get? c = some d → d = c)) ∧
    ((∀ t, t.Normal → r.normalize (r.normalize t) = r.normalize t) ↔
      ∀ a c d, r.aliases.get? a = some c → r.aliases.get? c = some d → d = c) := by
  have hsound := hr.sound
  refine ⟨fun t => parameters_normalize hsound, fun t => normalize_normalize_eq_iff hsound,
    fun hall a c d ha hc => ?_, fun hall t ht => ?_⟩
  · obtain ⟨hplain, -, -⟩ := hsound.aliases _ (Assoc.mem_entries_of_get? ha)
    have hbase : a.base = a := hplain.base_eq
    exact (normalize_normalize_eq_iff hsound hplain.normal).mp (hall a hplain.normal) c d
      (by rw [hbase, ha]) hc
  · exact (normalize_normalize_eq_iff hsound ht).mpr fun c d => hall t.base c d

/-- Steps that add aliases for types that are no aliases, one of them twice, and a type as an alias
    of itself. -/
def settledEdits : List Edit :=
  [.addAlias .applicationXml (.of "text" "xml" []), .addAlias .textPlain (.of "text" "x-plain" []),
   .addAlias .textPlain (.of "text" "x-plain" [("charset", "utf-8")]),
   .addAlias .textPlain .textPlain, .freeze]

/-- In the registry of these steps, normalizing is finished after the first time. -/
theorem normalize_normalize_iff_settled :
    (Session.start.run settledEdits).frozen.length = 1 ∧
    ∀ r ∈ (Session.start.run settledEdits).frozen, r.Built ∧
      ∀ t : MediaType, t.Normal → r.normalize (r.normalize t) = r.normalize t := by
  refine ⟨by decide, fun r hr => ?_⟩
  have hbuilt : r.Built := ⟨settledEdits, by decide, hr⟩
  have hsettled : ∀ r ∈ (Session.start.run settledEdits).frozen, ∀ c ∈ r.aliases.values,
      ∀ d ∈ r.aliases.get? c, d = c := by decide
  refine ⟨hbuilt, (normalize_normalize_iff hbuilt).2.2.mpr fun a c d ha hc => ?_⟩
  exact hsettled r hr c (Assoc.mem_values_of_get? ha) d hc

/-- Steps that add an alias for a type, and then this type as an alias of a third one. -/
def chainedEdits : List Edit :=
  [.addAlias (.ofApplication "x-b") (.ofApplication "x-a"),
   .addAlias (.ofApplication "x-c") (.ofApplication "x-b"), .freeze]

/-- In the registry of these steps, normalizing a second time leads on to the third type. -/
theorem normalize_chained :
    ¬ ∀ r : Registry, r.Built → ∀ t : MediaType, t.Normal →
      r.normalize (r.normalize t) = r.normalize t := by
  intro h
  have hchained : ∃ r ∈ (Session.start.run chainedEdits).frozen,
      r.normalize (r.normalize (.ofApplication "x-a")) ≠ r.normalize (.ofApplication "x-a") := by
    decide
  obtain ⟨r, hr, hne⟩ := hchained
  exact hne (h r ⟨chainedEdits, by decide, hr⟩ (.ofApplication "x-a") (by decide))

end MediaGraph.Registry
