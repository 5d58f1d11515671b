import MediaGraph.MediaType.Basic
import MediaGraph.Proofs.Text.LowerCase

namespace MediaGraph.MediaType

/-!
# The normal form of a media type

`MediaType.of` brings every part into its normal form.  A part in normal form is left alone by that,
so a media type that was built once is built again from its own parts.

* `Normal` — every part is in its normal form; `normal_iff` — these are the types that `of` builds.
* `normalName_normalName`, `normalParameters_eq_self` — normal forms of normal forms.
* `mem_normalParameters_iff` — the last value of a name is the one that counts.
* `withParameters_eq` — the parameters of a type in normal form are taken over as they are.
-/

variable {t c : MediaType} {name type subtype : String} {pairs : List (String × String)}

/-! ### Names -/

theorem toList_normalName (name : String) :
    (normalName name).toList = Text.lowerChars (Text.trimChars name.toList) := by
  simp [normalName, Text.lower, Text.trim]

/-- A normal name is its own lower case. -/
theorem lower_normalName (name : String) : Text.lower (normalName name) = normalName name := by
  apply String.toList_inj.mp
  rw [Text.lower, String.toList_ofList, toList_normalName, Text.lowerChars_lowerChars]

/-- **A normal name is its own normal form.** -/
theorem normalName_normalName (name : String) : normalName (normalName name) = normalName name := by
  apply String.toList_inj.mp
  have htrim : Text.Trimmed (normalName name).toList := by
    rw [toList_normalName]
    exact Text.trimmed_lowerChars (Text.trimmed_trimChars _)
  rw [toList_normalName, Text.trimChars_eq_self htrim, toList_normalName,
    Text.lowerChars_lowerChars]

/-! ### Parameters -/

/-- Whether parameters are ordered by name, each name given once. -/
def OrderedByName (pairs : List (String × String)) : Prop :=
  pairs.Pairwise fun p q => p.1 < q.1

instance (pairs : List (String × String)) : Decidable (OrderedByName pairs) :=
  inferInstanceAs (Decidable (pairs.Pairwise fun p q => p.1 < q.1))

theorem OrderedByName.nodup (h : OrderedByName pairs) : (pairs.map (·.1)).Nodup :=
  List.pairwise_map.mpr (h.imp fun hlt => String.ne_of_lt hlt)

theorem names_normalParameters {p : String × String} (hp : p ∈ normalParameters pairs) :
    normalName p.1 = p.1 := by
  rw [normalParameters, mem_sortBy] at hp
  rcases Assoc.mem_entries_of_mem_putAll hp with hp | hp
  · obtain ⟨q, -, rfl⟩ := List.mem_map.mp hp
    exact normalName_normalName q.1
  · cases hp

/-- Parameters are ordered by name in their normal form. -/
theorem ordered_normalParameters (pairs : List (String × String)) :
    OrderedByName (normalParameters pairs) := by
  have hnodup : (Assoc.ofList (pairs.map fun p => (normalName p.1, p.2))).keys.Nodup :=
    Assoc.nodup_keys_putAll (m := Assoc.empty) List.nodup_nil _
  have hsorted : (normalParameters pairs).Pairwise fun p q => decide (p.1 < q.1) = true := by
    apply pairwise_sortBy
    · intro p q u hpq hqu
      simp only [decide_eq_true_eq] at hpq hqu ⊢
      exact String.lt_trans hpq hqu
    · refine (List.pairwise_map.mp hnodup).imp fun {p q} hne => ?_
      simp only [decide_eq_true_eq]
      by_cases hpq : p.1 < q.1
      · exact .inl hpq
      · exact .inr (Std.lt_of_le_of_ne (String.not_lt.mp hpq) hne.symm)
  exact hsorted.imp of_decide_eq_true

/-- Of the values of one name the last one counts, however the names are written. -/
theorem mem_normalParameters_iff {value : String} :
    (name, value) ∈ normalParameters pairs ↔
      ∃ before written after, pairs = before ++ (written, value) :: after ∧
        normalName written = name ∧ ∀ p ∈ after, normalName p.1 ≠ name := by
  have hnodup : (Assoc.ofList (pairs.map fun p => (normalName p.1, p.2))).keys.Nodup :=
    Assoc.nodup_keys_putAll (m := Assoc.empty) List.nodup_nil _
  have hempty : (Assoc.empty : Assoc String String).get? name ≠ some value := nofun
  rw [normalParameters, mem_sortBy, Assoc.mem_entries_iff_get? hnodup]
  change (Assoc.empty.putAll _).get? name = some value ↔ _
  rw [Assoc.get?_putAll_eq_some_iff, or_iff_left fun h => hempty h.2]
  constructor
  · rintro ⟨before, after, hmap, hafter⟩
    obtain ⟨before, rest, rfl, -, hrest⟩ := List.map_eq_append_iff.mp hmap
    obtain ⟨⟨written, value⟩, after, rfl, heq, rfl⟩ := List.map_eq_cons_iff.mp hrest
    rw [Prod.mk.injEq] at heq
    obtain ⟨hname, rfl⟩ := heq
    refine ⟨before, written, after, rfl, hname, fun p hp => ?_⟩
    exact hafter (normalName p.1, p.2) (List.mem_map.mpr ⟨p, hp, rfl⟩)
  · rintro ⟨before, written, after, rfl, rfl, hafter⟩
    refine ⟨before.map fun p => (normalName p.1, p.2), after.map fun p => (normalName p.1, p.2),
      by simp, fun q hq => ?_⟩
    obtain ⟨p, hp, rfl⟩ := List.mem_map.mp hq
    exact hafter p hp

/-- Parameters in normal form are left as they are. -/
theorem normalParameters_eq_self (hnames : ∀ p ∈ pairs, normalName p.1 = p.1)
    (hordered : OrderedByName pairs) : normalParameters pairs = pairs := by
  have hmap : (pairs.map fun p => (normalName p.1, p.2)) = pairs :=
    calc (pairs.map fun p => (normalName p.1, p.2)) = pairs.map id :=
          List.map_congr_left fun p hp => by rw [hnames p hp, id]
      _ = pairs := List.map_id pairs
  have hentries : (Assoc.ofList pairs).entries = pairs := Assoc.entries_putAll hordered.nodup
  rw [normalParameters, hmap, hentries]
  apply sortBy_eq_self
  exact hordered.imp fun hlt => decide_eq_false (String.lt_asymm hlt)

/-! ### Media types -/

/-- Whether every part of a media type is in its normal form. -/
structure Normal (t : MediaType) : Prop where
  type : normalName t.type = t.type
  subtype : normalName t.subtype = t.subtype
  names : ∀ p ∈ t.parameters, normalName p.1 = p.1
  ordered : OrderedByName t.parameters

/-- What `of` builds is in normal form. -/
theorem normal_of (type subtype : String) (pairs : List (String × String)) :
    (of type subtype pairs).Normal where
  type := normalName_normalName type
  subtype := normalName_normalName subtype
  names _ hp := names_normalParameters hp
  ordered := ordered_normalParameters pairs

/-- A type in normal form is built again from its parts. -/
theorem Normal.of_eq (h : t.Normal) : of t.type t.subtype t.parameters = t := by
  rw [of, h.type, h.subtype, normalParameters_eq_self h.names h.ordered]

/-- **The types in normal form are those that `of` builds.** -/
theorem normal_iff : t.Normal ↔ ∃ type subtype pairs, t = of type subtype pairs := by
  constructor
  · intro h
    exact ⟨t.type, t.subtype, t.parameters, h.of_eq.symm⟩
  · rintro ⟨type, subtype, pairs, rfl⟩
    exact normal_of type subtype pairs

instance (t : MediaType) : Decidable t.Normal :=
  decidable_of_iff (of t.type t.subtype t.parameters = t)
    ⟨fun h => normal_iff.mpr ⟨_, _, _, h.symm⟩, Normal.of_eq⟩

/-- A type keeps its normal form without its parameters. -/
theorem Normal.base (h : t.Normal) : t.base.Normal where
  type := h.type
  subtype := h.subtype
  names := by simp
  ordered := List.Pairwise.nil

/-- A type in normal form stays the same but for its parameters when some are merged in. -/
theorem Normal.base_withParameters (h : t.Normal) (pairs : List (String × String)) :
    (t.withParameters pairs).base = t.base := by
  rw [withParameters, MediaType.base, MediaType.base, of, h.type, h.subtype]

/-- A type without parameters takes over the parameters of a type in normal form as they are. -/
theorem withParameters_eq (hc : c.Normal) (hbase : c.parameters = []) (ht : t.Normal) :
    c.withParameters t.parameters = ⟨c.type, c.subtype, t.parameters⟩ := by
  have hlower : ∀ p ∈ t.parameters, Text.lower p.1 = p.1 := by
    intro p hp
    rw [← ht.names p hp, lower_normalName]
  have hmap : (t.parameters.map fun p => (Text.lower p.1, p.2)) = t.parameters :=
    calc (t.parameters.map fun p => (Text.lower p.1, p.2)) = t.parameters.map id :=
          List.map_congr_left fun p hp => by rw [hlower p hp, id]
      _ = t.parameters := List.map_id _
  have hmerged : ((Assoc.mk c.parameters).putAll t.parameters).entries = t.parameters := by
    rw [hbase]
    exact Assoc.entries_putAll ht.ordered.nodup
  have hnormal : (⟨c.type, c.subtype, t.parameters⟩ : MediaType).Normal :=
    ⟨hc.type, hc.subtype, ht.names, ht.ordered⟩
  rw [withParameters, hmap, hmerged]
  exact hnormal.of_eq

end MediaGraph.MediaType
