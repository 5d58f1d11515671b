import MediaGraph.Parser.Dispatch

namespace MediaGraph.Parser

/-!
# The owner of a type

A dispatch table is filled by one pass over the children in which every claim overwrites earlier
ones.  Seen from a single canonical type, only the last child that claims it matters:

* `Claims` — a set of advertised types claims a canonical type under a registry.
* `get?_dispatchTable` — the table answers with the last claimant.
* `get?_dispatchTable_eq_some_iff`, `get?_dispatchTable_eq_none_iff` — what that means for the
  children.
-/

variable {registry : Registry} {key : MediaType}

/-- Whether one of the advertised types is, once normalized, the canonical type `key`. -/
def Claims (registry : Registry) (advertised : TypeSet) (key : MediaType) : Prop :=
  ∃ t ∈ advertised, registry.normalize t = key

instance (registry : Registry) (advertised : TypeSet) (key : MediaType) :
    Decidable (Claims registry advertised key) :=
  inferInstanceAs (Decidable (∃ t ∈ advertised, registry.normalize t = key))

@[simp] theorem not_claims_nil : ¬ Claims registry [] key := by simp [Claims]

/-- A list claims what its first type stands for and what the others claim. -/
theorem claims_cons {t : MediaType} {ts : TypeSet} :
    Claims registry (t :: ts) key ↔ registry.normalize t = key ∨ Claims registry ts key := by
  simp [Claims]

/-- The number of the last child that claims a type. -/
def lastClaimant? (registry : Registry) (key : MediaType) : List TypeSet → Option Nat
  | [] => none
  | advertised :: rest =>
    ((lastClaimant? registry key rest).map (· + 1)).or
      (if Claims registry advertised key then some 0 else none)

/-! ### One pass over the children -/

/-- After the claims of one child, its types belong to it and all others to whom they belonged. -/
theorem get?_claimAll (registry : Registry) (index : Nat) (advertised : TypeSet) (table : Table)
    (key : MediaType) :
    (claimAll registry index advertised table).get? key
      = if Claims registry advertised key then some index else table.get? key := by
  unfold claimAll
  induction advertised generalizing table with
  | nil => simp
  | cons t ts ih =>
    rw [List.foldl_cons, ih, Assoc.get?_put]
    by_cases hts : Claims registry ts key
    · rw [if_pos hts, if_pos (claims_cons.mpr (.inr hts))]
    · rw [if_neg hts]
      by_cases ht : registry.normalize t = key
      · rw [if_pos ht, if_pos (claims_cons.mpr (.inl ht))]
      · rw [if_neg ht, if_neg (fun h => (claims_cons.mp h).elim ht hts)]

/-- After the claims of some children, a type belongs to the last one that claims it. -/
theorem get?_claimFrom (registry : Registry) (index : Nat) (table : Table)
    (claims : List TypeSet) (key : MediaType) :
    (claimFrom registry index table claims).get? key
      = ((lastClaimant? registry key claims).map (index + ·)).or (table.get? key) := by
  induction claims generalizing index table with
  | nil => rfl
  | cons advertised rest ih =>
    -- The children behind claim later, so what they claim covers what the first one claims.
    rw [claimFrom, ih, get?_claimAll, lastClaimant?]
    cases lastClaimant? registry key rest with
    | none => by_cases h : Claims registry advertised key <;> simp [h]
    | some j =>
      simp only [Option.map_some, Option.some_or, Option.some.injEq]
      omega

/-- **Later children win.**  The dispatch table answers with the last child that claims a type. -/
theorem get?_dispatchTable (registry : Registry) (claims : List TypeSet) (key : MediaType) :
    (dispatchTable registry claims).get? key = lastClaimant? registry key claims := by
  rw [dispatchTable, get?_claimFrom]
  cases lastClaimant? registry key claims <;> simp [Assoc.get?, Assoc.empty, Assoc.lookup]

/-! ### What the last claimant is -/

/-- There is no last claimant exactly when nobody claims the type. -/
theorem lastClaimant?_eq_none_iff {claims : List TypeSet} :
    lastClaimant? registry key claims = none ↔ ∀ c ∈ claims, ¬ Claims registry c key := by
  induction claims with
  | nil => simp [lastClaimant?]
  | cons advertised rest ih =>
    rw [lastClaimant?, Option.or_eq_none_iff, Option.map_eq_none_iff, ih, List.forall_mem_cons]
    by_cases h : Claims registry advertised key <;> simp [h]

/-- What holds of all items behind number `i` of a list holds of all items of its tail from number
    `i` on. -/
theorem forall_later_cons {α : Type} {P : α → Prop} {a : α} {as : List α} {i : Nat} :
    (∀ j, i < j → ∀ c, (a :: as)[j]? = some c → P c)
      ↔ ∀ j, i ≤ j → ∀ c, as[j]? = some c → P c := by
  constructor
  · intro h j hj c hc
    exact h (j + 1) (by omega) c (by rw [List.getElem?_cons_succ, hc])
  · intro h j hj c hc
    obtain ⟨j, rfl⟩ : ∃ k, j = k + 1 := ⟨j - 1, by omega⟩
    rw [List.getElem?_cons_succ] at hc
    exact h j (by omega) c hc

/-- The last claimant claims the type, and none behind it does. -/
theorem lastClaimant?_eq_some_iff {claims : List TypeSet} {i : Nat} :
    lastClaimant? registry key claims = some i ↔
      (∃ c, claims[i]? = some c ∧ Claims registry c key) ∧
        ∀ j, i < j → ∀ c, claims[j]? = some c → ¬ Claims registry c key := by
  induction claims generalizing i with
  | nil => simp [lastClaimant?]
  | cons advertised rest ih =>
    rw [lastClaimant?, forall_later_cons]
    cases i with
    | zero =>
      -- The first child is the last claimant when it claims the type and nobody behind it does.
      have hrest : (∀ j, 0 ≤ j → ∀ c, rest[j]? = some c → ¬ Claims registry c key)
          ↔ lastClaimant? registry key rest = none := by
        rw [lastClaimant?_eq_none_iff]
        constructor
        · intro h c hc
          obtain ⟨j, hj⟩ := List.mem_iff_getElem?.mp hc
          exact h j (Nat.zero_le j) c hj
        · intro h j _ c hc
          exact h c (List.mem_of_getElem? hc)
      rw [hrest]
      cases lastClaimant? registry key rest with
      | none => by_cases h : Claims registry advertised key <;> simp [h]
      | some j => simp
    | succ i =>
      have hrest := ih (i := i)
      simp only [← Nat.succ_le_iff] at hrest
      rw [List.getElem?_cons_succ, ← hrest]
      cases lastClaimant? registry key rest with
      | none => by_cases h : Claims registry advertised key <;> simp [h]
      | some j => simp

/-- The types of some parsers, one set for each. -/
theorem typesOfAll_eq_map (ps : List Parser) : typesOfAll ps = ps.map types := by
  induction ps with
  | nil => rfl
  | cons p ps ih => rw [typesOfAll, ih, List.map_cons]

/-- Whether `child`, which is number `i`, is the last child that claims a canonical type. -/
def LastClaimant (registry : Registry) (children : List Parser) (key : MediaType) (i : Nat)
    (child : Parser) : Prop :=
  children[i]? = some child ∧ Claims registry child.types key ∧
    ∀ j, i < j → ∀ later, children[j]? = some later → ¬ Claims registry later.types key

/-- Whether no child claims a canonical type. -/
def Unclaimed (registry : Registry) (children : List Parser) (key : MediaType) : Prop :=
  ∀ child ∈ children, ¬ Claims registry child.types key

/-- The table of some children answers with the last claimant among them. -/
theorem get?_dispatchTable_eq_some_iff {children : List Parser} {i : Nat} :
    (dispatchTable registry (typesOfAll children)).get? key = some i ↔
      ∃ child, LastClaimant registry children key i child := by
  rw [get?_dispatchTable, lastClaimant?_eq_some_iff, typesOfAll_eq_map]
  simp only [List.getElem?_map, Option.map_eq_some_iff, LastClaimant]
  constructor
  · rintro ⟨⟨_, ⟨child, hchild, rfl⟩, hclaims⟩, hlater⟩
    exact ⟨child, hchild, hclaims, fun j hj later hl => hlater j hj _ ⟨later, hl, rfl⟩⟩
  · rintro ⟨child, hchild, hclaims, hlater⟩
    refine ⟨⟨_, ⟨child, hchild, rfl⟩, hclaims⟩, ?_⟩
    rintro j hj _ ⟨later, hl, rfl⟩
    exact hlater j hj later hl

/-- The table of some children does not answer exactly when nobody claims the type. -/
theorem get?_dispatchTable_eq_none_iff {children : List Parser} :
    (dispatchTable registry (typesOfAll children)).get? key = none ↔
      Unclaimed registry children key := by
  rw [get?_dispatchTable, lastClaimant?_eq_none_iff, typesOfAll_eq_map]
  simp [Unclaimed]

end MediaGraph.Parser
