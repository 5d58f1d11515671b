import MediaGraph.Parser.Packaged
import MediaGraph.Proofs.Parser.Lookup

namespace MediaGraph.Parser

/-!
# Aliases in a lookup

A lookup normalizes every type that it passes, but it climbs on from the type as it was written.  So
an alias is looked up like the type it names only as long as the supertypes of its own name do not
matter.  This file says when that is so:

* `passes` — the canonical types on the way up, each where it is passed first.
* `eq_of_findSome?_rank` — lists without repetitions are equal when no pair of owners tells them
  apart.
* `lookup_normalize_iff` — for which children, and for which types, an alias and the type it names
  are looked up alike.
* `lookup_alias_ne` — a registry, one alias in it, under which they are not.
-/

variable {registry : Registry} {t : MediaType}

/-- The canonical types that a lookup of `t` asks the table for, without repetitions. -/
def passes (registry : Registry) (t : MediaType) : List MediaType :=
  ((registry.walk t).map registry.normalize).eraseDups

/-! ### Searching without repetitions -/

/-- Leaving out items that are no hits does not change what a search finds. -/
theorem findSome?_filter_of_none {α β : Type} {f : α → Option β} {p : α → Bool} {as : List α}
    (h : ∀ a, p a = false → f a = none) : (as.filter p).findSome? f = as.findSome? f := by
  induction as with
  | nil => rfl
  | cons a as ih =>
    rw [List.filter_cons]
    split
    · rw [List.findSome?_cons, List.findSome?_cons, ih]
    · rename_i hp
      rw [ih, List.findSome?_cons, h a (by simpa using hp)]

/-- The items that differ from the first one are fewer than all. -/
theorem length_filter_ne_lt {α : Type} [BEq α] (a : α) (as : List α) :
    (as.filter fun b => !b == a).length < (a :: as).length := by
  have hle := List.length_filter_le (fun b => !b == a) as
  rw [List.length_cons]
  omega

/-- A search never needs the repetitions. -/
theorem findSome?_eraseDups {α β : Type} [BEq α] [LawfulBEq α] (f : α → Option β)
    (as : List α) : as.eraseDups.findSome? f = as.findSome? f := by
  induction h : as.length using Nat.strongRecOn generalizing as with
  | ind n ih =>
    cases as with
    | nil => rfl
    | cons a as =>
      have hlen : (as.filter fun b => !b == a).length < n := h ▸ length_filter_ne_lt a as
      rw [List.eraseDups_cons, List.findSome?_cons, List.findSome?_cons, ih _ hlen _ rfl]
      cases ha : f a with
      | some b => rfl
      | none =>
        refine findSome?_filter_of_none fun b hb => ?_
        have hba : b = a := by simpa using hb
        rw [hba, ha]

/-- Nothing is repeated once the repetitions are erased. -/
theorem nodup_eraseDups {α : Type} [BEq α] [LawfulBEq α] (as : List α) : as.eraseDups.Nodup := by
  induction h : as.length using Nat.strongRecOn generalizing as with
  | ind n ih =>
    cases as with
    | nil => exact List.nodup_nil
    | cons a as =>
      have hlen : (as.filter fun b => !b == a).length < n := h ▸ length_filter_ne_lt a as
      rw [List.eraseDups_cons, List.nodup_cons]
      refine ⟨?_, ih _ hlen _ rfl⟩
      rw [List.mem_eraseDups, List.mem_filter]
      rintro ⟨_, ha⟩
      simp at ha

/-! ### Telling two ways up apart -/

/-- What a table says of a key when child 0 claims `a` and, behind it, child 1 claims `b`. -/
def rank (a b key : MediaType) : Option Nat :=
  if b = key then some 1 else if a = key then some 0 else none

theorem rank_eq_none {a b key : MediaType} (ha : a ≠ key) (hb : b ≠ key) :
    rank a b key = none := by
  rw [rank, if_neg hb, if_neg ha]

/-- Two lists without repetitions are equal when no two children, each claiming one of the listed
    types, tell them apart. -/
theorem eq_of_findSome?_rank {ks ls : List MediaType} (hks : ks.Nodup) (hls : ls.Nodup)
    (h : ∀ a ∈ ks ++ ls, ∀ b ∈ ks ++ ls, ks.findSome? (rank a b) = ls.findSome? (rank a b)) :
    ks = ls := by
  induction ks generalizing ls with
  | nil =>
    cases ls with
    | nil => rfl
    | cons l ls => simpa [rank] using h l (by simp) l (by simp)
  | cons k ks ih =>
    cases ls with
    | nil => simpa [rank] using h k (by simp) k (by simp)
    | cons l ls =>
      obtain rfl : k = l := by
        by_contra hne
        have hkl := h k (by simp) l (by simp)
        simp [rank, Ne.symm hne] at hkl
      rw [List.nodup_cons] at hks hls
      refine congrArg _ (ih hks.2 hls.2 fun a ha b hb => ?_)
      -- Types further up differ from `k`, so `k` is no hit and both searches pass it.
      have hne : ∀ c ∈ ks ++ ls, c ≠ k := by
        rintro c hc rfl
        exact (List.mem_append.mp hc).elim hks.1 hls.1
      have hmem : ∀ c ∈ ks ++ ls, c ∈ k :: ks ++ k :: ls := by
        intro c hc
        simp only [List.mem_append, List.mem_cons] at hc ⊢
        exact hc.elim (.inl ∘ .inr) (.inr ∘ .inr)
      have hab := h a (hmem a ha) b (hmem b hb)
      rwa [List.findSome?_cons, List.findSome?_cons, rank_eq_none (hne a ha) (hne b hb)] at hab

/-! ### Lookups of an alias -/

/-- The chosen child is found in the table by the canonical types on the way up. -/
theorem choose_eq_findSome?_passes (registry : Registry) (children : List Parser)
    (t : MediaType) :
    choose registry children (some t)
      = (passes registry t).findSome? (dispatchTable registry (typesOfAll children)).get? := by
  rw [passes, findSome?_eraseDups, List.findSome?_map]
  rfl

/-- A leaf of a class `name` that advertises one type. -/
def advertiser (name : String) (t : MediaType) : Parser :=
  .leaf ⟨"", name, []⟩ (.custom [t] fun _ m => (.ok ⟨name, m⟩, m))

/-- The table of two advertisers. -/
theorem get?_dispatchTable_advertisers (registry : Registry) (u v key : MediaType) :
    (dispatchTable registry
        (typesOfAll [advertiser "A" u, advertiser "B" v])).get? key
      = rank (registry.normalize u) (registry.normalize v) key := by
  rw [get?_dispatchTable, typesOfAll_eq_map]
  simp only [List.map_cons, List.map_nil, advertiser, types, Job.types, lastClaimant?,
    claims_cons, not_claims_nil, or_false, rank]
  by_cases hv : registry.normalize v = key <;> by_cases hu : registry.normalize u = key <;>
    simp [hv, hu]

/-- Two advertisers and a fallback of a third class show which child was chosen. -/
theorem choose_eq_of_selected_eq {u v t' : MediaType}
    (h : selected registry [advertiser "A" u, advertiser "B" v] nothing t
      = selected registry [advertiser "A" u, advertiser "B" v] nothing t') :
    choose registry [advertiser "A" u, advertiser "B" v] (some t)
      = choose registry [advertiser "A" u, advertiser "B" v] (some t') := by
  have bound : ∀ s i, choose registry [advertiser "A" u, advertiser "B" v] (some s) = some i →
      i = 0 ∨ i = 1 := by
    intro s i hi
    obtain ⟨_, _, child, _, ⟨hchild, -⟩, -⟩ := choose_eq_some_iff.mp hi
    have hlt : i < 2 := (List.getElem?_eq_some_iff.mp hchild).1
    omega
  -- Both numbers are among three outcomes, and the parsers for these have different classes.
  rw [selected, selected] at h
  cases ht : choose registry [advertiser "A" u, advertiser "B" v] (some t) with
  | none =>
    cases ht' : choose registry [advertiser "A" u, advertiser "B" v] (some t') with
    | none => rfl
    | some j =>
      rw [ht, ht'] at h
      rcases bound t' j ht' with rfl | rfl <;>
        simp [advertiser, nothing, emptyClass, ClassRef.under] at h
  | some i =>
    cases ht' : choose registry [advertiser "A" u, advertiser "B" v] (some t') with
    | none =>
      rw [ht, ht'] at h
      rcases bound t i ht with rfl | rfl <;>
        simp [advertiser, nothing, emptyClass, ClassRef.under] at h
    | some j =>
      rw [ht, ht'] at h
      rcases bound t i ht with rfl | rfl <;> rcases bound t' j ht' with rfl | rfl
      · rfl
      · simp [advertiser] at h
      · simp [advertiser] at h
      · rfl

/-- **When an alias is looked up like the type it names.**  For given children, exactly when one
    parser is the last claimant of the nearest claimed type above both of them (or the fallback for
    both).  Whatever the children, exactly when the ways up from both pass the same canonical types
    in the same order. -/
theorem lookup_normalize_iff (registry : Registry) (t : MediaType) :
    (∀ cls detector children excluded fallback,
      ((Parser.composite cls detector registry children excluded fallback).find? (some t)).map
            (·.result)
          = ((Parser.composite cls detector registry children excluded fallback).find?
              (some (registry.normalize t))).map (·.result) ↔
        ∃ found, Selects registry children fallback t found ∧
          Selects registry children fallback (registry.normalize t) found) ∧
      ((∀ cls detector children excluded fallback,
        ((Parser.composite cls detector registry children excluded fallback).find?
            (some t)).map (·.result)
          = ((Parser.composite cls detector registry children excluded fallback).find?
              (some (registry.normalize t))).map (·.result)) ↔
        passes registry t = passes registry (registry.normalize t)) := by
  simp only [result_find?_composite, Option.some.injEq, Except.ok.injEq]
  refine ⟨fun _ _ children _ fallback => ?_, ?_, ?_⟩
  · constructor
    · intro h
      exact ⟨_, selects_selected registry children fallback t, selects_iff.mpr h.symm⟩
    · rintro ⟨found, h, h'⟩
      rw [selects_iff.mp h, selects_iff.mp h']
  · intro h
    refine eq_of_findSome?_rank (nodup_eraseDups _) (nodup_eraseDups _) fun a ha b hb => ?_
    -- Every type that is passed is the canonical type of something, which a child can advertise.
    have source : ∀ c ∈ passes registry t ++ passes registry (registry.normalize t),
        ∃ u, registry.normalize u = c := by
      intro c hc
      simp only [passes, List.mem_append, List.mem_eraseDups, List.mem_map] at hc
      rcases hc with ⟨u, -, hu⟩ | ⟨u, -, hu⟩ <;> exact ⟨u, hu⟩
    obtain ⟨u, rfl⟩ := source a ha
    obtain ⟨v, rfl⟩ := source b hb
    have hchoose := choose_eq_of_selected_eq
      (h compositeClass none [advertiser "A" u, advertiser "B" v] [] nothing)
    rw [choose_eq_findSome?_passes, choose_eq_findSome?_passes] at hchoose
    simpa only [funext (get?_dispatchTable_advertisers registry u v)] using hchoose
  · intro h _ _ children _ fallback
    rw [selected, selected, choose_eq_findSome?_passes, choose_eq_findSome?_passes, h]

/-! ### An alias that is looked up differently -/

/-- The type `text/xml`. -/
def textXml : MediaType := ⟨"text", "xml", []⟩

/-- A parser for `text/plain`. -/
def plainLeaf : Parser := .leaf textClass (.plainText .listed)

/-- A composite that holds this parser only. -/
def textOnly (registry : Registry) : Parser :=
  .composite compositeClass none registry [plainLeaf] [] nothing

/-- The draft in which `text/xml` is another name of `application/xml`. -/
def markupAlias : Draft := ⟨[.applicationXml], ⟨[(textXml, .applicationXml)]⟩, .empty⟩

/-- Under that registry the alias goes to the parser of plain text, which lies above the name
    `text/xml`, and the type that the alias names goes to the fallback. -/
theorem lookup_alias_ne :
    Draft.empty.addAlias .applicationXml textXml = .ok markupAlias ∧
      markupAlias.freeze.normalize textXml = .applicationXml ∧
      ((textOnly markupAlias.freeze).find? (some textXml)).map (·.result)
        = some (.ok plainLeaf) ∧
      ((textOnly markupAlias.freeze).find? (some .applicationXml)).map (·.result)
        = some (.ok nothing) ∧
      nothing ≠ plainLeaf := by
  have hxml : choose markupAlias.freeze [plainLeaf] (some textXml) = some 0 := by decide
  have happ : choose markupAlias.freeze [plainLeaf] (some .applicationXml) = none := by decide
  refine ⟨rfl, by decide, ?_, ?_, by simp [nothing, plainLeaf]⟩
  · rw [textOnly, result_find?_composite, selected_of_choose hxml rfl]
  · rw [textOnly, result_find?_composite, selected_of_choose_none happ]

end MediaGraph.Parser
