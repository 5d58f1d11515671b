namespace MediaGraph

/-!
# Sorting by insertion

`sortBy before xs` puts every item in front of the first one that it comes before, so items
that are not told apart keep their order.

* `mem_sortBy` — sorting keeps the items.
* `pairwise_sortBy`, `sortBy_eq_self` — sorting orders them, and leaves them where they are in
  order.
-/

/-- Puts `x` in front of the first item that it comes before. -/
def insertBy {α : Type} (before : α → α → Bool) (x : α) : List α → List α
  | [] => [x]
  | y :: ys => if before x y then x :: y :: ys else y :: insertBy before x ys

/-- The items in the order `before`. -/
def sortBy {α : Type} (before : α → α → Bool) (xs : List α) : List α :=
  xs.foldl (fun sorted x => insertBy before x sorted) []

/-- Texts in the order of their code points. -/
def sortTexts (xs : List String) : List String := sortBy (fun a b => decide (a < b)) xs

/-- Inserting an element adds that element and no other. -/
theorem mem_insertBy {α : Type} (before : α → α → Bool) (x y : α) (xs : List α) :
    y ∈ insertBy before x xs ↔ y = x ∨ y ∈ xs := by
  induction xs with
  | nil => simp [insertBy]
  | cons z zs ih =>
    rw [insertBy]
    split
    · simp
    · simp [ih, or_left_comm]

/-- Inserting elements one by one adds those elements and no others. -/
theorem mem_foldl_insertBy {α : Type} (before : α → α → Bool) (y : α) (xs acc : List α) :
    y ∈ xs.foldl (fun sorted x => insertBy before x sorted) acc ↔ y ∈ xs ∨ y ∈ acc := by
  induction xs generalizing acc with
  | nil => simp
  | cons x xs ih =>
    rw [List.foldl_cons, ih, mem_insertBy]
    simp only [List.mem_cons]
    constructor
    · rintro (h | h | h)
      · exact Or.inl (Or.inr h)
      · exact Or.inl (Or.inl h)
      · exact Or.inr h
    · rintro ((h | h) | h)
      · exact Or.inr (Or.inl h)
      · exact Or.inl h
      · exact Or.inr (Or.inr h)

/-- Sorting keeps the elements. -/
theorem mem_sortBy {α : Type} (before : α → α → Bool) (y : α) (xs : List α) :
    y ∈ sortBy before xs ↔ y ∈ xs := by
  simp [sortBy, mem_foldl_insertBy]

/-! ### The order of what is sorted -/

section Order

variable {α : Type} {before : α → α → Bool}

/-- Inserting an item that can be compared with all others keeps the order. -/
theorem pairwise_insertBy
    (trans : ∀ x y z, before x y = true → before y z = true → before x z = true) {x : α}
    {xs : List α} (hxs : xs.Pairwise fun y z => before y z = true)
    (hx : ∀ y ∈ xs, before x y = true ∨ before y x = true) :
    (insertBy before x xs).Pairwise fun y z => before y z = true := by
  induction xs with
  | nil => simp [insertBy]
  | cons y ys ih =>
    obtain ⟨hy, hys⟩ := List.pairwise_cons.mp hxs
    rw [insertBy]
    split
    · rename_i hxy
      refine List.pairwise_cons.mpr ⟨?_, hxs⟩
      intro z hz
      rcases List.mem_cons.mp hz with rfl | hz
      · exact hxy
      · exact trans x y z hxy (hy z hz)
    · rename_i hxy
      refine List.pairwise_cons.mpr ⟨?_, ih hys fun z hz => hx z (List.mem_cons_of_mem _ hz)⟩
      intro z hz
      rcases (mem_insertBy before x z ys).mp hz with rfl | hz
      · exact (hx y List.mem_cons_self).resolve_left hxy
      · exact hy z hz

/-- Items of which any two can be compared are in order once they are sorted. -/
theorem pairwise_sortBy
    (trans : ∀ x y z, before x y = true → before y z = true → before x z = true) {xs : List α}
    (hxs : xs.Pairwise fun x y => before x y = true ∨ before y x = true) :
    (sortBy before xs).Pairwise fun x y => before x y = true := by
  suffices hfrom : ∀ acc : List α, acc.Pairwise (fun x y => before x y = true) →
      (∀ x ∈ xs, ∀ y ∈ acc, before x y = true ∨ before y x = true) →
      (xs.foldl (fun sorted x => insertBy before x sorted) acc).Pairwise
        fun x y => before x y = true from
    hfrom [] List.Pairwise.nil (by simp)
  intro acc hacc hcomparable
  induction xs generalizing acc with
  | nil => exact hacc
  | cons x xs ih =>
    obtain ⟨hx, hxs⟩ := List.pairwise_cons.mp hxs
    apply ih hxs
    · exact pairwise_insertBy trans hacc (hcomparable x List.mem_cons_self)
    · intro z hz y hy
      rcases (mem_insertBy before x y acc).mp hy with rfl | hy
      · exact (hx z hz).symm
      · exact hcomparable z (List.mem_cons_of_mem _ hz) y hy

/-- An item that comes before no other one goes to the end. -/
theorem insertBy_eq_append {x : α} {xs : List α} (h : ∀ y ∈ xs, before x y = false) :
    insertBy before x xs = xs ++ [x] := by
  induction xs with
  | nil => rfl
  | cons y ys ih =>
    rw [insertBy, if_neg (by simp [h y List.mem_cons_self]),
      ih fun z hz => h z (List.mem_cons_of_mem _ hz), List.cons_append]

/-- Sorting leaves items in order where they are. -/
theorem sortBy_eq_self {xs : List α} (h : xs.Pairwise fun x y => before y x = false) :
    sortBy before xs = xs := by
  suffices hfrom : ∀ acc : List α, (acc ++ xs).Pairwise (fun x y => before y x = false) →
      xs.foldl (fun sorted x => insertBy before x sorted) acc = acc ++ xs from hfrom [] h
  intro acc hacc
  induction xs generalizing acc with
  | nil => simp
  | cons x xs ih =>
    have hx : ∀ y ∈ acc, before x y = false := fun y hy =>
      (List.pairwise_append.mp hacc).2.2 y hy x List.mem_cons_self
    have happend : acc ++ x :: xs = acc ++ [x] ++ xs := by simp
    rw [happend] at hacc ⊢
    rw [List.foldl_cons, insertBy_eq_append hx]
    exact ih (h.sublist (List.sublist_cons_self _ _)) _ hacc

end Order

end MediaGraph
