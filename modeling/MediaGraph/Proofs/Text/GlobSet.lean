import MediaGraph.Text.Glob

namespace MediaGraph.Text

/-!
# Bracketed sets

The inside of a bracket is read from the front: two characters with a hyphen between them are a
range, any other character stands for itself.  Ranges that run backwards are left out.  A mark in
front of what is left negates, and what stands behind it is listed.

The items of a pattern get there in another way.  They cut the inside at the hyphens that make
ranges, mend the cuts of backward ranges from the end, and read the members off what is joined.
This file shows that the two ways agree.

* `SetPart.ofInside`, `Admits` — the parts of the inside of a bracket, and what it stands for.
* `splitRanges_cons` — a piece is cut as the piece without its first character.
* `joinPieces_dropBackward` — what is left after the cuts were mended.
* `accepts_readSet_iff` — a set that is read accepts what the inside of the bracket stands for.
-/

/-- A part of the inside of a bracket: a character, or a range with both of its ends. -/
inductive SetPart where
  | single (c : Char)
  | range (first last : Char)
  deriving Repr, DecidableEq

namespace SetPart

/-- The parts of some characters, read from the front. -/
def ofChars : List Char → List SetPart
  | a :: '-' :: b :: rest => .range a b :: ofChars rest
  | a :: rest => .single a :: ofChars rest
  | [] => []

/-- The parts of the inside of a bracket: a mark in front begins no range. -/
def ofInside : List Char → List SetPart
  | '!' :: rest => .single '!' :: ofChars rest
  | inside => ofChars inside

/-- Whether a part is a range that runs backwards. -/
def isBackward : SetPart → Bool
  | .single _ => false
  | .range first last => last.toNat < first.toNat

/-- Some parts without the ranges that run backwards. -/
def forward (parts : List SetPart) : List SetPart := parts.filter (!·.isBackward)

/-- Whether a mark stands in front of some parts, and the parts that are listed then.  Where the
    mark begins a range, the hyphen and the end of the range are. -/
def readMark : List SetPart → Bool × List SetPart
  | .single '!' :: rest => (true, rest)
  | .range '!' last :: rest => (true, .single '-' :: .single last :: rest)
  | parts => (false, parts)

/-- Whether a part stands for a character. -/
def Covers : SetPart → Char → Prop
  | .single a, c => c = a
  | .range first last, c => first.toNat ≤ c.toNat ∧ c.toNat ≤ last.toNat

end SetPart

/-- Whether one of some parts stands for a character. -/
def Covered (parts : List SetPart) (c : Char) : Prop := ∃ p ∈ parts, p.Covers c

/-- Whether the inside of a bracket stands for a character: for what is listed, or with a mark for
    what is not. -/
def Admits (inside : List Char) (c : Char) : Prop :=
  match SetPart.readMark (SetPart.forward (SetPart.ofInside inside)) with
  | (true, parts) => ¬ Covered parts c
  | (false, parts) => Covered parts c

/-- A character behind which no range begins stands for itself. -/
theorem SetPart.ofChars_cons {a : Char} {cs : List Char} (h : ∀ b rest, cs ≠ '-' :: b :: rest) :
    ofChars (a :: cs) = .single a :: ofChars cs := by
  rw [ofChars]
  exact h

/-- Without a mark the parts are read from the very first character. -/
theorem SetPart.ofInside_unmarked {inside : List Char} (h : inside.head? ≠ some '!') :
    ofInside inside = ofChars inside := by
  unfold ofInside
  split
  · exact absurd rfl h
  · rfl

/-- There is no mark in front where the first part does not begin with one. -/
theorem SetPart.readMark_eq_self {p : SetPart} {parts : List SetPart} {a : Char}
    (hp : p = .single a ∨ ∃ b, p = .range a b) (ha : a ≠ '!') :
    readMark (p :: parts) = (false, p :: parts) := by
  rcases hp with rfl | ⟨b, rfl⟩
  · simp [readMark, ha]
  · simp [readMark, ha]

/-! ### Cutting at the hyphens -/

/-- Pieces with a character in front of the first. -/
def inFront (a : Char) : List (List Char) → List (List Char)
  | [] => []
  | p :: rest => (a :: p) :: rest

section

variable {a : Char} {cs p : List Char} {pieces : List (List Char)} {fuel skip : Nat}

/-- **A piece is cut as the piece without its first character**, if this one is skipped. -/
theorem splitRanges_cons (fuel skip : Nat) (a : Char) (cs : List Char) :
    splitRanges fuel (skip + 1) (a :: cs) = inFront a (splitRanges fuel skip cs) := by
  cases fuel with
  | zero => rfl
  | succ fuel =>
    unfold splitRanges
    rw [List.take_succ_cons, List.drop_succ_cons]
    dsimp only
    split <;> rfl

/-- Where no range begins in front, it does not matter whether the first character is skipped. -/
theorem splitRanges_zero (h : ∀ b rest, cs ≠ '-' :: b :: rest) :
    splitRanges fuel 0 cs = splitRanges fuel 1 cs := by
  cases fuel with
  | zero => rfl
  | succ fuel =>
    cases cs with
    | nil => rfl
    | cons x cs =>
      by_cases hx : x = '-'
      · subst hx
        cases cs with
        | nil => rfl
        | cons b rest => exact absurd rfl (h b rest)
      · unfold splitRanges
        simp [hx]

theorem splitRanges_ne_nil (fuel skip : Nat) (cs : List Char) : splitRanges fuel skip cs ≠ [] := by
  cases fuel with
  | zero => exact List.cons_ne_nil _ _
  | succ fuel =>
    unfold splitRanges
    dsimp only
    split <;> exact List.cons_ne_nil _ _

/-- With one character skipped, the first piece is empty only where there is nothing to cut. -/
theorem splitRanges_one (fuel : Nat) (cs : List Char) :
    splitRanges fuel 1 cs = [[]] ∨ ∃ a p rest, splitRanges fuel 1 cs = (a :: p) :: rest := by
  cases cs with
  | nil =>
    left
    cases fuel <;> rfl
  | cons a cs =>
    right
    rw [splitRanges_cons]
    obtain ⟨p, rest, hpieces⟩ := List.exists_cons_of_ne_nil (splitRanges_ne_nil fuel 0 cs)
    exact ⟨a, p, rest, by rw [hpieces, inFront]⟩

/-- A range is cut at its hyphen, and its end begins what is cut next. -/
theorem splitRanges_range (fuel : Nat) (a b : Char) (rest : List Char) :
    splitRanges (fuel + 1) 1 (a :: '-' :: b :: rest)
      = [a] :: inFront b (splitRanges fuel 1 rest) := by
  rw [← splitRanges_cons]
  rfl

/-! ### Mending the cuts -/

/-- The cuts are mended as those of the pieces without the very first character, unless the first
    piece has no other and ends at a cut. -/
theorem dropBackward_inFront
    (h : pieces = [[]] ∨ ∃ x p rest, pieces = (x :: p) :: rest) :
    dropBackward (inFront a pieces) = inFront a (dropBackward pieces) := by
  rcases h with rfl | ⟨x, p, rest, rfl⟩
  · rfl
  · -- The first piece ends in the same character, with the other one in front or without it.
    have hlast : (a :: x :: p).dropLast = a :: (x :: p).dropLast := rfl
    rw [inFront, dropBackward, dropBackward, List.getLast?_cons_cons, hlast]
    split
    · split <;> rfl
    · rfl

/-- A cut between two ends is mended where the range between them runs backwards. -/
theorem dropBackward_range {b : Char} {q : List Char} {more : List (List Char)}
    (h : dropBackward pieces = q :: more)
    (hpieces : pieces = [[]] ∨ ∃ x p rest, pieces = (x :: p) :: rest) :
    dropBackward ([a] :: inFront b pieces)
      = if b.toNat < a.toNat then q :: more else [a] :: (b :: q) :: more := by
  rw [dropBackward, dropBackward_inFront hpieces, h]
  rfl

/-- Nothing stands for the hyphen at a cut. -/
theorem joinPieces_cons (h : pieces ≠ []) :
    joinPieces (p :: pieces) = p.map some ++ none :: joinPieces pieces := by
  cases pieces with
  | nil => exact absurd rfl h
  | cons => rfl

/-- Joining goes on behind the first character. -/
theorem joinPieces_inFront (h : pieces ≠ []) :
    joinPieces (inFront a pieces) = some a :: joinPieces pieces := by
  cases pieces with
  | nil => exact absurd rfl h
  | cons p rest => cases rest <;> rfl

theorem dropBackward_ne_nil (h : pieces ≠ []) : dropBackward pieces ≠ [] := by
  cases pieces with
  | nil => exact absurd rfl h
  | cons p rest =>
    rw [dropBackward]
    split
    · split <;> exact List.cons_ne_nil _ _
    · exact List.cons_ne_nil _ _

/-- A part as it stands among the joined pieces. -/
def SetPart.spelled : SetPart → List (Option Char)
  | .single a => [some a]
  | .range first last => [some first, none, some last]

/-- **What is left after the cuts were mended** is the parts without the ranges that run
    backwards. -/
theorem joinPieces_dropBackward (hfuel : cs.length ≤ fuel) :
    joinPieces (dropBackward (splitRanges fuel 1 cs))
      = (SetPart.forward (SetPart.ofChars cs)).flatMap SetPart.spelled := by
  -- Induction along the parts, for as much fuel as there are characters.
  induction cs using SetPart.ofChars.induct generalizing fuel with
  | case1 a b rest ih =>
    cases fuel with
    | zero => cases hfuel
    | succ fuel =>
      have hlength : rest.length ≤ fuel := by
        simp only [List.length_cons] at hfuel
        omega
      have hrest := ih hlength
      have hmended : dropBackward (splitRanges fuel 1 rest) ≠ [] :=
        dropBackward_ne_nil (splitRanges_ne_nil fuel 1 rest)
      obtain ⟨q, more, hq⟩ := List.exists_cons_of_ne_nil hmended
      rw [hq] at hrest
      -- Where the range runs backwards, both ends are gone and the rest is joined as if it were
      -- all there is.
      rw [splitRanges_range, dropBackward_range hq (splitRanges_one fuel rest), SetPart.ofChars]
      by_cases hbackward : b.toNat < a.toNat
      · have hleft : SetPart.forward (.range a b :: SetPart.ofChars rest)
            = SetPart.forward (SetPart.ofChars rest) :=
          List.filter_cons_of_neg (by simpa [SetPart.isBackward] using hbackward)
        rw [if_pos hbackward, hrest, hleft]
      · have hkept : SetPart.forward (.range a b :: SetPart.ofChars rest)
            = .range a b :: SetPart.forward (SetPart.ofChars rest) :=
          List.filter_cons_of_pos (by simpa [SetPart.isBackward] using hbackward)
        have hnext : joinPieces ((b :: q) :: more) = some b :: joinPieces (q :: more) :=
          joinPieces_inFront (List.cons_ne_nil q more)
        rw [if_neg hbackward, joinPieces_cons (List.cons_ne_nil _ _), hnext, hrest, hkept]
        rfl
  | case2 a rest hrange ih =>
    have hlength : rest.length ≤ fuel := by
      simp only [List.length_cons] at hfuel
      omega
    rw [splitRanges_cons, splitRanges_zero hrange, dropBackward_inFront (splitRanges_one fuel rest),
      joinPieces_inFront (dropBackward_ne_nil (splitRanges_ne_nil fuel 1 rest)), ih hlength,
      SetPart.ofChars_cons hrange]
    rfl
  | case3 => cases fuel <;> rfl

end

/-! ### Reading the members -/

/-- A part as a member of a set. -/
def SetPart.toRange : SetPart → GlobRange
  | .single a => ⟨a, a⟩
  | .range first last => ⟨first, last⟩

/-- The members that are read off joined pieces are the parts. -/
theorem readRanges_spelled (parts : List SetPart) :
    readRanges (parts.flatMap SetPart.spelled) = parts.map SetPart.toRange := by
  induction parts with
  | nil => rfl
  | cons p parts ih =>
    cases p with
    | range first last => exact congrArg (⟨first, last⟩ :: ·) ih
    | single a =>
      -- What follows does not begin with a cut, so no range begins with this character.
      cases parts with
      | nil => rfl
      | cons q parts => cases q <;> exact congrArg (⟨a, a⟩ :: ·) ih

/-- The inside of a bracket is joined to its parts, with a mark or without one. -/
theorem joinPieces_inside (inside : List Char) :
    joinPieces (dropBackward (splitRanges inside.length
        (if inside.head? = some '!' then 2 else 1) inside))
      = (SetPart.forward (SetPart.ofInside inside)).flatMap SetPart.spelled := by
  by_cases hmark : ∃ seq, inside = '!' :: seq
  · obtain ⟨seq, rfl⟩ := hmark
    have hskip : (if ('!' :: seq).head? = some '!' then 2 else 1) = 2 := rfl
    have hne := splitRanges_ne_nil ('!' :: seq).length 1 seq
    rw [hskip, splitRanges_cons, dropBackward_inFront (splitRanges_one _ seq),
      joinPieces_inFront (dropBackward_ne_nil hne), joinPieces_dropBackward (by simp)]
    rfl
  · have hhead : inside.head? ≠ some '!' := by
      rw [ne_eq, List.head?_eq_some_iff]
      exact hmark
    rw [if_neg hhead, joinPieces_dropBackward (Nat.le_refl _), SetPart.ofInside_unmarked hhead]

/-- **A set that is read** is made of the parts of the inside, after the mark was read. -/
theorem readSet_eq (inside : List Char) :
    readSet inside
      = .oneOf (SetPart.readMark (SetPart.forward (SetPart.ofInside inside))).1
          ((SetPart.readMark (SetPart.forward (SetPart.ofInside inside))).2.map
            SetPart.toRange) := by
  unfold readSet
  dsimp only
  rw [joinPieces_inside]
  generalize SetPart.forward (SetPart.ofInside inside) = parts
  split
  · rename_i members hmembers
    -- A mark in front of the joined pieces is a part by itself, or the start of a range.
    cases parts with
    | nil => cases hmembers
    | cons p rest =>
      cases p with
      | single a =>
        cases hmembers
        exact congrArg (GlobItem.oneOf true) (readRanges_spelled rest)
      | range a b =>
        cases hmembers
        have hrest := readRanges_spelled (.single b :: rest)
        exact congrArg (fun ranges => GlobItem.oneOf true (⟨'-', '-'⟩ :: ranges)) hrest
  · rename_i hmark
    rw [readRanges_spelled]
    cases parts with
    | nil => rfl
    | cons p rest =>
      have hplain : SetPart.readMark (p :: rest) = (false, p :: rest) := by
        cases p with
        | single a =>
          refine SetPart.readMark_eq_self (a := a) (.inl rfl) ?_
          rintro rfl
          exact hmark _ rfl
        | range a b =>
          refine SetPart.readMark_eq_self (a := a) (.inr ⟨b, rfl⟩) ?_
          rintro rfl
          exact hmark _ rfl
      rw [hplain]

/-- A part and the member that it is have the same characters. -/
theorem SetPart.covers_iff {p : SetPart} {c : Char} :
    p.Covers c ↔ p.toRange.first.toNat ≤ c.toNat ∧ c.toNat ≤ p.toRange.last.toNat := by
  cases p with
  | range first last => rfl
  | single a =>
    have hsame : c = a ↔ c.toNat = a.toNat := Char.toNat_inj.symm
    rw [SetPart.Covers, SetPart.toRange, hsame]
    dsimp only
    omega

/-- **A set that is read accepts** what the inside of the bracket stands for. -/
theorem accepts_readSet_iff {inside : List Char} {c : Char} :
    (readSet inside).accepts c = true ↔ Admits inside c := by
  rw [readSet_eq, Admits]
  generalize SetPart.readMark (SetPart.forward (SetPart.ofInside inside)) = marked
  obtain ⟨negated, parts⟩ := marked
  have hlisted : ((parts.map SetPart.toRange).any fun r =>
      r.first.toNat ≤ c.toNat && c.toNat ≤ r.last.toNat) = true ↔ Covered parts c := by
    unfold Covered
    simp only [List.any_map, List.any_eq_true, Function.comp_apply, Bool.and_eq_true,
      decide_eq_true_eq, SetPart.covers_iff]
  rw [GlobItem.accepts]
  cases negated with
  | true =>
    dsimp only
    rw [← hlisted, bne_iff_ne]
  | false =>
    dsimp only
    rw [← hlisted, Bool.bne_false]

/-- Behind a range that runs backwards, a mark negates. -/
example : Admits ['z', '-', 'a', '!', 'b'] 'c' ∧ ¬ Admits ['z', '-', 'a', '!', 'b'] 'b' := by
  simp only [← accepts_readSet_iff]
  decide

end MediaGraph.Text
