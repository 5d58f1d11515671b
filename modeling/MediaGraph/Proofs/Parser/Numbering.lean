import MediaGraph.Parser.Basic

namespace MediaGraph.Parser

/-!
# Numbers in an instance tree

The items of a configuration can be numbered in document order, and so can the parsers of the tree
that they are loaded as: a parser that holds all items below its own holds instances of the items
that follow.  A number that comes up again stands for an item that was loaded again.

* `numbered`, `numberedAll` — the parsers of a tree, and of some trees, with their numbers.
* `occurrences` — how often a number comes up.
-/

mutual

/-- The parsers of an instance tree, the parser itself first, each with the number of the item that
    it is an instance of.  Items are numbered in document order, the item of the parser itself being
    number `n`; the children of an instance of an item are the instances of the items that follow. -/
def numbered (n : Nat) : Parser → List (Nat × Parser)
  | .leaf cls job => [(n, .leaf cls job)]
  | .composite cls detector registry children excluded fallback =>
    (n, .composite cls detector registry children excluded fallback) :: numberedAll (n + 1) children
  | .decorator cls effect inner => [(n, .decorator cls effect inner)]
  | .bundle cls registry children fallback inner =>
    (n, .bundle cls registry children fallback inner) :: numberedAll (n + 1) children

/-- The parsers of the instance trees of some items, which are numbered from `n` on. -/
def numberedAll (n : Nat) : List Parser → List (Nat × Parser)
  | [] => []
  | p :: ps => numbered n p ++ numberedAll (n + 1) ps

end

/-- How often an item occurs among the parsers of a tree. -/
def occurrences (parts : List (Nat × Parser)) (n : Nat) : Nat := parts.countP fun part => part.1 = n

/-- A parser comes first in its tree, and its children follow. -/
theorem numbered_eq (n : Nat) (p : Parser) :
    p.numbered n = (n, p) :: numberedAll (n + 1) p.children := by
  cases p <;> rfl

theorem numberedAll_append (n : Nat) (ps qs : List Parser) :
    numberedAll n (ps ++ qs) = numberedAll n ps ++ numberedAll (n + ps.length) qs := by
  induction ps generalizing n with
  | nil => rfl
  | cons p ps ih =>
    rw [List.cons_append, numberedAll, ih, numberedAll, List.append_assoc, List.length_cons,
      Nat.add_right_comm, Nat.add_assoc]

variable {parts : List (Nat × Parser)} {p : Parser} {n k : Nat}

@[simp] theorem occurrences_nil : occurrences [] n = 0 := rfl

@[simp] theorem occurrences_append (other : List (Nat × Parser)) :
    occurrences (parts ++ other) n = occurrences parts n + occurrences other n :=
  List.countP_append

/-- The first part counts for its own item. -/
theorem occurrences_cons :
    occurrences ((k, p) :: parts) n = occurrences parts n + if k = n then 1 else 0 := by
  simp [occurrences, List.countP_cons]

/-- An item that no part is an instance of does not occur. -/
theorem occurrences_eq_zero (h : ∀ part ∈ parts, part.1 ≠ n) : occurrences parts n = 0 :=
  List.countP_eq_zero.mpr fun part hpart => by simpa using h part hpart

end MediaGraph.Parser
