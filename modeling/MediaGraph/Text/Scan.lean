namespace MediaGraph.Text

/-!
# Scanners

A scanner takes characters from the front of what is left of a text, or fails.  Scanners that
repeat something are given the number of characters that are left as a bound on their steps.
-/

/-- A scanner of values `α` with failures `ε`. -/
abbrev Scan (ε α : Type) := StateT (List Char) (Except ε) α

namespace Scan

variable {ε : Type}

/-- Fails. -/
def fail {α : Type} (e : ε) : Scan ε α := fun _ => .error e

/-- The first character that is left. -/
def peek? : Scan ε (Option Char) := do return (← get).head?

/-- Whether nothing is left. -/
def atEnd : Scan ε Bool := do return (← get).isEmpty

/-- Takes the first character, or fails with `e` when nothing is left. -/
def next (e : ε) : Scan ε Char := fun cs =>
  match cs with
  | [] => .error e
  | c :: rest => .ok (c, rest)

/-- Passes over some characters. -/
def skip (count : Nat) : Scan ε Unit := modify (·.drop count)

/-- Takes the characters up to the first one that `p` refuses. -/
def takeWhile (p : Char → Bool) : Scan ε (List Char) := fun cs =>
  .ok (cs.takeWhile p, cs.dropWhile p)

/-- Passes over the characters up to the first one that `p` refuses. -/
def skipWhile (p : Char → Bool) : Scan ε Unit := do let _ ← takeWhile p

/-- Whether the text goes on with `s`; nothing is taken. -/
def sees (s : String) : Scan ε Bool := do return s.toList.isPrefixOf (← get)

/-- Takes `s` when the text goes on with it, and says so. -/
def accept (s : String) : Scan ε Bool := do
  if ← sees s then
    skip s.length
    return true
  else return false

/-- Takes `s`, or fails with `e`. -/
def expect (e : ε) (s : String) : Scan ε Unit := do
  if !(← accept s) then fail e

/-- Takes the characters in front of `s`, and `s`; fails with `e` when `s` does not occur. -/
def takeUntil (e : ε) (s : String) : Scan ε (List Char) := fun cs =>
  go s.toList cs
where
  /-- Looks for the end of the taken part character by character. -/
  go (stop : List Char) : List Char → Except ε (List Char × List Char)
    | [] => if stop.isEmpty then .ok ([], []) else .error e
    | c :: cs =>
      if stop.isPrefixOf (c :: cs) then .ok ([], (c :: cs).drop stop.length)
      else (go stop cs).map fun (taken, rest) => (c :: taken, rest)

/-- Runs a scanner on a whole text; fails with `e` when it leaves something. -/
def run {α : Type} (e : ε) (scan : Scan ε α) (text : List Char) : Except ε α :=
  match scan text with
  | .error f => .error f
  | .ok (a, []) => .ok a
  | .ok (_, _ :: _) => .error e

end Scan

end MediaGraph.Text
