namespace MediaGraph.Text

/-!
# Blank characters, and texts cut at them

* `isBlank` — the separators of Unicode together with the control characters that separate text.
* `trim` — a text without the blanks at its two ends.
* `splitAt` — a text cut at every occurrence of one character; `joinWith` undoes it.
-/

/-- Blanks: tabs and line ends, the four information separators, and every space, line or
    paragraph separator. -/
def isBlank (c : Char) : Bool :=
  let n := c.toNat
  (9 ≤ n && n ≤ 13) || (28 ≤ n && n ≤ 32) || n == 0x85 || n == 0xA0 || n == 0x1680 ||
    (0x2000 ≤ n && n ≤ 0x200A) || n == 0x2028 || n == 0x2029 || n == 0x202F || n == 0x205F ||
    n == 0x3000

/-- The characters without the blanks at the front. -/
def trimStart (cs : List Char) : List Char := cs.dropWhile isBlank

/-- The characters without the blanks at the end. -/
def trimEnd (cs : List Char) : List Char := (cs.reverse.dropWhile isBlank).reverse

/-- The characters without the blanks at both ends. -/
def trimChars (cs : List Char) : List Char := trimEnd (trimStart cs)

/-- A text without the blanks at both ends. -/
def trim (s : String) : String := String.ofList (trimChars s.toList)

/-- Whether nothing is left of a text once it is trimmed. -/
def isAllBlank (s : String) : Bool := s.toList.all isBlank

/-! ### Cutting at a character -/

/-- The pieces between the occurrences of `sep`: one more than there are occurrences. -/
def splitChars (sep : Char) : List Char → List (List Char)
  | [] => [[]]
  | c :: cs =>
    if c = sep then [] :: splitChars sep cs
    else
      match splitChars sep cs with
      | [] => [[c]]
      | p :: ps => (c :: p) :: ps

/-- The pieces of a text between the occurrences of `sep`. -/
def splitAt (sep : Char) (s : String) : List String :=
  (splitChars sep s.toList).map String.ofList

/-- The pieces written one after another with `sep` between them. -/
def joinWith (sep : String) (pieces : List String) : String := sep.intercalate pieces

/-- A split yields at least one piece. -/
theorem splitChars_ne_nil (sep : Char) (cs : List Char) : splitChars sep cs ≠ [] := by
  cases cs with
  | nil => simp [splitChars]
  | cons c cs =>
    rw [splitChars]
    split
    · simp
    · split <;> simp

/-- The part before the first `sep` and the part after it, when there is one. -/
def cutFirst? (sep : Char) : List Char → Option (List Char × List Char)
  | [] => none
  | c :: cs =>
    if c = sep then some ([], cs)
    else (cutFirst? sep cs).map fun (before, after) => (c :: before, after)

/-- The part before the last `sep` and the part after it, when there is one. -/
def cutLast? (sep : Char) (cs : List Char) : Option (List Char × List Char) :=
  (cutFirst? sep cs.reverse).map fun (after, before) => (before.reverse, after.reverse)

/-- What follows the last `sep`: the whole text when there is none. -/
def afterLast (sep : Char) (cs : List Char) : List Char :=
  match cutLast? sep cs with
  | some (_, after) => after
  | none => cs

/-- Whether `needle` occurs somewhere in the characters. -/
def occursIn (needle : List Char) : List Char → Bool
  | [] => needle.isEmpty
  | c :: cs => needle.isPrefixOf (c :: cs) || occursIn needle cs

/-- The characters with every `old` replaced by `new`. -/
def replaceChar (old new : Char) (cs : List Char) : List Char :=
  cs.map fun c => if c = old then new else c

end MediaGraph.Text
