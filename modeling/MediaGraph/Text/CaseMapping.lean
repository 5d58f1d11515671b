import MediaGraph.Text.CaseTable

namespace MediaGraph.Text

/-!
# Lower and upper case

The full case mappings of Unicode: one character may map to several, and a sigma that ends a
word maps to the final form.  Everything else maps character by character, so on a text without
a capital sigma `lower` is a plain concatenation.
-/

/-- Whether `n` lies in one of the ranges. -/
def inRanges (ranges : List (Nat × Nat)) (n : Nat) : Bool :=
  ranges.any fun (first, last) => first ≤ n && n ≤ last

/-- The image of `n` under a run, when the run covers it. -/
def CaseRun.image? (r : CaseRun) (n : Nat) : Option Nat :=
  if r.first ≤ n && n ≤ r.last && (n - r.first) % r.stride == 0 then
    some ((n : Int) + r.shift).toNat
  else none

/-- The mapping of one character by a table of runs and a table of longer images. -/
def mapChar (runs : List CaseRun) (long : List (Nat × List Nat)) (c : Char) : List Char :=
  match runs.findSome? (·.image? c.toNat) with
  | some n => [Char.ofNat n]
  | none =>
    match long.lookup c.toNat with
    | some ns => ns.map Char.ofNat
    | none => [c]

/-- The lower case of one character, wherever it stands. -/
def lowerChar (c : Char) : List Char :=
  if c.toNat < 0x80 then [c.toLower] else mapChar lowerRuns lowerLong c

/-- The upper case of one character. -/
def upperChar (c : Char) : List Char :=
  if c.toNat < 0x80 then [c.toUpper] else mapChar upperRuns upperLong c

/-- Whether the character has case and is not skipped when a word is looked at. -/
def isCased (c : Char) : Bool := inRanges casedRanges c.toNat

/-- Whether the character is skipped when the case of its neighbours is looked at. -/
def isCaseIgnorable (c : Char) : Bool := inRanges caseIgnorableRanges c.toNat

/-- Whether the first character that is not skipped has case. -/
def startsCased (cs : List Char) : Bool :=
  match cs.dropWhile isCaseIgnorable with
  | c :: _ => isCased c
  | [] => false

/-- Lower case of the rest of a text; `before` holds the characters already passed, last first. -/
def lowerFrom (before : List Char) : List Char → List Char
  | [] => []
  | c :: cs =>
    let image :=
      if c = '\u03a3' then
        if startsCased before && !startsCased cs then ['\u03c2'] else ['\u03c3']
      else lowerChar c
    image ++ lowerFrom (c :: before) cs

/-- Lower case of a text, with the final form of a sigma that ends a word. -/
def lowerChars (cs : List Char) : List Char := lowerFrom [] cs

/-- Lower case of a text. -/
def lower (s : String) : String := String.ofList (lowerChars s.toList)

/-- Upper case of a text. -/
def upper (s : String) : String := String.ofList (s.toList.flatMap upperChar)

end MediaGraph.Text
