import MediaGraph.Xml.NameTable

namespace MediaGraph.Xml

/-!
# Characters of markup

Which characters a document may hold, and which ones names are made of.
-/

/-- Blanks between the parts of a tag. -/
def isSpace (c : Char) : Bool := c = ' ' || c = '\t' || c = '\n' || c = '\r'

/-- The characters that a document may hold. -/
def isXmlChar (c : Char) : Bool :=
  let n := c.toNat
  n = 9 || n = 10 || n = 13 || (0x20 ≤ n && n ≠ 0xFFFE && n ≠ 0xFFFF)

/-- Whether a number lies in one of the ranges. -/
def liesIn (ranges : List (Nat × Nat)) (n : Nat) : Bool :=
  ranges.any fun (first, last) => first ≤ n && n ≤ last

/-- The characters that start a name; the colon is apart. -/
def isNameStart (c : Char) : Bool := c.isAlpha || c = '_' || liesIn nameStartRanges c.toNat

/-- The characters of a name; the colon is apart. -/
def isNameChar (c : Char) : Bool :=
  isNameStart c || c.isDigit || c = '-' || c = '.' || liesIn nameRanges c.toNat

/-- The characters with every kind of line end made a plain one. -/
def plainLineEnds : List Char → List Char
  | [] => []
  | '\r' :: '\n' :: cs => '\n' :: plainLineEnds cs
  | '\r' :: cs => '\n' :: plainLineEnds cs
  | c :: cs => c :: plainLineEnds cs

end MediaGraph.Xml
