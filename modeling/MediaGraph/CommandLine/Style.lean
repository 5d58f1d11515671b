import MediaGraph.Logging.Line

namespace MediaGraph.CommandLine

/-!
# Styled text

Text on a terminal is styled by control sequences.  Where styles are not wanted, sequences are
taken out of everything that is printed.

* `Style.apply` — a text in a style.
* `plain` — a text without control sequences.
-/

/-- How a text looks. -/
structure Style where
  green : Bool
  bold : Bool
  underline : Bool
  deriving Repr, DecidableEq

namespace Style

/-- The style of a text that does not stand out. -/
def normal : Style := ⟨false, false, false⟩

/-- The numbers of the sequences that a style needs, in their order. -/
def codes (s : Style) : List Nat :=
  (if s.green then [32] else []) ++ (if s.bold then [1] else []) ++
    (if s.underline then [4] else [])

/-- A text in a style, which ends with it. -/
def apply (s : Style) (text : String) : String :=
  String.join (s.codes.map Logging.colourCode) ++ text ++ Logging.colourCode 0

end Style

/-- Whether a character may be a parameter of a control sequence. -/
def isParameter (c : Char) : Bool := '0' ≤ c && c ≤ '?'

/-- Whether a character may stand between the parameters and the end of a control sequence. -/
def isIntermediate (c : Char) : Bool := ' ' ≤ c && c ≤ '/'

/-- Whether a character may end a control sequence. -/
def isFinal (c : Char) : Bool := '@' ≤ c && c ≤ '~'

/-- What follows the control sequence at the front, if one is there. -/
def skipSequence? : List Char → Option (List Char)
  | '\x1b' :: '[' :: cs =>
    match (cs.dropWhile isParameter).dropWhile isIntermediate with
    | c :: rest => if isFinal c then some rest else none
    | [] => none
  | _ => none

/-- Characters without control sequences, of which there are at most `fuel`. -/
def dropSequences : Nat → List Char → List Char
  | 0, cs => cs
  | _ + 1, [] => []
  | fuel + 1, c :: cs =>
    match skipSequence? (c :: cs) with
    | some rest => dropSequences fuel rest
    | none => c :: dropSequences fuel cs

/-- A text without control sequences. -/
def plain (s : String) : String := String.ofList (dropSequences s.length s.toList)

end MediaGraph.CommandLine
