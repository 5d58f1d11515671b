namespace MediaGraph.Text

/-!
# Name patterns

A pattern is made of characters, `*` (any run), `?` (any character) and bracketed sets with
ranges, where `!` in front negates.  A bracket that is never closed stands for itself, and so do
hyphens that have no end of a range on either side.

A name is matched from its end: for every item, it is known of which tails of the name it and the
items behind it match all.  So the work is bounded by the product of both lengths.

* `GlobItem.ofChars` — the items of a pattern.
* `globMatches` — whether a whole name matches.
-/

/-- A member of a bracketed set. -/
structure GlobRange where
  first : Char
  last : Char
  deriving Repr, DecidableEq

/-- An item of a pattern. -/
inductive GlobItem where
  | char (c : Char)
  | any
  | run
  | oneOf (negated : Bool) (ranges : List GlobRange)
  deriving Repr, DecidableEq

/-- The pieces of the inside of a bracket between the hyphens that make ranges.  The first `skip`
    characters of a piece are no such hyphens; behind a hyphen that makes a range, two characters
    are not. -/
def splitRanges : Nat → Nat → List Char → List (List Char)
  | 0, _, cs => [cs]
  | fuel + 1, skip, cs =>
    let (lead, rest) := (cs.take skip, cs.drop skip)
    match rest.dropWhile (· ≠ '-') with
    | [] => [cs]
    | [_] => [cs]
    | _ :: after => (lead ++ rest.takeWhile (· ≠ '-')) :: splitRanges fuel 2 after

/-- Pieces without the ranges that run backwards: both ends of one go, and what is left of its
    pieces is joined. -/
def dropBackward : List (List Char) → List (List Char)
  | [] => []
  | p :: rest =>
    match p.getLast?, dropBackward rest with
    | some a, (b :: q) :: more =>
      if b.toNat < a.toNat then (p.dropLast ++ q) :: more else p :: (b :: q) :: more
    | _, more => p :: more

/-- Pieces as characters, with nothing for each hyphen that makes a range. -/
def joinPieces : List (List Char) → List (Option Char)
  | [] => []
  | [p] => p.map some
  | p :: rest => p.map some ++ none :: joinPieces rest

/-- The members that joined pieces list; a hyphen without a start of its range stands for
    itself. -/
def readRanges : List (Option Char) → List GlobRange
  | some a :: none :: some b :: rest => ⟨a, b⟩ :: readRanges rest
  | some a :: rest => ⟨a, a⟩ :: readRanges rest
  | none :: rest => ⟨'-', '-'⟩ :: readRanges rest
  | [] => []

/-- The set of the inside of a bracket.  Ranges that run backwards are dropped first, so a mark
    that then stands in front negates as well. -/
def readSet (inside : List Char) : GlobItem :=
  let skip := if inside.head? = some '!' then 2 else 1
  match joinPieces (dropBackward (splitRanges inside.length skip inside)) with
  | some '!' :: rest => .oneOf true (readRanges rest)
  | members => .oneOf false (readRanges members)

/-- The inside of a bracket and what follows it, when it is closed: a closing bracket right at
    the start, or behind the mark, belongs to the inside. -/
def cutSet? (cs : List Char) : Option (List Char × List Char) :=
  let (mark, rest) :=
    match cs with
    | '!' :: rest => (['!'], rest)
    | _ => ([], cs)
  let (lead, rest) :=
    match rest with
    | ']' :: rest => ([']'], rest)
    | _ => ([], rest)
  match rest.dropWhile (· ≠ ']') with
  | [] => none
  | _ :: after => some (mark ++ lead ++ rest.takeWhile (· ≠ ']'), after)

/-- The items of a pattern; `fuel` bounds their number. -/
def readGlob : Nat → List Char → List GlobItem
  | 0, _ => []
  | _, [] => []
  | fuel + 1, '*' :: cs => .run :: readGlob fuel cs
  | fuel + 1, '?' :: cs => .any :: readGlob fuel cs
  | fuel + 1, '[' :: cs =>
    match cutSet? cs with
    | none => .char '[' :: readGlob fuel cs
    | some (inside, after) => readSet inside :: readGlob fuel after
  | fuel + 1, c :: cs => .char c :: readGlob fuel cs

/-- The items of a pattern. -/
def GlobItem.ofChars (pattern : List Char) : List GlobItem := readGlob pattern.length pattern

/-- Whether an item other than a run matches a character. -/
def GlobItem.accepts : GlobItem → Char → Bool
  | .char a, c => a = c
  | .any, _ => true
  | .run, _ => false
  | .oneOf negated ranges, c =>
    (ranges.any fun r => r.first.toNat ≤ c.toNat && c.toNat ≤ r.last.toNat) != negated

/-- For every tail of some values, whether one of them from there on is true. -/
def anyFrom : List Bool → List Bool
  | [] => []
  | b :: bs =>
    let later := anyFrom bs
    (b || later.head?.getD false) :: later

/-- For every tail of the characters, the empty one last, whether the items match all of it. -/
def matchTails (cs : List Char) : List GlobItem → List Bool
  | [] => cs.map (fun _ => false) ++ [true]
  | .run :: items => anyFrom (matchTails cs items)
  | item :: items =>
    List.zipWith (fun c rest => item.accepts c && rest) cs (matchTails cs items).tail ++ [false]

/-- Whether the items match all of the characters. -/
def matchItems (items : List GlobItem) (cs : List Char) : Bool :=
  (matchTails cs items).head?.getD false

/-- Whether a whole name matches a pattern. -/
def globMatches (pattern name : String) : Bool :=
  matchItems (GlobItem.ofChars pattern.toList) name.toList

end MediaGraph.Text
