import MediaGraph.Toml.Statement

namespace MediaGraph.Toml

/-!
# From statements to tables

A header opens a table, and the keys below it belong to that table.  Headers whose keys go on from
the key of an open table are read as part of it; the others begin a new piece of the document.

* `read` — the table of a document.
-/

/-- Whether a key goes on from another one. -/
def isBelow (upper lower : KeyPath) : Bool := upper ≠ lower && upper.isPrefixOf lower

/-- A piece under the last of some names, with the tables that the names in front pass through. -/
def nested (piece : Piece) : String → KeyPath → Label × Piece
  | name, [] => (⟨name, false⟩, piece)
  | name, next :: rest => (⟨name, false⟩, .table true [nested piece next rest])

/-- A table with one more piece, which is looked at. -/
def putBelow (depth : Nat) (label : Label) (piece : Piece) (ps : Pieces) :
    Except Problem Pieces := do
  let ps ← put false depth label piece ps
  look depth label.name ps
  return ps

/-- A table with one more key, which is looked at. -/
def assignBelow (depth : Nat) (path : KeyPath) (v : Value) (ps : Pieces) :
    Except Problem Pieces := do
  let ps ← assign false depth path v ps
  look depth (path.headD "") ps
  return ps

mutual

/-- What follows a header with the key `path`, up to the first header that does not go on from
    it: the pieces of its table, and the statements that are left. -/
def readBody (depth : Nat) (path : KeyPath) :
    Nat → Pieces → List Statement → Except Problem (Pieces × List Statement)
  | 0, _, _ => .error .malformed
  | _ + 1, ps, [] => do
    agreeAll depth ps
    return (ps, [])
  | _ + 1, _, .broken problem :: _ => .error problem
  | fuel + 1, ps, .assign key v :: rest => do
    readBody depth path fuel (← assignBelow depth key v ps) rest
  | fuel + 1, ps, header@(.table lower) :: rest => do
    if isBelow path lower then
      let (label, piece, rest) ← readTable depth path fuel false lower rest
      readBody depth path fuel (← putBelow depth label piece ps) rest
    else
      agreeAll depth ps
      return (ps, header :: rest)
  | fuel + 1, ps, header@(.element lower) :: rest => do
    if isBelow path lower then
      let (label, piece, rest) ← readTable depth path fuel true lower rest
      readBody depth path fuel (← putBelow depth label piece ps) rest
    else
      agreeAll depth ps
      return (ps, header :: rest)

/-- The table of a header inside the table with the key `upper`, from what follows the header. -/
def readTable (depth : Nat) (upper : KeyPath) :
    Nat → Bool → KeyPath → List Statement → Except Problem (Label × Piece × List Statement)
  | 0, _, _, _ => .error .malformed
  | fuel + 1, isElement, path, rest => do
    let (body, rest) ← readBody depth path fuel [] rest
    match path.drop upper.length with
    | [] => .error .malformed
    | [name] =>
      if isElement then
        let (elements, rest) ← readElements depth path fuel rest
        return (⟨name, false⟩, .tables (body :: elements), rest)
      else return (⟨name, false⟩, .table false body, rest)
    | name :: next :: more =>
      let piece := if isElement then .tables [body] else .table false body
      let link := nested piece name (next :: more)
      return (link.1, link.2, rest)

/-- The tables of an array that follow one another. -/
def readElements (depth : Nat) (path : KeyPath) :
    Nat → List Statement → Except Problem (List Pieces × List Statement)
  | 0, _ => .error .malformed
  | fuel + 1, .element other :: rest => do
    if other = path then
      let (body, rest) ← readBody depth path fuel [] rest
      let (elements, rest) ← readElements depth path fuel rest
      return (body :: elements, rest)
    else return ([], .element other :: rest)
  | _ + 1, rest => .ok ([], rest)

end

/-- The pieces of a document.  A piece that does not fit at the outermost level makes the document
    ill-formed. -/
def readPieces (depth : Nat) : Nat → Pieces → List Statement → Except Problem Pieces
  | 0, _, _ => .error .malformed
  | _ + 1, ps, [] => .ok ps
  | _ + 1, _, .broken problem :: _ => .error problem
  | fuel + 1, ps, .assign key v :: rest => do
    let ps ← (assign true depth key v ps).mapError fun _ => Problem.malformed
    readPieces depth fuel ps rest
  | fuel + 1, ps, .table path :: rest => do
    let (label, piece, rest) ← readTable depth [] fuel false path rest
    let ps ← (put true depth label piece ps).mapError fun _ => Problem.malformed
    readPieces depth fuel ps rest
  | fuel + 1, ps, .element path :: rest => do
    let (label, piece, rest) ← readTable depth [] fuel true path rest
    let ps ← (put true depth label piece ps).mapError fun _ => Problem.malformed
    readPieces depth fuel ps rest

/-- The table that a document writes. -/
def read (text : String) : Except Problem Table := do
  let cs := text.toList
  let statements := readStatements (cs.length + 1) cs
  let depth := 4 * cs.length + 16
  finish depth (← readPieces depth (2 * statements.length + 2) [] statements)

end MediaGraph.Toml
