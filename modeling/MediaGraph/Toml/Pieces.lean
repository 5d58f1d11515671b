import MediaGraph.Toml.Value

namespace MediaGraph.Toml

/-!
# Tables in pieces

While a document is read, a table is the sequence of what was put into it.  A key may stand there
more than once: a table that was left and taken up again lies in several pieces, which are put
together once the document ends.

* `put` — a table with one more piece, when the pieces agree.
* `assign` — a table with the value of a dotted key.
* `finish` — the table that pieces make up.
-/

/-- Why a text is no document. -/
inductive Problem where
  /-- The text is not well formed. -/
  | malformed
  /-- A key is given twice. -/
  | keyRepeated
  /-- Values, or the parts of a key, lie too deep in one another. -/
  | tooDeep
  deriving Repr, DecidableEq

/-- A dotted key. -/
abbrev KeyPath := List String

/-- The name of a piece; `dotted` when it is the front part of a dotted key. -/
structure Label where
  name : String
  dotted : Bool
  deriving Repr, DecidableEq

/-- What stands under a key.  A table is `passed` when a longer key went through it and nothing
    has opened it. -/
inductive Piece where
  | value (v : Value)
  | table (passed : Bool) (pieces : List (Label × Piece))
  | tables (elements : List (List (Label × Piece)))
  deriving Repr

/-- A table while it is read. -/
abbrev Pieces := List (Label × Piece)

namespace Piece

/-- Whether a piece is a table. -/
def isTable : Piece → Bool
  | .table .. => true
  | _ => false

/-- What a piece that is a table holds. -/
def inside : Piece → Pieces
  | .table _ pieces => pieces
  | _ => []

end Piece

namespace Pieces

/-- The pieces of one key. -/
def under (name : String) (ps : Pieces) : List Piece :=
  (ps.filter fun p => p.1.name = name).map Prod.snd

/-- The last piece of a key. -/
def last? (name : String) (ps : Pieces) : Option (Label × Piece) :=
  ps.reverse.find? fun p => p.1.name = name

/-- Whether the last table that was put into a table stands under a key. -/
def endsWith (name : String) (ps : Pieces) : Bool :=
  (ps.reverse.find? fun p => p.2.isTable).any fun p => p.1.name = name

/-- The pieces with the last one of a key made anew. -/
def replaceLast (name : String) (piece : Piece) (ps : Pieces) : Pieces :=
  go ps.reverse |>.reverse
where
  /-- Replaces the first one. -/
  go : Pieces → Pieces
    | [] => []
    | (l, p) :: rest => if l.name = name then (l, piece) :: rest else (l, p) :: go rest

/-- The keys, each at its first place. -/
def names (ps : Pieces) : List String :=
  ps.foldl (fun ns p => if ns.contains p.1.name then ns else ns ++ [p.1.name]) []

/-- What the tables among some pieces hold, one after another. -/
def joined (pieces : List Piece) : Pieces := pieces.flatMap Piece.inside

/-- Whether every key that stands more than once among some pieces stands for tables up to its
    last place. -/
def areOpen (ps : Pieces) : Bool :=
  ps.names.all fun n => ((ps.under n).dropLast).all Piece.isTable

end Pieces

open Pieces

mutual

/-- A table with one more piece.  A table that was only passed through can be passed through again
    and can be opened; a table that was opened can be passed through; the last table of an array
    can be passed through, and an array can go on.  With `check`, pieces of one key that lie apart
    have to agree; `depth` bounds how far tables lie in one another. -/
def put (check : Bool) : Nat → Label → Piece → Pieces → Except Problem Pieces
  | 0, _, _, _ => .error .malformed
  | depth + 1, label, piece, ps =>
    let apart : Except Problem Pieces := do
      let longer := ps ++ [(label, piece)]
      if check then agree depth (longer.under label.name)
      return longer
    let pass (added before : Pieces) : Except Problem Pieces :=
      added.foldlM (fun ps p => do
        let ps ← put true depth p.1 p.2 ps
        look depth p.1.name ps
        return ps) before
    match ps.last? label.name with
    | none => .ok (ps ++ [(label, piece)])
    | some (earlier, current) =>
      match current, piece with
      | .table true before, .table true added =>
        if label.dotted || earlier.dotted || !ps.endsWith label.name then apart
        else (pass added before).map fun merged => ps.replaceLast label.name (.table true merged)
      | .table true _, .table false _ => if earlier.dotted then .error .keyRepeated else apart
      | .table false _, .table true _ => if label.dotted then .error .keyRepeated else apart
      | .tables elements, .table true added =>
        match elements.getLast? with
        | none => .error .keyRepeated
        | some before =>
          (pass added before).map fun merged =>
            ps.replaceLast label.name (.tables (elements.dropLast ++ [merged]))
      | .tables elements, .tables more =>
        .ok (ps.replaceLast label.name (.tables (elements ++ more)))
      | _, _ => .error .keyRepeated

/-- Whether the pieces of one key agree: what they hold can be put into one table. -/
def agree : Nat → List Piece → Except Problem Unit
  | 0, _ => .error .malformed
  | depth + 1, pieces =>
    if pieces.length ≤ 1 then .ok ()
    else do
      let whole ← (joined pieces).foldlM (fun ps p => put false depth p.1 p.2 ps) []
      whole.names.forM fun name => agree depth (whole.under name)

/-- Whether a key can be looked at: where its pieces lie apart, no piece in front of another may
    hold a closed value under a key of both, and what they hold has to agree. -/
def look : Nat → String → Pieces → Except Problem Unit
  | 0, _, _ => .error .malformed
  | depth + 1, name, ps =>
    let pieces := ps.under name
    if pieces.length ≤ 1 then .ok ()
    else
      let whole := joined pieces
      if areOpen whole then whole.names.forM fun name => agree depth (whole.under name)
      else .error .keyRepeated

end

/-- Whether the pieces of every key of a table agree. -/
def agreeAll (depth : Nat) (ps : Pieces) : Except Problem Unit :=
  ps.names.forM fun name => agree depth (ps.under name)

/-- The table that the front parts of a dotted key pass through, down to a value. -/
def chain (v : Value) : String → KeyPath → Label × Piece
  | name, [] => (⟨name, false⟩, .value v)
  | name, next :: rest => (⟨name, true⟩, .table true [chain v next rest])

/-- A table with the value of a dotted key. -/
def assign (check : Bool) (depth : Nat) (path : KeyPath) (v : Value) (ps : Pieces) :
    Except Problem Pieces :=
  match path with
  | [] => .error .malformed
  | [name] => put check depth ⟨name, false⟩ (.value v) ps
  | name :: rest => let link := chain v name rest; put true depth link.1 link.2 ps

mutual

/-- The table that pieces make up, when they agree. -/
def finish : Nat → Pieces → Except Problem Table
  | 0, _ => .error .malformed
  | depth + 1, ps =>
    ps.names.mapM fun name => do
      match ps.under name with
      | [piece] => return (name, ← finishPiece depth piece)
      | pieces => do
        look (depth + 1) name ps
        return (name, .table (← finish depth (joined pieces)))

/-- The value of a piece. -/
def finishPiece : Nat → Piece → Except Problem Value
  | 0, _ => .error .malformed
  | _ + 1, .value v => .ok v
  | depth + 1, .table _ ps => return .table (← finish depth ps)
  | depth + 1, .tables elements => return .array (← elements.mapM fun ps =>
      return .table (← finish depth ps))

end

end MediaGraph.Toml
