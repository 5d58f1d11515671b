import MediaGraph.Record
import MediaGraph.Registry.Basic

namespace MediaGraph

/-!
# Building a registry

A draft takes types, aliases and supertypes one after another; `Draft.freeze` makes the registry
that is handed on, and `Registry.thaw` goes back.  Parameters are dropped on the way in, and an
alias keeps the type it was first given.
-/

/-- A registry under construction. -/
structure Draft where
  types : TypeSet
  aliases : Assoc MediaType MediaType
  links : Assoc MediaType MediaType
  deriving Repr, DecidableEq

/-- An alias that already names another type. -/
structure AliasTaken where
  newName : MediaType
  owner : MediaType
  deriving Repr, DecidableEq

/-- The message of a refused alias. -/
def AliasTaken.message (e : AliasTaken) : String :=
  s!"Alias {e.newName} already registered for {e.owner}"

namespace Draft

/-- The draft without entries. -/
def empty : Draft := ⟨[], .empty, .empty⟩

/-- The draft with one more canonical type. -/
def addType (d : Draft) (t : MediaType) : Draft :=
  { d with types := TypeSet.insert t.base d.types }

/-- The draft with some more canonical types. -/
def addTypes (d : Draft) (ts : List MediaType) : Draft := ts.foldl addType d

/-- The draft with another name for `t`; refused when the name belongs to another type. -/
def addAlias (d : Draft) (t newName : MediaType) : Except AliasTaken Draft :=
  match d.aliases.get? newName.base with
  | some owner =>
    if owner ≠ t.base then .error ⟨newName, owner⟩
    else .ok { d.addType t with aliases := d.aliases.put newName.base t.base }
  | none => .ok { d.addType t with aliases := d.aliases.put newName.base t.base }

/-- The draft with a supertype recorded for `t`. -/
def addSupertype (d : Draft) (t supertype : MediaType) : Draft :=
  { d.addType t with links := d.links.put t.base supertype.base }

/-- The registry of what the draft holds. -/
def freeze (d : Draft) : Registry := ⟨d.types, d.aliases, d.links⟩

/-- What is reported when a draft is frozen. -/
def freezeRecord (d : Draft) : Record :=
  ⟨.trace, s!"Freezing media type registry: {d.types.length} types, " ++
    s!"{d.aliases.size} aliases, {d.links.size} supertype links"⟩

end Draft

/-- A draft with what the registry holds. -/
def Registry.thaw (r : Registry) : Draft := ⟨r.types, r.aliases, r.links⟩

/-- A draft is found again in its registry. -/
@[simp] theorem Draft.thaw_freeze (d : Draft) : d.freeze.thaw = d := rfl

/-- A registry is made again by its draft. -/
@[simp] theorem Registry.freeze_thaw (r : Registry) : r.thaw.freeze = r := rfl

end MediaGraph
