import MediaGraph.MediaType.Printer

namespace MediaGraph

/-!
# The registry of media types

A registry knows canonical types, other names for them, and explicit supertypes.  Where no
supertype is recorded, the shape of the name decides.

* `Registry.normalize` — the canonical type of an alias, with the parameters kept.
* `Registry.supertype?` — one step towards `application/octet-stream`.
* `Registry.walk` — all types on the way up, up to the first repetition.
* `Registry.isInstance`, `Registry.isSpecialization` — what the way up passes.
-/

/-- Canonical types, aliases and explicit supertypes. -/
structure Registry where
  types : TypeSet
  aliases : Assoc MediaType MediaType
  links : Assoc MediaType MediaType
  deriving Repr, DecidableEq

namespace Registry

/-- The registry without entries: the names alone decide. -/
def empty : Registry := ⟨[], .empty, .empty⟩

/-- The canonical type that `t` names, with the parameters of `t`. -/
def normalize (r : Registry) (t : MediaType) : MediaType :=
  match r.aliases.get? t.base with
  | none => t
  | some canonical =>
    if t.hasParameters then canonical.withParameters t.parameters else canonical

/-- The supertype that the name of a type without parameters implies. -/
def impliedSupertype? (t : MediaType) : Option MediaType :=
  if "+xml".toList.isSuffixOf t.subtype.toList && t ≠ .applicationXml then some .applicationXml
  else if "+zip".toList.isSuffixOf t.subtype.toList && t ≠ .applicationZip then
    some .applicationZip
  else if t.type = "text" && t ≠ .textPlain then some .textPlain
  else if Text.occursIn "empty".toList t.subtype.toList && t ≠ .emptyDocument then
    some .emptyDocument
  else if t ≠ .octetStream then some .octetStream
  else none

/-- The closest supertype: the type without its parameters, else the recorded one, else the one
    that the name implies. -/
def supertype? (r : Registry) (t : MediaType) : Option MediaType :=
  if t.hasParameters then some t.base
  else
    match r.links.get? t with
    | some s => some s
    | none => impliedSupertype? t

/-- The types from `t` upwards that are not in `seen`, at most `fuel` of them. -/
def walkFrom (r : Registry) (seen : List MediaType) : Nat → MediaType → List MediaType
  | 0, _ => []
  | fuel + 1, t =>
    if t ∈ seen then []
    else
      t :: match r.supertype? t with
        | none => []
        | some s => walkFrom r (t :: seen) fuel s

/-- An upper bound on the number of different types on a way up: a type and its base, five
    types implied by names, and every recorded supertype with its base. -/
def reach (r : Registry) : Nat := 8 + 2 * r.links.size

/-- The different types on the way up from `t`, which comes first. -/
def walk (r : Registry) (t : MediaType) : List MediaType := r.walkFrom [] r.reach t

/-- Whether `b` lies on the way up from `a`. -/
def isInstance (r : Registry) (a b : MediaType) : Bool := (r.walk a).contains b

/-- Whether `b` lies on the way up from a supertype of `a`. -/
def isSpecialization (r : Registry) (a b : MediaType) : Bool :=
  match r.supertype? a with
  | none => false
  | some s => r.isInstance s b

/-- Whether the type that `t` names is registered. -/
def contains (r : Registry) (t : MediaType) : Bool := (r.normalize t).base ∈ r.types

/-- The aliases of the type that `t` names. -/
def aliasesOf (r : Registry) (t : MediaType) : TypeSet :=
  TypeSet.ofList ((r.aliases.entries.filter fun e => e.2 = r.normalize t).map (·.1))

/-- The number of canonical types. -/
def size (r : Registry) : Nat := r.types.length

/-- `t`, its supertype, the supertype of that, and so on: at most `count` types, repetitions
    included. -/
def chain (r : Registry) : Nat → MediaType → List MediaType
  | 0, _ => []
  | count + 1, t =>
    t :: match r.supertype? t with
      | none => []
      | some s => r.chain count s

end Registry

end MediaGraph
