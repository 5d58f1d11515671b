namespace MediaGraph

/-!
# Chains of incidents

Incidents may link to one another in any way: each has at most one cause and at most one incident
in whose handling it arose, and the links may lead back.  A chain follows the cause, or else the
context, until nothing follows or an incident would come again.

* `IncidentGraph.walk` — the incidents on a chain, none of them twice.
* `IncidentGraph.causeChain` — the texts of a chain.
-/

/-- Something that went wrong; other incidents are named by their numbers. -/
structure Incident where
  kind : String
  text : String
  cause : Option Nat
  context : Option Nat
  deriving Repr, DecidableEq

/-- The incident that comes next on a chain. -/
def Incident.next? (i : Incident) : Option Nat := i.cause <|> i.context

/-- The text of an incident, or its kind when it has none. -/
def Incident.shown (i : Incident) : String := if i.text.isEmpty then i.kind else i.text

/-- An incident as an entry further down a chain: kind and text. -/
def Incident.entry (i : Incident) : String := s!"{i.kind}: {i.shown}"

/-- Incidents by their numbers. -/
abbrev IncidentGraph := List Incident

namespace IncidentGraph

/-- The numbers on the chain from `n` that are not in `seen`, at most `fuel` of them. -/
def walkFrom (g : IncidentGraph) (seen : List Nat) : Nat → Nat → List Nat
  | 0, _ => []
  | fuel + 1, n =>
    if n ∈ seen then []
    else
      match g[n]? with
      | none => []
      | some i =>
        n :: match i.next? with
          | none => []
          | some next => walkFrom g (n :: seen) fuel next

/-- The numbers on the chain from `n`: no more than there are incidents. -/
def walk (g : IncidentGraph) (n : Nat) : List Nat := g.walkFrom [] g.length n

/-- The texts of the chain from `n`: the first one bare, the others with their kinds. -/
def causeChain (g : IncidentGraph) (n : Nat) : List String :=
  match (g.walk n).filterMap (g[·]?) with
  | [] => []
  | first :: rest => first.shown :: rest.map Incident.entry

end IncidentGraph

end MediaGraph
