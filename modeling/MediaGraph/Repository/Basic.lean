import MediaGraph.Registry.Draft
import MediaGraph.Stream.Basic

namespace MediaGraph

/-!
# The repository of media types

A repository is a registry together with the rules by which its types are recognized: name
patterns and leading bytes.
-/

/-- The rules for one type. -/
structure TypeRules where
  mediaType : MediaType
  description : String
  globs : List String
  magic : List Bytes
  deriving Repr, DecidableEq

/-- A registry and the rules for its types; `source` tells where it was read. -/
structure Repository where
  registry : Registry
  rules : Assoc MediaType TypeRules
  source : String
  deriving Repr, DecidableEq

namespace Repository

/-- The source of a repository that was read nowhere. -/
def memorySource : String := "<memory>"

/-- The repository without types. -/
def empty : Repository := ⟨.empty, .empty, memorySource⟩

/-- The repository as reports show it. -/
def shown (r : Repository) : String :=
  s!"MimeRepository(source={Text.quoted r.source}, types={r.registry.size})"

/-- The rules for the type that `t` names. -/
def rulesFor? (r : Repository) (t : MediaType) : Option TypeRules :=
  r.rules.get? (r.registry.normalize t).base

/-- All rules, in the order of their types. -/
def listed (r : Repository) : List TypeRules :=
  (sortBy (fun a b => MediaType.before a.1 b.1) r.rules.entries).map (·.2)

end Repository

end MediaGraph
