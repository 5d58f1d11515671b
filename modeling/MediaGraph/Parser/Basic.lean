import MediaGraph.Detector.Basic
import MediaGraph.Parser.Job

namespace MediaGraph

/-!
# Parsers

A tree of parsers: leaves do a job, composites hand a document to the child that claims its type,
decorators change what the parser inside advertises.

* `Parser.types` — what a parser advertises.
* `Parser.innermost` — the parser inside all decorators.
* `Parser.isExcluded` — exclusion looks at a parser and at the innermost one.
-/

/-- What a decorator does to the advertised types. -/
inductive Effect where
  /-- Nothing. -/
  | forwarding
  /-- Adds types. -/
  | adding (types : TypeSet)
  /-- Advertises these types instead. -/
  | restricting (types : TypeSet)
  /-- Leaves types out. -/
  | dropping (types : TypeSet)
  deriving Repr, DecidableEq

/-- The advertised types after an effect. -/
def Effect.apply : Effect → TypeSet → TypeSet
  | .forwarding, inner => inner
  | .adding types, inner => TypeSet.ofList (inner ++ types)
  | .restricting types, _ => types
  | .dropping types, inner => TypeSet.without inner types

/-- Whether an effect asks for the types inside. -/
def Effect.asksInner : Effect → Bool
  | .restricting _ => false
  | _ => true

/-- A tree of parsers. -/
inductive Parser where
  | leaf (cls : ClassRef) (job : Job)
  /-- Children are tried by type; with a detector, the type is detected first. -/
  | composite (cls : ClassRef) (detector : Option Detector) (registry : Registry)
      (children : List Parser) (excluded : List ClassRef) (fallback : Parser)
  | decorator (cls : ClassRef) (effect : Effect) (inner : Parser)
  /-- Both at once: a decorator that also holds children. -/
  | bundle (cls : ClassRef) (registry : Registry) (children : List Parser) (fallback inner : Parser)

namespace Parser

/-- The class of a parser. -/
def cls : Parser → ClassRef
  | .leaf cls _ => cls
  | .composite cls .. => cls
  | .decorator cls .. => cls
  | .bundle cls .. => cls

/-- Whether a parser holds children. -/
def isComposite : Parser → Bool
  | .composite .. => true
  | .bundle .. => true
  | _ => false

/-- Whether a parser wraps another one. -/
def isDecorator : Parser → Bool
  | .decorator .. => true
  | .bundle .. => true
  | _ => false

/-- The children of a parser. -/
def children : Parser → List Parser
  | .composite _ _ _ children _ _ => children
  | .bundle _ _ children _ _ => children
  | _ => []

/-- The classes that a parser leaves out of its children; none where it cannot hold any. -/
def exclusions? : Parser → Option (List ClassRef)
  | .composite _ _ _ _ excluded _ => some excluded
  | .bundle .. => some []
  | _ => none

/-- The parser inside all decorators. -/
def innermost : Parser → Parser
  | .decorator _ _ inner => inner.innermost
  | .bundle _ _ _ _ inner => inner.innermost
  | p => p

/-- Whether a parser, or the one inside its decorators, is of an excluded class. -/
def isExcluded (p : Parser) (excluded : List ClassRef) : Bool :=
  p.cls.derivesFromAny excluded || p.innermost.cls.derivesFromAny excluded

mutual

/-- A parser as reports show it. -/
def shown : Parser → String
  | .leaf cls _ => s!"{cls.name}()"
  | .composite cls _ _ children _ _ =>
    cls.name ++ "([" ++ Text.joinWith ", " (shownAll children) ++ "])"
  | .decorator cls effect inner =>
    match effect with
    | .restricting types => filtered "with_types" inner.shown types
    | .dropping types => filtered "without_types" inner.shown types
    | _ => s!"{cls.name}({inner.shown})"
  | .bundle cls .. => s!"{cls.name}()"
where
  /-- A filtering decorator, with its types in the order of their texts. -/
  filtered (filter inner : String) (types : TypeSet) : String :=
    s!"ParserDecorator.{filter}({inner}, [" ++
      Text.joinWith ", " (MediaType.renderSorted types) ++ "])"

/-- Parsers as reports show them. -/
def shownAll : List Parser → List String
  | [] => []
  | p :: ps => p.shown :: shownAll ps

end

mutual

/-- The types that a parser advertises. -/
def types : Parser → TypeSet
  | .leaf _ job => job.types
  | .composite _ _ registry children _ _ =>
    TypeSet.ofList ((typesOfAll children).flatten.map registry.normalize)
  | .decorator _ effect inner => effect.apply inner.types
  | .bundle _ _ _ _ inner => inner.types

/-- The types that each of the parsers advertises. -/
def typesOfAll : List Parser → List TypeSet
  | [] => []
  | p :: ps => p.types :: typesOfAll ps

end

end Parser

end MediaGraph
