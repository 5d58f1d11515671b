import MediaGraph.Service.Discovery
import MediaGraph.Xml.Element

namespace MediaGraph.Config

/-!
# Capabilities

A capability is all that loading needs to know about one family of components: how its elements
are named, which classes hold others, in which order the shapes of construction are tried, and
how each of them builds an instance.

* `Capability.detectors`, `Capability.parsers` — the two capabilities that are composed.
* `Capability.construct?` — an instance by the first shape that a class advertises.
-/

/-- All that loading needs to know about a family whose instances are of type `ι`. -/
structure Capability (ι : Type) where
  family : Family
  /-- The shapes that are tried, in their order. -/
  priority : List Shape
  /-- Whether an instance holds or wraps others. -/
  isComposite : ι → Bool
  /-- Whether the instances of a class hold or wrap others. -/
  isCompositeClass : Implementation → Bool
  /-- Refuses a class that may not be declared, here under the given name. -/
  checkAllowed : Implementation → String → Except Failure Unit
  /-- Whether a shape may be used for a class. -/
  applies : Shape → Implementation → Bool
  /-- An instance of a class, from children and exclusions. -/
  build : Shape → Implementation → List ι → List ClassRef → Traced ι
  /-- An instance of a class, without arguments. -/
  instantiate : Implementation → Traced ι
  /-- The instance that is used when none is declared. -/
  createDefault : Traced ι
  /-- The plain composite of some instances. -/
  createComposite : List ι → Traced ι
  /-- An instance after the settings of its element. -/
  decorate : ι → Xml.Element → Traced ι
  /-- An instance as reports show it. -/
  shown : ι → String

namespace Capability

variable {ι : Type}

/-- The name of the element around all items. -/
def containerTag (c : Capability ι) : String := c.family.plural

/-- The name of an item element. -/
def itemTag (c : Capability ι) : String := c.family.label

/-- The name of an element that excludes a class. -/
def excludeTag (c : Capability ι) : String := c.itemTag ++ "-exclude"

/-- The name under which a family shows its capability. -/
def nameOf (family : Family) : String :=
  s!"{family.baseName}Binding({family.plural}/{family.label})"

/-- The capability as reports show it. -/
def name (c : Capability ι) : String := nameOf c.family

/-- An instance by the first shape that a class advertises, if there is one. -/
def construct? (c : Capability ι) (i : Implementation) (children : List ι)
    (excluded : List ClassRef) : Traced (Option ι) :=
  match c.priority.find? fun shape => i.advertised.contains shape && c.applies shape i with
  | some shape => do
    Traced.report .trace s!"Building {i.cls.name} with shape {shape.name}"
    return some (← c.build shape i children excluded)
  | none => do
    Traced.report .trace s!"{i.cls.name} advertises no usable construction shape"
    return none

/-! ### Detectors -/

/-- The order in which the shapes of detectors are tried. -/
def detectorPriority : List Shape :=
  [.fromLoader, .fromChildrenExcluding, .fromChildren, .fromList]

/-- A detector of a class by a shape. -/
def buildDetector (w : World) (repository : Repository) (services : ServiceTable) (shape : Shape)
    (i : Implementation) (children : List Detector) (excluded : List ClassRef) :
    Traced Detector :=
  match shape, i.design with
  | .wrapping, _ => Traced.fail (.invalidValue (.shapeUnsupported (nameOf .detectors) .wrapping))
  | .fromLoader, .detector .discovering =>
    defaultDetector w i.cls repository services excluded
  | .fromLoader, .detector (.composite (some own)) =>
    let leaves := own.map fun (cls, sense) => Detector.leaf cls sense
    Detector.compose i.cls repository.registry
      (.repository Detector.repositoryClass repository :: leaves) excluded
  | .fromChildrenExcluding, .detector (.composite _) =>
    Detector.compose i.cls repository.registry children excluded
  | .fromChildren, .detector (.composite _) =>
    Detector.compose i.cls repository.registry children []
  | .fromList, .detector (.composite _) => Detector.compose i.cls .empty children []
  | _, _ => Traced.fail .missingAttribute

/-- The capability of detectors. -/
def detectors (w : World) (repository : Repository) (services : ServiceTable) :
    Capability Detector where
  family := .detectors
  priority := detectorPriority
  isComposite := Detector.isComposite
  isCompositeClass := Implementation.isCompositeDetector
  checkAllowed _ _ := .ok ()
  applies shape _ := detectorPriority.contains shape
  build := buildDetector w repository services
  instantiate := Implementation.newDetector
  createDefault := defaultDetector w Detector.defaultClass repository services []
  createComposite children :=
    Detector.compose Detector.compositeClass repository.registry children []
  decorate d _ := return d
  shown := Detector.shown

/-! ### Parsers -/

/-- The order in which the shapes of parsers are tried. -/
def parserPriority : List Shape :=
  [.fromLoader, .fromChildrenExcluding, .fromChildren, .wrapping]

/-- A parser of a class that is given children. -/
def holdChildren (i : Implementation) (registry : Registry) (children : List Parser)
    (excluded : List ClassRef) : Traced Parser :=
  match i.design with
  | .parser (.composite .holding _) =>
    composeParser i.cls registry children excluded Parser.nothing
  | .parser (.composite (.refusing failure) _) => Traced.fail (failure children.length)
  | .parser .autoDetecting => Traced.fail .wrongType
  | .parser (.bundle ..) => Traced.fail .wrongType
  | _ => Traced.fail .missingAttribute

/-- The one parser that a decorator is built around: a single composite child itself, else a
    composite of the children. -/
def gather (registry : Registry) (children : List Parser) (excluded : List ClassRef) :
    Traced Parser :=
  match children, excluded with
  | [p], [] =>
    if p.isComposite then return p
    else composeParser Parser.compositeClass registry [p] [] Parser.nothing
  | _, _ => composeParser Parser.compositeClass registry children excluded Parser.nothing

/-- A decorator of a class around a parser. -/
def wrap (i : Implementation) (inner : Parser) : Traced Parser :=
  match i.design with
  | .parser (.decorator effect) => return .decorator i.cls effect inner
  | .parser .filter => Traced.fail .wrongType
  | .parser (.bundle ..) => Traced.fail .wrongType
  | _ => Traced.fail .missingAttribute

/-- A parser of a class by a shape. -/
def buildParser (w : World) (repository : Repository) (services : ServiceTable) (shape : Shape)
    (i : Implementation) (children : List Parser) (excluded : List ClassRef) : Traced Parser :=
  match shape, i.design with
  | .fromLoader, .parser .discovering =>
    defaultParser w i.cls repository.registry services excluded
  | .fromLoader, .parser (.composite _ (some own)) =>
    composeParser i.cls repository.registry (own.map fun (cls, job) => Parser.leaf cls job)
      excluded Parser.nothing
  | .fromChildrenExcluding, _ => holdChildren i repository.registry children excluded
  | .fromChildren, _ => holdChildren i repository.registry children []
  | .wrapping, _ => do wrap i (← gather repository.registry children excluded)
  | _, _ => Traced.fail .missingAttribute

/-- The types that the elements of one name write, directly below an element. -/
def readTypes (e : Xml.Element) (tag : String) : Except Failure TypeSet :=
  (e.childTexts tag).foldlM (fun types text =>
    match MediaType.read text with
    | .ok t => .ok (TypeSet.insert t types)
    | .error problem => .error (.configuration (.typeInvalid text) (some (.mediaType problem)))) []

/-- A parser that advertises only the listed types, if any are listed. -/
def restrict (p : Parser) (included : TypeSet) : Traced Parser :=
  if included.isEmpty then return p
  else do
    Traced.report .debug s!"Restricting {p.shown} to {included.length} type(s)"
    return p.withTypes included

/-- A parser that advertises none of the listed types. -/
def exclude (p : Parser) (excluded : TypeSet) : Traced Parser :=
  if excluded.isEmpty then return p
  else do
    Traced.report .debug s!"Excluding {excluded.length} type(s) from {p.shown}"
    return p.withoutTypes excluded

/-- A parser after the settings of its element: the types it may advertise, then the types it may
    not. -/
def filterTypes (p : Parser) (e : Xml.Element) : Traced Parser := do
  let p ← restrict p (← Traced.ofExcept (readTypes e "mime"))
  exclude p (← Traced.ofExcept (readTypes e "mime-exclude"))

/-- The capability of parsers. -/
def parsers (w : World) (repository : Repository) (services : ServiceTable) :
    Capability Parser where
  family := .parsers
  priority := parserPriority
  isComposite p := p.isComposite || p.isDecorator
  isCompositeClass i := i.isCompositeParser || i.isDecorator
  checkAllowed i name :=
    if i.isAutoDetecting then
      .error (.configuration (.autoDetectDeclared Family.parsers.label name) none)
    else .ok ()
  applies shape i :=
    if shape = .wrapping then i.isDecorator && !i.isCompositeParser
    else parserPriority.contains shape
  build := buildParser w repository services
  instantiate := Implementation.newParser w
  createDefault := defaultParser w Parser.defaultClass repository.registry services []
  createComposite children :=
    composeParser Parser.compositeClass repository.registry children [] Parser.nothing
  decorate := filterTypes
  shown := Parser.shown

end Capability

end MediaGraph.Config
