import MediaGraph.Parser.Packaged
import MediaGraph.Service.Family
import MediaGraph.Translator.Basic

namespace MediaGraph

/-!
# Implementations

An implementation is a class together with its design: what its instances are, and which
arguments its construction takes.  `advertised` holds the shapes in which a configuration may
build it.
-/

/-- What a composite class does with children. -/
inductive ChildrenRule where
  /-- Holds them. -/
  | holding
  /-- Fails, with a failure that depends on their number. -/
  | refusing (failure : Nat → Failure)

/-- The design of a class of detectors. -/
inductive DetectorDesign where
  /-- Has no instances. -/
  | abstract
  /-- Fails when it is built. -/
  | failing (f : Failure)
  | leaf (sense : Sense)
  /-- A repository, without types when nothing is given. -/
  | repository
  /-- Holds children.  From a service table it is built, if at all, with the repository and these
      leaves as children. -/
  | composite (own : Option (List (ClassRef × Sense)))
  /-- Holds the repository and what a service table discovers. -/
  | discovering

/-- The design of a class of parsers. -/
inductive ParserDesign where
  /-- Has no instances. -/
  | abstract
  /-- Fails when it is built. -/
  | failing (f : Failure)
  | leaf (job : Job)
  /-- Holds children.  From a service table it is built, if at all, with these leaves. -/
  | composite (rule : ChildrenRule) (own : Option (List (ClassRef × Job)))
  /-- Holds what a service table discovers. -/
  | discovering
  /-- Detects the type of a document and hands it on. -/
  | autoDetecting
  | decorator (effect : Effect)
  /-- A decorator that is only built together with its types. -/
  | filter
  /-- A decorator around one leaf that also holds others. -/
  | bundle (own : List (ClassRef × Job)) (inner : ClassRef × Job)

/-- The design of a class of translators. -/
inductive TranslatorDesign where
  /-- Has no instances. -/
  | abstract
  /-- Fails when it is built. -/
  | failing (f : Failure)
  | leaf (available : Bool) (render : Rendering)
  /-- Chooses among what a service table discovers. -/
  | discovering

/-- The design of a class; a class of none of the families can be named but not used. -/
inductive Design where
  | detector (d : DetectorDesign)
  | parser (p : ParserDesign)
  | translator (t : TranslatorDesign)
  | other

/-- A class with its design. -/
structure Implementation where
  cls : ClassRef
  /-- The shapes that are offered to a configuration. -/
  advertised : List Shape
  /-- The shapes that the class says it supports. -/
  supported : List Shape
  design : Design

namespace Implementation

/-! ### Making implementations -/

/-- A class of detectors that is built in the given shapes. -/
def ofDetector (cls : ClassRef) (shapes : List Shape) (design : DetectorDesign) :
    Implementation :=
  ⟨cls, shapes, shapes, .detector design⟩

/-- A class of parsers that is built in the given shapes. -/
def ofParser (cls : ClassRef) (shapes : List Shape) (design : ParserDesign) : Implementation :=
  ⟨cls, shapes, shapes, .parser design⟩

/-- A class of translators. -/
def ofTranslator (cls : ClassRef) (design : TranslatorDesign) : Implementation :=
  ⟨cls, [], [], .translator design⟩

/-- A class of leaf detectors that give the same answer for every document. -/
def ofAnswer (cls : ClassRef) (t : MediaType) : Implementation :=
  ofDetector cls [] (.leaf (.fixed t))

/-! ### What a class is -/

/-- Whether a class belongs to a family. -/
def isOf (i : Implementation) (family : Family) : Bool :=
  match i.design, family with
  | .detector _, .detectors => true
  | .parser _, .parsers => true
  | .translator _, .translators => true
  | _, _ => false

/-- Whether the instances of a class hold other detectors. -/
def isCompositeDetector (i : Implementation) : Bool :=
  match i.design with
  | .detector (.composite _) => true
  | .detector .discovering => true
  | _ => false

/-- Whether the instances of a class hold other parsers. -/
def isCompositeParser (i : Implementation) : Bool :=
  match i.design with
  | .parser (.composite ..) => true
  | .parser .discovering => true
  | .parser .autoDetecting => true
  | .parser (.bundle ..) => true
  | _ => false

/-- Whether the instances of a class wrap another parser. -/
def isDecorator (i : Implementation) : Bool :=
  match i.design with
  | .parser (.decorator _) => true
  | .parser .filter => true
  | .parser (.bundle ..) => true
  | _ => false

/-- Whether a class is the auto-detecting parser or derives from it, however its instances are
    built. -/
def isAutoDetecting (i : Implementation) : Bool :=
  i.cls.derivesFrom Parser.autoClass ||
    match i.design with
    | .parser .autoDetecting => true
    | _ => false

end Implementation

end MediaGraph
