import MediaGraph.Json.Printer
import MediaGraph.Parser.Dispatch
import MediaGraph.Translator.Basic

namespace MediaGraph

/-!
# Descriptions of component trees

A description names the class of a component, the types that a parser advertises, and what the
component wraps or holds.

* `Detector.describe`, `Parser.describe`, `Translator.describe` — the description of a tree;
  `Component.describe` — of a tree of any family.
* `Description.lines` — one line for every component, each level indented by two more blanks.
-/

/-- What is told about a component: what stands inside is described in the same way. -/
inductive Description where
  | leaf (cls : String) (types : Option (List String))
  /-- A component around another one. -/
  | wrapper (cls : String) (types : Option (List String)) (wrapped : Description)
  /-- A component that holds others. -/
  | group (cls : String) (types : Option (List String)) (children : List Description)
  deriving Repr

namespace Description

/-- The line of a component. -/
def line (indent : Int) (cls : String) (types : Option (List String)) : String :=
  let pad := String.ofList (List.replicate (2 * indent.toNat) ' ')
  let listed :=
    match types with
    | none => ""
    | some [] => " [no types]"
    | some names => " [" ++ Text.joinWith ", " names ++ "]"
  s!"{pad}- {cls}{listed}"

mutual

/-- The lines of a description: the component first, then what stands inside it.  The types of a
    component that holds others are left out. -/
def lines (indent : Int) : Description → List String
  | .leaf cls types => [line indent cls types]
  | .wrapper cls types wrapped => line indent cls types :: lines (indent + 1) wrapped
  | .group cls _ children => line indent cls none :: linesOfAll (indent + 1) children

/-- The lines of some descriptions. -/
def linesOfAll (indent : Int) : List Description → List String
  | [] => []
  | d :: ds => lines indent d ++ linesOfAll indent ds

end

/-- The field that lists types. -/
def typesField (types : Option (List String)) : List (String × Json) :=
  match types with
  | none => []
  | some names => [("types", .list (names.map Json.text))]

mutual

/-- A description as a JSON object. -/
def toJson : Description → Json
  | .leaf cls types => .object (("class", .text cls) :: typesField types)
  | .wrapper cls types wrapped =>
    .object (("class", .text cls) :: typesField types ++ [("wrapped", toJson wrapped)])
  | .group cls types children =>
    .object (("class", .text cls) :: typesField types ++ [("children", .list (toJsons children))])

/-- Descriptions as JSON objects. -/
def toJsons : List Description → List Json
  | [] => []
  | d :: ds => toJson d :: toJsons ds

end

end Description

/-! ### Detectors -/

mutual

/-- The description of a detector. -/
def Detector.describe : Detector → Description
  | .leaf cls _ => .leaf cls.qualified none
  | .repository cls _ => .leaf cls.qualified none
  | .composite cls _ children => .group cls.qualified none (Detector.describeAll children)

/-- The descriptions of some detectors. -/
def Detector.describeAll : List Detector → List Description
  | [] => []
  | d :: ds => Detector.describe d :: Detector.describeAll ds

end

/-! ### Parsers -/

namespace Parser

/-- The types of a parser as they are listed. -/
def listedTypes (types : TypeSet) : Option (List String) := some (MediaType.renderSorted types)

mutual

/-- The description of a parser; one that holds others is described by them, also when it wraps
    something. -/
def describe : Parser → Description
  | .leaf cls job => .leaf cls.qualified (listedTypes job.types)
  | .decorator cls effect inner =>
    .wrapper cls.qualified (listedTypes (effect.apply inner.types)) (describe inner)
  | .composite cls detector registry children excluded fallback =>
    .group cls.qualified
      (listedTypes (Parser.composite cls detector registry children excluded fallback).types)
      (describeAll children)
  | .bundle cls _ children _ inner =>
    .group cls.qualified (listedTypes inner.types) (describeAll children)

/-- The descriptions of some parsers. -/
def describeAll : List Parser → List Description
  | [] => []
  | p :: ps => describe p :: describeAll ps

end

mutual

/-- What is reported when a parser is described: every parser is asked for its types. -/
def describeRecords : Parser → List Record
  | .leaf .. => []
  | .decorator cls effect inner =>
    (Parser.decorator cls effect inner).typesRecords ++ describeRecords inner
  | .composite cls detector registry children excluded fallback =>
    (Parser.composite cls detector registry children excluded fallback).typesRecords ++
      describeAllRecords children
  | .bundle cls registry children fallback inner =>
    (Parser.bundle cls registry children fallback inner).typesRecords ++
      describeAllRecords children

/-- What is reported when some parsers are described. -/
def describeAllRecords : List Parser → List Record
  | [] => []
  | p :: ps => describeRecords p ++ describeAllRecords ps

end

end Parser

/-! ### Translators -/

mutual

/-- The description of a translator. -/
def Translator.describe : Translator → Description
  | .leaf cls _ _ => .leaf cls.qualified none
  | .chooser cls candidates => .group cls.qualified none (Translator.describeAll candidates)

/-- The descriptions of some translators. -/
def Translator.describeAll : List Translator → List Description
  | [] => []
  | t :: ts => Translator.describe t :: Translator.describeAll ts

end

/-! ### Components -/

/-- A component of any family. -/
inductive Component where
  | detector (d : Detector)
  | parser (p : Parser)
  | translator (t : Translator)

namespace Component

/-- The class of a component. -/
def cls : Component → ClassRef
  | .detector d => d.cls
  | .parser p => p.cls
  | .translator t => t.cls

/-- A component as reports show it. -/
def shown : Component → String
  | .detector d => d.shown
  | .parser p => p.shown
  | .translator t => t.shown

/-- The description of a component, and what is reported on the way. -/
def describe : Component → Traced Description
  | .detector d => return d.describe
  | .parser p => ⟨.ok p.describe, p.describeRecords⟩
  | .translator t => return t.describe

/-- The components that a component holds; none where it cannot hold any. -/
def children : Component → Option (List Component)
  | .detector (.composite _ _ ds) => some (ds.map .detector)
  | .detector _ => none
  | .parser p => if p.isComposite then some (p.children.map .parser) else none
  | .translator (.chooser _ ts) => some (ts.map .translator)
  | .translator _ => none

end Component

end MediaGraph
