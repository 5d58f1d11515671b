namespace MediaGraph

/-!
# Families of services and the shapes of their construction

Every implementation belongs to one of three families.  A class that holds others advertises in
which shapes it can be built.
-/

/-- The three families of implementations. -/
inductive Family where
  | detectors
  | parsers
  | translators
  deriving Repr, DecidableEq

namespace Family

/-- All families, in the order in which they are read and listed. -/
def all : List Family := [.detectors, .parsers, .translators]

/-- The name of a family: of its table in a manifest, and of its listing. -/
def plural : Family → String
  | .detectors => "detectors"
  | .parsers => "parsers"
  | .translators => "translators"

/-- The name of a member of the family. -/
def label : Family → String
  | .detectors => "detector"
  | .parsers => "parser"
  | .translators => "translator"

/-- The name of the abstract class from which every member derives. -/
def baseName : Family → String
  | .detectors => "Detector"
  | .parsers => "Parser"
  | .translators => "Translator"

/-- The group under which installed extensions announce members. -/
def entryPointGroup (f : Family) : String := s!"mediaconf.{f.plural}"

/-- The family of a plural name. -/
def ofPlural? (name : String) : Option Family := all.find? fun f => f.plural == name

end Family

/-- The ways in which a class that holds others can be built. -/
inductive Shape where
  /-- From the known types, a service table and exclusions. -/
  | fromLoader
  /-- From a registry, children and exclusions. -/
  | fromChildrenExcluding
  /-- From a registry and children. -/
  | fromChildren
  /-- From children alone. -/
  | fromList
  /-- Around one inner instance. -/
  | wrapping
  deriving Repr, DecidableEq

/-- All shapes. -/
def Shape.all : List Shape :=
  [.fromLoader, .fromChildrenExcluding, .fromChildren, .fromList, .wrapping]

/-- The name of a shape. -/
def Shape.name : Shape → String
  | .fromLoader => "FROM_LOADER"
  | .fromChildrenExcluding => "FROM_CHILDREN_EXCLUDING"
  | .fromChildren => "FROM_CHILDREN"
  | .fromList => "FROM_LIST"
  | .wrapping => "WRAPPING"

/-- The shape of a name. -/
def Shape.ofName? (name : String) : Option Shape := Shape.all.find? fun s => s.name == name

end MediaGraph
