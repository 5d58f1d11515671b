namespace MediaGraph

/-!
# Classes of implementations

A class is known by its module path and its name; it derives from itself and from its ancestors.
-/

/-- A class; `ancestors` holds the full names of the classes it derives from. -/
structure ClassRef where
  path : String
  name : String
  ancestors : List String
  deriving Repr, DecidableEq

namespace ClassRef

/-- The full name of a class. -/
def qualified (c : ClassRef) : String := s!"{c.path}.{c.name}"

/-- Whether `c` is `d` or derives from it. -/
def derivesFrom (c d : ClassRef) : Bool :=
  c.qualified == d.qualified || c.ancestors.contains d.qualified

/-- Whether `c` derives from one of the classes. -/
def derivesFromAny (c : ClassRef) (classes : List ClassRef) : Bool :=
  classes.any fun d => c.derivesFrom d

/-- A class that derives from `parent` and its ancestors. -/
def under (parent : ClassRef) (path name : String) : ClassRef :=
  ⟨path, name, parent.qualified :: parent.ancestors⟩

end ClassRef

end MediaGraph
