import MediaGraph.Assoc
import MediaGraph.Class

namespace MediaGraph

/-!
# The context of a parse

A context carries values through nested parsers, at most one for each class of values.

* `ParseContext.get?_set` — what a context answers after a value was set.
-/

/-- Values by the full names of their classes. -/
structure ParseContext (α : Type) where
  values : Assoc String α

namespace ParseContext

variable {α : Type}

/-- The context without values. -/
def empty : ParseContext α := ⟨.empty⟩

/-- The context with a value for a class; nothing removes the value that is there. -/
def set (c : ParseContext α) (cls : ClassRef) : Option α → ParseContext α
  | some a => ⟨c.values.put cls.qualified a⟩
  | none => ⟨c.values.erase cls.qualified⟩

/-- The value for a class. -/
def get? (c : ParseContext α) (cls : ClassRef) : Option α := c.values.get? cls.qualified

/-- Setting a value changes what is found for its own class only. -/
theorem get?_set (c : ParseContext α) (cls other : ClassRef) (a : α) :
    (c.set cls (some a)).get? other
      = if cls.qualified = other.qualified then some a else c.get? other :=
  Assoc.get?_put c.values cls.qualified other.qualified a

end ParseContext

end MediaGraph
