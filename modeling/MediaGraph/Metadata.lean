import MediaGraph.Assoc
import MediaGraph.Text.Blank
import MediaGraph.Text.Quoted

namespace MediaGraph

/-!
# Metadata of a document

Named facts about a document, in the order in which they became known.  Two names have a meaning
here: the name of the resource and the declared type.
-/

/-- Named facts about a document. -/
abbrev Metadata := Assoc String String

/-- The key of the resource name. -/
def resourceNameKey : String := "resourceName"

/-- The key of the declared type. -/
def contentTypeKey : String := "Content-Type"

/-- The facts in the form in which reports show them. -/
def Metadata.shown (m : Metadata) : String :=
  "\x7b" ++ Text.joinWith ", "
    (m.entries.map fun (k, v) => Text.quoted k ++ ": " ++ Text.quoted v) ++ "\x7d"

end MediaGraph
