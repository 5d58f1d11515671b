import MediaGraph.Xml.Element
import MediaGraph.Xml.Token

namespace MediaGraph.Xml

/-!
# Names and namespaces

Tags are read with names as they are written.  `resolve` replaces every name by its expanded form,
the address of its namespace between braces in front, and drops the attributes that bind
namespaces.
-/

/-- Content with names as they are written. -/
inductive RawNode where
  | text (s : List Char)
  | element (name : QName) (attributes : List (QName × String)) (content : List RawNode)
  deriving Repr

/-- The namespaces in force: the address of every bound name, none standing for the default. -/
abbrev Scope := List (Option String × String)

/-- The address of the namespace of the language attributes. -/
def xmlAddress : String := "http://www.w3.org/XML/1998/namespace"

/-- The address of the namespace of the bindings themselves. -/
def bindingAddress : String := "http://www.w3.org/2000/xmlns/"

/-- The scope of a document. -/
def Scope.initial : Scope := [(some "xml", xmlAddress)]

/-- A name in expanded form. -/
def expanded (address name : String) : String :=
  if address.isEmpty then name else "\x7b" ++ address ++ "\x7d" ++ name

/-- The scope after the bindings among some attributes. -/
def bind (scope : Scope) : List (QName × String) → Except Fault Scope
  | [] => .ok scope
  | (⟨none, "xmlns"⟩, address) :: rest =>
    if address = xmlAddress ∨ address = bindingAddress ∨ address.toList.contains '\x7d' then
      .error .malformedMarkup
    else bind ((none, address) :: scope) rest
  | (⟨some "xmlns", name⟩, address) :: rest =>
    if name = "xmlns" ∨ address.isEmpty ∨ address = bindingAddress ∨
        address.toList.contains '\x7d' ∨ ((name = "xml") ≠ (address = xmlAddress)) then
      .error .malformedMarkup
    else bind ((some name, address) :: scope) rest
  | _ :: rest => bind scope rest

/-- The expanded name of an element. -/
def elementName (scope : Scope) (name : QName) : Except Fault String :=
  match scope.lookup name.front, name.front with
  | some address, _ => .ok (expanded address name.rest)
  | none, none => .ok name.rest
  | none, some _ => .error .malformedMarkup

/-- Whether an attribute binds a namespace. -/
def isBinding (name : QName) : Bool := name = ⟨none, "xmlns"⟩ || name.front = some "xmlns"

/-- The expanded name of an attribute; without a colon it belongs to no namespace. -/
def attributeName (scope : Scope) (name : QName) : Except Fault String :=
  match name.front with
  | none => .ok name.rest
  | some _ => elementName scope name

/-- Attributes with expanded names, all of which must be different. -/
def resolveAttributes (scope : Scope) (attributes : List (QName × String)) :
    Except Fault (List (String × String)) := do
  if !(attributes.map (·.1)).Nodup then .error .malformedMarkup
  let resolved ← (attributes.filter fun a => !isBinding a.1).mapM fun (name, value) =>
    (attributeName scope name).map fun n => (n, value)
  if (resolved.map (·.1)).Nodup then return resolved else .error .malformedMarkup

mutual

/-- A piece of content with expanded names. -/
def resolveNode (scope : Scope) : RawNode → Except Fault Node
  | .text s => .ok (.text (String.ofList s))
  | .element name attributes content => do
    let scope ← bind scope attributes
    let attributes ← resolveAttributes scope attributes
    let tag ← elementName scope name
    let content ← resolve scope content
    return .element tag attributes content

/-- Content with expanded names. -/
def resolve (scope : Scope) : List RawNode → Except Fault (List Node)
  | [] => .ok []
  | n :: ns => do
    let n ← resolveNode scope n
    let ns ← resolve scope ns
    return n :: ns

end

end MediaGraph.Xml
