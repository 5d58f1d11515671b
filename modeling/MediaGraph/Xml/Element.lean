import MediaGraph.Failure.Basic

namespace MediaGraph.Xml

/-!
# Elements of a markup document

An element has a name, attributes and content; content is text and elements in document order.
Neighbouring texts are one text.

* `Element.children` — the elements directly below, of one name.
* `Element.descendants` — the elements at any depth below, of one name.
* `Element.innerText` — all text below, trimmed.
* `className` — the class that an element names.
-/

/-- A piece of content. -/
inductive Node where
  | text (s : String)
  | element (tag : String) (attributes : List (String × String)) (content : List Node)
  deriving Repr

/-- An element. -/
structure Element where
  tag : String
  attributes : List (String × String)
  content : List Node
  deriving Repr

/-- The element as a piece of content. -/
def Element.toNode (e : Element) : Node := .element e.tag e.attributes e.content

/-- The element that a piece of content is. -/
def Node.toElement? : Node → Option Element
  | .text _ => none
  | .element tag attributes content => some ⟨tag, attributes, content⟩

mutual

/-- The elements in a piece of content, the piece itself first. -/
def Node.elements : Node → List Element
  | .text _ => []
  | .element tag attributes content => ⟨tag, attributes, content⟩ :: elementsIn content

/-- The elements in some content, in document order. -/
def elementsIn : List Node → List Element
  | [] => []
  | n :: ns => n.elements ++ elementsIn ns

end

mutual

/-- The texts in a piece of content. -/
def Node.texts : Node → List String
  | .text s => [s]
  | .element _ _ content => textsIn content

/-- The texts in some content, in document order. -/
def textsIn : List Node → List String
  | [] => []
  | n :: ns => n.texts ++ textsIn ns

end

namespace Element

/-- The value of an attribute. -/
def attribute? (e : Element) (name : String) : Option String := e.attributes.lookup name

/-- Whether the element goes by a name; a star is a name of every element. -/
def isNamed (e : Element) (tag : String) : Bool := e.tag = tag || tag = "*"

/-- The elements directly below that are named `tag`. -/
def children (e : Element) (tag : String) : List Element :=
  (e.content.filterMap Node.toElement?).filter fun c => c.isNamed tag

/-- The first element directly below that is named `tag`. -/
def firstChild? (e : Element) (tag : String) : Option Element := (e.children tag).head?

/-- The elements named `tag` at any depth below, in document order. -/
def descendants (e : Element) (tag : String) : List Element :=
  (elementsIn e.content).filter fun d => d.isNamed tag

/-- The texts of the element, in document order. -/
def texts (e : Element) : List String := textsIn e.content

/-- The text of the element, without blanks at its ends. -/
def innerText (e : Element) : String := Text.trim (String.join e.texts)

/-- The texts of the elements directly below that are named `tag`. -/
def childTexts (e : Element) (tag : String) : List String := (e.children tag).map innerText

end Element

/-- The class that attributes name, for an element named `tag`; a blank name is none. -/
def classOf (tag : String) (attributes : List (String × String)) : Except Failure String :=
  let name := Text.trim ((attributes.lookup "class").getD "")
  if name.isEmpty then .error (.configuration (.classMissing tag) none) else .ok name

/-- The class that an element names. -/
def Element.className (e : Element) : Except Failure String := classOf e.tag e.attributes

end MediaGraph.Xml
