import MediaGraph.Proofs.Xml.Below

namespace MediaGraph.Xml

/-!
# Elements and what is around them

The list of the elements of one name below an element forgets how they lie in each other.  Here
every one of them is listed with the elements of that name around it.

* `Element.nested` — the elements of one name below an element, each with those around it.
* `Element.map_fst_nested` — these are the descendants, in document order.
-/

mutual

/-- The elements named `tag` in a piece of content, in document order, each with the elements of
    that name around it, from the inside out; `around` are those around the piece itself. -/
def Node.nested (tag : String) (around : List Element) : Node → List (Element × List Element)
  | .text _ => []
  | .element name attributes content =>
    if name = tag then
      (⟨name, attributes, content⟩, around) ::
        nestedIn tag (⟨name, attributes, content⟩ :: around) content
    else nestedIn tag around content

/-- The elements named `tag` in some content, each with those around it. -/
def nestedIn (tag : String) (around : List Element) : List Node → List (Element × List Element)
  | [] => []
  | n :: ns => n.nested tag around ++ nestedIn tag around ns

end

/-- The elements named `tag` below an element, each with those around it up to the element, which is
    the last of them. -/
def Element.nested (e : Element) (tag : String) : List (Element × List Element) :=
  nestedIn tag [e] e.content

variable {tag : String}

mutual

theorem Node.map_fst_nested (htag : tag ≠ "*") (around : List Element) (n : Node) :
    (n.nested tag around).map Prod.fst = n.elements.filter fun d => d.isNamed tag := by
  cases n with
  | text s => rfl
  | element name attributes content =>
    rw [Node.nested, Node.elements, List.filter_cons]
    by_cases hname : name = tag
    · rw [if_pos hname, if_pos ((isNamed_iff htag).mpr hname), List.map_cons,
        map_fst_nestedIn htag _ content]
    · rw [if_neg hname, if_neg (fun h => hname ((isNamed_iff htag).mp h)),
        map_fst_nestedIn htag _ content]

theorem map_fst_nestedIn (htag : tag ≠ "*") (around : List Element) (ns : List Node) :
    (nestedIn tag around ns).map Prod.fst = (elementsIn ns).filter fun d => d.isNamed tag := by
  cases ns with
  | nil => rfl
  | cons n ns =>
    rw [nestedIn, elementsIn, List.map_append, List.filter_append,
      Node.map_fst_nested htag _ n, map_fst_nestedIn htag _ ns]

end

/-- The listed elements are the descendants. -/
theorem Element.map_fst_nested (htag : tag ≠ "*") (e : Element) :
    (e.nested tag).map Prod.fst = e.descendants tag :=
  map_fst_nestedIn htag [e] e.content

end MediaGraph.Xml
