import MediaGraph.Config.Loading
import MediaGraph.Proofs.Traced

namespace MediaGraph.Config

/-!
# Items below an item

Loading walks through the content of an element and skips what is no item.  Seen from outside, it
takes the items at any depth below the element, in document order, one after another.

* `loadItem_eq_loadWith` — an item is given what the items below it are loaded as.
* `sizeOf_lt_of_mem_descendants` — an item below another one is the smaller of the two.
-/

variable {ι : Type}

/-! ### Elements below an element -/

mutual

theorem sizeOf_le_of_mem_elements {n : Xml.Node} {d : Xml.Element} (h : d ∈ n.elements) :
    sizeOf d ≤ sizeOf n := by
  cases n with
  | text s => cases h
  | element tag attributes content =>
    rcases List.mem_cons.mp h with rfl | h
    · simp only [Xml.Element.mk.sizeOf_spec, Xml.Node.element.sizeOf_spec]
      omega
    · have hlt := sizeOf_lt_of_mem_elementsIn h
      simp only [Xml.Node.element.sizeOf_spec]
      omega

theorem sizeOf_lt_of_mem_elementsIn {ns : List Xml.Node} {d : Xml.Element}
    (h : d ∈ Xml.elementsIn ns) : sizeOf d < sizeOf ns := by
  cases ns with
  | nil => cases h
  | cons n ns =>
    rcases List.mem_append.mp h with h | h
    · have hle := sizeOf_le_of_mem_elements h
      simp only [List.cons.sizeOf_spec]
      omega
    · have hlt := sizeOf_lt_of_mem_elementsIn h
      simp only [List.cons.sizeOf_spec]
      omega

end

/-- An element below another one is the smaller of the two. -/
theorem sizeOf_lt_of_mem_descendants {e d : Xml.Element} {tag : String}
    (h : d ∈ e.descendants tag) : sizeOf d < sizeOf e := by
  obtain ⟨tag', attributes, content⟩ := e
  have hlt : sizeOf d < sizeOf content := sizeOf_lt_of_mem_elementsIn (List.mem_filter.mp h).1
  simp only [Xml.Element.mk.sizeOf_spec]
  omega

/-! ### Loading items one after another -/

/-- The items of a family go by a name that stands for no other. -/
theorem itemTag_ne_star (c : Capability ι) : c.itemTag ≠ "*" := by
  unfold Capability.itemTag
  cases c.family <;> decide

theorem isNamed_itemTag (c : Capability ι) (e : Xml.Element) :
    e.isNamed c.itemTag = decide (e.tag = c.itemTag) := by
  have hstar := itemTag_ne_star c
  simp [Xml.Element.isNamed, hstar]

/-- The instances of two lists of items follow one another. -/
theorem loadItems_append (c : Capability ι) (w : World) (services : ServiceTable)
    (es ds : List Xml.Element) :
    loadItems c w services (es ++ ds) = do
      let first ← loadItems c w services es
      return first ++ (← loadItems c w services ds) := by
  induction es with
  | nil => simp [loadItems]
  | cons e es ih => simp [loadItems, ih]

mutual

theorem loadNode_eq_loadItems (c : Capability ι) (w : World) (services : ServiceTable)
    (n : Xml.Node) :
    loadNode c w services n
      = loadItems c w services (n.elements.filter fun d => d.isNamed c.itemTag) := by
  cases n with
  | text s => rfl
  | element tag attributes content =>
    unfold loadNode
    dsimp only
    rw [Xml.Node.elements, List.filter_cons, isNamed_itemTag]
    -- The items below an item are taken twice: for the item, and again in their own place.
    by_cases htag : tag = c.itemTag
    · simp only [htag, if_true, decide_true, loadItems]
      rw [← loadNodes_eq_loadItems c w services content]
      rfl
    · simp only [htag, if_false, decide_false, Bool.false_eq_true]
      exact loadNodes_eq_loadItems c w services content

/-- Walking through content loads the items in it, at any depth, in document order. -/
theorem loadNodes_eq_loadItems (c : Capability ι) (w : World) (services : ServiceTable)
    (ns : List Xml.Node) :
    loadNodes c w services ns
      = loadItems c w services ((Xml.elementsIn ns).filter fun d => d.isNamed c.itemTag) := by
  cases ns with
  | nil => rfl
  | cons n ns =>
    rw [loadNodes, Xml.elementsIn, List.filter_append, loadItems_append,
      ← loadNode_eq_loadItems c w services n, ← loadNodes_eq_loadItems c w services ns]

end

/-- **An item is given what the items below it are loaded as.** -/
theorem loadItem_eq_loadWith (c : Capability ι) (w : World) (services : ServiceTable)
    (e : Xml.Element) :
    loadItem c w services e
      = loadWith c w services (loadItems c w services (e.descendants c.itemTag)) e := by
  rw [loadItem, loadNodes_eq_loadItems]
  rfl

end MediaGraph.Config
