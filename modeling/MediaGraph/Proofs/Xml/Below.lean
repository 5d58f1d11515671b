import MediaGraph.Xml.Element

namespace MediaGraph.Xml

/-!
# Elements below an element

Looking for elements by name goes through all content, whatever stands around what is looked for.
This file says which elements are found without following that search:

* `Below` — an element lies somewhere below another one.
* `mem_descendants_iff`, `mem_children_iff` — what is found at any depth, and directly below.
* `className_eq_ok_iff` — the class that an element names is what stands in its attribute.
* `className_eq_error_iff` — it is missing where the attribute is blank or not there.
-/

/-- Whether an element lies below another one, at some depth. -/
inductive Below : Element → Element → Prop where
  | direct {d e} (h : d.toNode ∈ e.content) : Below d e
  | deeper {d m e} (h : m.toNode ∈ e.content) (rest : Below d m) : Below d e

/-! ### Elements in some content -/

/-- A piece of content holds the element that it is, and what lies in that one. -/
theorem mem_elements_iff {d : Element} {n : Node} :
    d ∈ n.elements ↔ ∃ m : Element, m.toNode = n ∧ (d = m ∨ d ∈ elementsIn m.content) := by
  cases n with
  | text s =>
    simp only [Node.elements, List.not_mem_nil, false_iff]
    rintro ⟨m, hm, -⟩
    cases hm
  | element tag attributes content =>
    rw [Node.elements, List.mem_cons]
    constructor
    · intro h
      exact ⟨⟨tag, attributes, content⟩, rfl, h⟩
    · rintro ⟨m, hm, h⟩
      cases hm
      exact h

/-- Some content holds the elements in it and what lies in those. -/
theorem mem_elementsIn_iff {d : Element} {ns : List Node} :
    d ∈ elementsIn ns ↔ ∃ m : Element, m.toNode ∈ ns ∧ (d = m ∨ d ∈ elementsIn m.content) := by
  induction ns with
  | nil => simp [elementsIn]
  | cons n ns ih =>
    rw [elementsIn, List.mem_append, mem_elements_iff, ih]
    constructor
    · rintro (⟨m, rfl, h⟩ | ⟨m, hm, h⟩)
      · exact ⟨m, List.mem_cons_self, h⟩
      · exact ⟨m, List.mem_cons_of_mem _ hm, h⟩
    · rintro ⟨m, hm, h⟩
      rcases List.mem_cons.mp hm with hm | hm
      · exact .inl ⟨m, hm, h⟩
      · exact .inr ⟨m, hm, h⟩

mutual

theorem below_of_mem_elements {d : Element} {n : Node} (h : d ∈ n.elements) {e : Element}
    (hn : n ∈ e.content) : Below d e := by
  cases n with
  | text s => cases h
  | element tag attributes content =>
    rcases List.mem_cons.mp h with rfl | h
    · exact .direct hn
    · let m : Element := ⟨tag, attributes, content⟩
      have hm : Below d m := below_of_mem_elementsIn h fun _ => id
      exact .deeper (m := m) hn hm

theorem below_of_mem_elementsIn {d : Element} {ns : List Node} (h : d ∈ elementsIn ns)
    {e : Element} (hns : ∀ n ∈ ns, n ∈ e.content) : Below d e := by
  cases ns with
  | nil => cases h
  | cons n ns =>
    rcases List.mem_append.mp h with h | h
    · exact below_of_mem_elements h (hns n List.mem_cons_self)
    · exact below_of_mem_elementsIn h fun m hm => hns m (List.mem_cons_of_mem n hm)

end

/-- **The search reaches every depth.**  The elements in the content of an element are those below
    it. -/
theorem mem_elementsIn_content_iff {d e : Element} : d ∈ elementsIn e.content ↔ Below d e := by
  constructor
  · intro h
    exact below_of_mem_elementsIn h fun _ => id
  · intro h
    induction h with
    | direct h => exact mem_elementsIn_iff.mpr ⟨_, h, .inl rfl⟩
    | deeper h _ ih => exact mem_elementsIn_iff.mpr ⟨_, h, .inr ih⟩

/-! ### Elements of one name -/

/-- A name other than the star is the name of its own elements only. -/
theorem isNamed_iff {d : Element} {tag : String} (htag : tag ≠ "*") :
    d.isNamed tag = true ↔ d.tag = tag := by
  simp [Element.isNamed, htag]

/-- The elements of a name that are found at any depth. -/
theorem mem_descendants_iff {d e : Element} {tag : String} (htag : tag ≠ "*") :
    d ∈ e.descendants tag ↔ Below d e ∧ d.tag = tag := by
  rw [Element.descendants, List.mem_filter, mem_elementsIn_content_iff, isNamed_iff htag]

/-- The element that a piece of content is makes that piece. -/
theorem toElement?_eq_some_iff {d : Element} {n : Node} :
    n.toElement? = some d ↔ d.toNode = n := by
  cases n with
  | text s =>
    simp only [Node.toElement?, reduceCtorEq, false_iff]
    intro h
    cases h
  | element tag attributes content =>
    rw [Node.toElement?, Option.some.injEq]
    constructor
    · rintro rfl
      rfl
    · intro h
      cases h
      rfl

/-- The elements of a name that are found directly below. -/
theorem mem_children_iff {d e : Element} {tag : String} (htag : tag ≠ "*") :
    d ∈ e.children tag ↔ d.toNode ∈ e.content ∧ d.tag = tag := by
  rw [Element.children, List.mem_filter, isNamed_iff htag]
  simp only [List.mem_filterMap, toElement?_eq_some_iff, exists_eq_right']

/-! ### The class that an element names -/

/-- An element names a class when its attribute is there and not blank; blanks around the name do
    not belong to it. -/
theorem className_eq_ok_iff {e : Element} {name : String} :
    e.className = .ok name ↔
      ∃ value, e.attribute? "class" = some value ∧ Text.trim value = name ∧ name ≠ "" := by
  unfold Element.className classOf Element.attribute?
  cases e.attributes.lookup "class" with
  | none =>
    have hblank : (Text.trim "").isEmpty = true := by decide
    simp [hblank]
  | some value =>
    simp only [Option.getD_some, Option.some.injEq, exists_eq_left', String.isEmpty_iff]
    split
    · rename_i hblank
      simp only [reduceCtorEq, false_iff]
      rintro ⟨rfl, hname⟩
      exact hname hblank
    · rename_i hname
      rw [Except.ok.injEq]
      constructor
      · rintro rfl
        exact ⟨rfl, hname⟩
      · exact And.left

/-- An element names no class when its attribute is not there or blank. -/
theorem className_eq_error_iff {e : Element} {f : Failure} :
    e.className = .error f ↔
      (∀ value, e.attribute? "class" = some value → Text.trim value = "") ∧
        f = .configuration (.classMissing e.tag) none := by
  unfold Element.className classOf Element.attribute?
  cases e.attributes.lookup "class" with
  | none =>
    have hblank : (Text.trim "").isEmpty = true := by decide
    simp only [Option.getD_none, hblank, if_true, Except.error.injEq, reduceCtorEq, false_implies,
      implies_true, true_and]
    exact eq_comm
  | some value =>
    simp only [Option.getD_some, Option.some.injEq, forall_eq', String.isEmpty_iff]
    split
    · rename_i hblank
      rw [Except.error.injEq, eq_comm]
      exact (and_iff_right hblank).symm
    · rename_i hname
      simp only [reduceCtorEq, false_iff]
      exact fun h => hname h.1

end MediaGraph.Xml
