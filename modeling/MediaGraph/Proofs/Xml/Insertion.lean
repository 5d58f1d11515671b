import Mathlib.Data.List.Forall2
import MediaGraph.Proofs.Xml.Below

namespace MediaGraph.Xml

/-!
# Putting content into an element

A piece of content without text in which no element goes by one of some names can be put in anywhere
below an element: between two pieces of its content, or into a text, which then is two texts.  The
elements of those names are found as before, each of them the same up to what was put into it, and
no text changes.

* `Node.Without` — a piece of content without text and without elements of some names.
* `Inserted` — some content, and the same content with such a piece put in somewhere.
* `Element.Alike` — an element, and the same element, perhaps with such a piece put in.
* `Element.Alike.descendants`, `Element.Alike.children` — what is found below alike elements.
* `Element.Alike.innerText`, `Element.Alike.className` — what alike elements say.
-/

/-- Whether a piece of content has no text, and no element in it goes by one of some names. -/
structure Node.Without (names : List String) (n : Node) : Prop where
  textless : String.join n.texts = ""
  nameless : ∀ d ∈ n.elements, d.tag ∉ names

/-- Whether the second content is the first with a piece put in that is without some names: in front
    of everything, into a text, into an element, or further behind. -/
inductive Inserted (names : List String) : List Node → List Node → Prop where
  | front {n ns} (h : n.Without names) : Inserted names ns (n :: ns)
  | amid {n s t ns} (h : n.Without names) :
    Inserted names (.text (s ++ t) :: ns) (.text s :: n :: .text t :: ns)
  | within {tag attributes content content' ns} (h : Inserted names content content') :
    Inserted names (.element tag attributes content :: ns)
      (.element tag attributes content' :: ns)
  | later {n ns ns'} (h : Inserted names ns ns') : Inserted names (n :: ns) (n :: ns')

/-- Whether the second element is the first, perhaps with such a piece put into its content. -/
structure Element.Alike (names : List String) (e e' : Element) : Prop where
  tag : e.tag = e'.tag
  attributes : e.attributes = e'.attributes
  content : e.content = e'.content ∨ Inserted names e.content e'.content

variable {names : List String} {ns ns' : List Node} {e e' : Element} {tag : String}

/-- Elements are alike to themselves. -/
theorem Element.Alike.refl (names : List String) (e : Element) : e.Alike names e :=
  ⟨rfl, rfl, .inl rfl⟩

/-- Lists of elements that are alike one by one. -/
abbrev AllAlike (names : List String) : List Element → List Element → Prop :=
  List.Forall₂ (Element.Alike names)

theorem allAlike_refl (names : List String) (es : List Element) : AllAlike names es es :=
  List.forall₂_same.mpr fun e _ => .refl names e

theorem AllAlike.append {es es' ds ds' : List Element} (h : AllAlike names es es')
    (hd : AllAlike names ds ds') : AllAlike names (es ++ ds) (es' ++ ds') :=
  List.rel_append h hd

/-- What is the same for alike elements is the same for lists of them. -/
theorem AllAlike.map_eq {β : Type} {k : Element → β} {es es' : List Element}
    (h : AllAlike names es es') (hk : ∀ {e e'}, Element.Alike names e e' → k e = k e') :
    es.map k = es'.map k := by
  induction h with
  | nil => rfl
  | cons hd _ ih => rw [List.map_cons, List.map_cons, hk hd, ih]

/-! ### What is found in content -/

/-- Searches of content, piece by piece, that find nothing in texts and in what is without the
    names: they find alike elements, provided that they do in elements that are alike. -/
theorem Inserted.allAlike_flatMap {find : Node → List Element} (h : Inserted names ns ns')
    (hwithout : ∀ n : Node, n.Without names → find n = [])
    (htext : ∀ s, find (.text s) = [])
    (hwithin : ∀ {tag attributes content content'}, Inserted names content content' →
      AllAlike names (content.flatMap find) (content'.flatMap find) →
      AllAlike names (find (.element tag attributes content))
        (find (.element tag attributes content'))) :
    AllAlike names (ns.flatMap find) (ns'.flatMap find) := by
  induction h with
  | front hn =>
    rw [List.flatMap_cons, hwithout _ hn, List.nil_append]
    exact allAlike_refl names _
  | amid hn =>
    simp only [List.flatMap_cons, htext, hwithout _ hn, List.nil_append]
    exact allAlike_refl names _
  | within h ih =>
    simp only [List.flatMap_cons]
    exact (hwithin h ih).append (allAlike_refl names _)
  | later _ ih =>
    simp only [List.flatMap_cons]
    exact (allAlike_refl names _).append ih

/-- The elements in some content are those of its pieces. -/
theorem elementsIn_eq_flatMap (ns : List Node) : elementsIn ns = ns.flatMap Node.elements := by
  induction ns with
  | nil => rfl
  | cons n ns ih => rw [elementsIn, List.flatMap_cons, ih]

/-- Texts that are put in do not change the text as a whole. -/
theorem Inserted.join_textsIn (h : Inserted names ns ns') :
    String.join (textsIn ns') = String.join (textsIn ns) := by
  induction h with
  | front hn => rw [textsIn, String.join_append, hn.textless, String.empty_append]
  | @amid n s t ns hn =>
    simp only [textsIn, Node.texts, String.join_append, hn.textless, String.join_cons,
      String.join_nil, String.empty_append, String.append_empty, String.append_assoc]
  | within h ih => simp only [textsIn, Node.texts, String.join_append, ih]
  | later h ih => simp only [textsIn, String.join_append, ih]

/-- No element of one of the names is in a piece without them. -/
theorem Node.Without.filter_elements {n : Node} (h : n.Without names) (hstar : "*" ∉ names)
    (htag : tag ∈ names) : n.elements.filter (fun d => d.isNamed tag) = [] := by
  rw [List.filter_eq_nil_iff]
  intro d hd hnamed
  have hne : tag ≠ "*" := fun h => hstar (h ▸ htag)
  rw [isNamed_iff hne] at hnamed
  exact h.nameless d hd (hnamed ▸ htag)

/-- What a piece is, if it is an element, is in it. -/
theorem Node.mem_elements_of_toElement? {n : Node} {d : Element} (h : n.toElement? = some d) :
    d ∈ n.elements :=
  mem_elements_iff.mpr ⟨d, toElement?_eq_some_iff.mp h, .inl rfl⟩

namespace Element.Alike

/-! ### What is found below alike elements -/

theorem filter_isNamed (h : e.Alike names e') (tag : String) :
    AllAlike names ([e].filter fun d => d.isNamed tag) ([e'].filter fun d => d.isNamed tag) := by
  have hnamed : e.isNamed tag = e'.isNamed tag := by
    rw [Element.isNamed, h.tag, Element.isNamed]
  rw [List.filter_singleton, List.filter_singleton, hnamed]
  cases e'.isNamed tag with
  | false => exact .nil
  | true => exact .cons h .nil

variable (h : e.Alike names e') (hstar : "*" ∉ names) (htag : tag ∈ names)

include h hstar htag

/-- **The elements at any depth** that go by one of the names are alike. -/
theorem descendants : AllAlike names (e.descendants tag) (e'.descendants tag) := by
  rcases h.content with heq | hinserted
  · rw [Element.descendants, heq]
    exact allAlike_refl names _
  · unfold Element.descendants
    rw [elementsIn_eq_flatMap, elementsIn_eq_flatMap, List.filter_flatMap, List.filter_flatMap]
    refine hinserted.allAlike_flatMap (fun n hn => hn.filter_elements hstar htag) (fun s => rfl) ?_
    -- The element that holds what was put in is looked at before its content is.
    intro tag' attributes content content' hcontent ih
    rw [← List.filter_flatMap, ← elementsIn_eq_flatMap, ← List.filter_flatMap,
      ← elementsIn_eq_flatMap] at ih
    have hself : Element.Alike names ⟨tag', attributes, content⟩ ⟨tag', attributes, content'⟩ :=
      ⟨rfl, rfl, .inr hcontent⟩
    have hall := (hself.filter_isNamed tag).append ih
    rw [← List.filter_append, ← List.filter_append] at hall
    exact hall

/-- **The elements directly below** that go by one of the names are alike. -/
theorem children : AllAlike names (e.children tag) (e'.children tag) := by
  rcases h.content with heq | hinserted
  · rw [Element.children, heq]
    exact allAlike_refl names _
  · have hfilter : ∀ ns : List Node, (ns.filterMap Node.toElement?).filter (fun d => d.isNamed tag)
        = ns.flatMap fun n => n.toElement?.toList.filter fun d => d.isNamed tag := by
      intro ns
      rw [List.filterMap_eq_flatMap_toList, List.filter_flatMap]
    unfold Element.children
    rw [hfilter, hfilter]
    refine hinserted.allAlike_flatMap (fun n hn => ?_) (fun s => rfl) ?_
    · rw [List.filter_eq_nil_iff]
      intro d hd hnamed
      have hmem : d ∈ n.elements.filter fun d => d.isNamed tag :=
        List.mem_filter.mpr ⟨Node.mem_elements_of_toElement? (Option.mem_toList.mp hd), hnamed⟩
      rw [hn.filter_elements hstar htag] at hmem
      cases hmem
    · intro tag' attributes content content' hcontent _
      have hself : Element.Alike names ⟨tag', attributes, content⟩ ⟨tag', attributes, content'⟩ :=
        ⟨rfl, rfl, .inr hcontent⟩
      exact hself.filter_isNamed tag

omit hstar htag

/-! ### What alike elements say -/

theorem attribute? (name : String) : e.attribute? name = e'.attribute? name := by
  rw [Element.attribute?, h.attributes, Element.attribute?]

theorem className : e.className = e'.className := by
  rw [Element.className, h.tag, h.attributes, Element.className]

theorem innerText : e.innerText = e'.innerText := by
  unfold Element.innerText Element.texts
  rcases h.content with heq | hinserted
  · rw [heq]
  · rw [hinserted.join_textsIn]

include hstar htag

/-- The texts of the elements directly below that go by one of the names are the same. -/
theorem childTexts : e.childTexts tag = e'.childTexts tag := by
  rw [Element.childTexts, Element.childTexts]
  exact (h.children hstar htag).map_eq fun hd => hd.innerText

end Element.Alike

end MediaGraph.Xml
