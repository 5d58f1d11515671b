import MediaGraph.Assoc
import MediaGraph.Sorted
import MediaGraph.Text.Blank
import MediaGraph.Text.CaseMapping

namespace MediaGraph

/-!
# Media types

A media type is a pair `type/subtype` with named parameters.  `MediaType.of` brings every part
into its normal form: names trimmed and in lower case, one parameter of a name (the last one
given), parameters ordered by name.

* `MediaType.base` — the type without its parameters.
* `MediaType.withParameters` — parameters merged over those that are there.
* `MediaType.before` — the order of listings: type, subtype, parameters.
-/

/-- A media type; `MediaType.of` builds the normalized ones. -/
structure MediaType where
  type : String
  subtype : String
  parameters : List (String × String)
  deriving Repr, DecidableEq

namespace MediaType

/-- A name as it is stored: trimmed, then in lower case. -/
def normalName (name : String) : String := Text.lower (Text.trim name)

/-- Parameters as they are stored: normal names, the last value of a name, ordered by name. -/
def normalParameters (pairs : List (String × String)) : List (String × String) :=
  sortBy (fun a b => decide (a.1 < b.1))
    (Assoc.ofList (pairs.map fun (name, value) => (normalName name, value))).entries

/-- The media type with these parts, brought into normal form. -/
def of (type subtype : String) (parameters : List (String × String)) : MediaType :=
  ⟨normalName type, normalName subtype, normalParameters parameters⟩

/-- The type `application/<subtype>`. -/
def ofApplication (subtype : String) : MediaType := of "application" subtype []

/-- The type `text/<subtype>`. -/
def ofText (subtype : String) : MediaType := of "text" subtype []

/-- The type of bytes of which nothing is known. -/
def octetStream : MediaType := ⟨"application", "octet-stream", []⟩

/-- The type of plain text. -/
def textPlain : MediaType := ⟨"text", "plain", []⟩

/-- The type of markup documents. -/
def applicationXml : MediaType := ⟨"application", "xml", []⟩

/-- The type of archives. -/
def applicationZip : MediaType := ⟨"application", "zip", []⟩

/-- The type of documents without content. -/
def emptyDocument : MediaType := ⟨"application", "x-empty", []⟩

/-! ### Parameters -/

/-- The media type without its parameters. -/
def base (t : MediaType) : MediaType := { t with parameters := [] }

/-- Whether there are parameters. -/
def hasParameters (t : MediaType) : Bool := !t.parameters.isEmpty

/-- The value of a parameter; the case of `name` does not matter. -/
def parameter? (t : MediaType) (name : String) : Option String :=
  Assoc.lookup (Text.lower name) t.parameters

/-- The media type with `pairs` merged over its parameters.  The names of `pairs` are compared in
    lower case but not trimmed when they are merged. -/
def withParameters (t : MediaType) (pairs : List (String × String)) : MediaType :=
  of t.type t.subtype
    ((Assoc.mk t.parameters).putAll
      (pairs.map fun (name, value) => (Text.lower name, value))).entries

/-- A base type has no parameters. -/
@[simp] theorem base_parameters (t : MediaType) : t.base.parameters = [] := rfl

/-- A base type is its own base type. -/
@[simp] theorem base_base (t : MediaType) : t.base.base = t.base := rfl

/-- A type without parameters is its own base type. -/
theorem base_eq_self {t : MediaType} (h : t.parameters = []) : t.base = t := by
  cases t
  simp_all [base]

/-! ### The order of listings -/

/-- Pairs compared one by one; a list that ends first comes first. -/
def comparePairs : List (String × String) → List (String × String) → Ordering
  | [], [] => .eq
  | [], _ :: _ => .lt
  | _ :: _, [] => .gt
  | (n, v) :: rest, (m, w) :: rest' =>
    (compare n m).then ((compare v w).then (comparePairs rest rest'))

/-- Media types compared by type, subtype and parameters. -/
def compareTypes (a b : MediaType) : Ordering :=
  (compare a.type b.type).then
    ((compare a.subtype b.subtype).then (comparePairs a.parameters b.parameters))

/-- Whether `a` is listed before `b`. -/
def before (a b : MediaType) : Bool := compareTypes a b == .lt

end MediaType

/-! ### Sets of media types -/

/-- A set of media types, listed in their order. -/
abbrev TypeSet := List MediaType

/-- The set with `t` added. -/
def TypeSet.insert (t : MediaType) (s : TypeSet) : TypeSet :=
  if t ∈ s then s else insertBy MediaType.before t s

/-- The set of the listed types. -/
def TypeSet.ofList (ts : List MediaType) : TypeSet := ts.foldl (fun s t => TypeSet.insert t s) []

/-- The set without the types of `removed`. -/
def TypeSet.without (s : TypeSet) (removed : List MediaType) : TypeSet :=
  s.filter fun t => t ∉ removed

/-- Inserting a type adds that type and no other. -/
theorem TypeSet.mem_insert (t u : MediaType) (s : TypeSet) :
    u ∈ TypeSet.insert t s ↔ u = t ∨ u ∈ s := by
  rw [TypeSet.insert]
  split
  · constructor
    · exact Or.inr
    · rintro (rfl | h) <;> assumption
  · exact mem_insertBy _ _ _ _

/-- Inserting types one by one adds those types and no others. -/
theorem TypeSet.mem_foldl_insert (u : MediaType) (ts : List MediaType) (s : TypeSet) :
    u ∈ ts.foldl (fun s t => TypeSet.insert t s) s ↔ u ∈ ts ∨ u ∈ s := by
  induction ts generalizing s with
  | nil => simp
  | cons t ts ih =>
    rw [List.foldl_cons, ih, TypeSet.mem_insert, List.mem_cons]
    constructor
    · rintro (h | h | h)
      · exact Or.inl (Or.inr h)
      · exact Or.inl (Or.inl h)
      · exact Or.inr h
    · rintro ((h | h) | h)
      · exact Or.inr (Or.inl h)
      · exact Or.inl h
      · exact Or.inr (Or.inr h)

/-- The set of a list holds what the list holds. -/
theorem TypeSet.mem_ofList (u : MediaType) (ts : List MediaType) :
    u ∈ TypeSet.ofList ts ↔ u ∈ ts := by
  simp [TypeSet.ofList, TypeSet.mem_foldl_insert]

end MediaGraph
