import MediaGraph.Proofs.Config.TypeFilter
import MediaGraph.Proofs.Parser.Exclusion

namespace MediaGraph

/-!
# Filters and exclusion

Exclusion looks at both ends of a stack of decorators: at the outermost class and at the innermost
parser.  A filter of types is one decorator more.  It leaves the innermost parser where it is and
takes the place of the outermost class, so a decorator that was excluded for its own class only is
out of sight below a filter.

* `Parser.Outermost` — the exclusion of a parser rests on its outermost class alone.
* `Parser.isExcluded_decorator_eq_false_iff` — what a decorator hides from exclusion.
* `Config.Filters`, `Config.eq_or_filtered_of_filterTypes` — what the settings of an item leave
  visible.
* `Config.escapes_exclusion_iff` — when a filter makes a parser escape.
* `Config.decorator_escapes_exclusion` — a decorator that does.
-/

namespace Parser

variable {p q : Parser} {cls : ClassRef} {effect : Effect} {excluded : List ClassRef}

/-! ### Both ends of a stack of decorators -/

/-- Whether the exclusion of a parser rests on its outermost class alone, so that a decorator of
    some other class hides it: neither the innermost parser nor the decorator is excluded. -/
structure Outermost (p : Parser) (excluded : List ClassRef) (decorator : ClassRef) : Prop where
  own : p.cls.derivesFromAny excluded = true
  innermost : p.innermost.cls.derivesFromAny excluded = false
  decorator : decorator.derivesFromAny excluded = false

/-- A decorator is excluded for its own class, or for the parser inside all decorators. -/
theorem isExcluded_decorator (p : Parser) (cls : ClassRef) (effect : Effect)
    (excluded : List ClassRef) :
    (decorator cls effect p).isExcluded excluded
      = (cls.derivesFromAny excluded || p.innermost.cls.derivesFromAny excluded) := rfl

/-- **What a decorator hides from exclusion**: the outermost class of an excluded parser, where
    nothing else excludes it. -/
theorem isExcluded_decorator_eq_false_iff (h : p.isExcluded excluded = true) :
    (decorator cls effect p).isExcluded excluded = false ↔ p.Outermost excluded cls := by
  rw [isExcluded_decorator, Bool.or_eq_false_iff]
  constructor
  · rintro ⟨hcls, hinnermost⟩
    rw [isExcluded, hinnermost, Bool.or_false] at h
    exact ⟨h, hinnermost, hcls⟩
  · rintro ⟨-, hinnermost, hcls⟩
    exact ⟨hcls, hinnermost⟩

/-- A parser that is no decorator is the innermost one. -/
theorem innermost_eq_self (h : p.isDecorator = false) : p.innermost = p := by
  cases p with
  | leaf => rfl
  | composite => rfl
  | decorator => cases h
  | bundle => cases h

/-- The two ends of a parser differ in a decorator only. -/
theorem Outermost.isDecorator (h : p.Outermost excluded cls) : p.isDecorator = true := by
  rw [← Bool.not_eq_false]
  intro hplain
  have hinnermost := h.innermost
  rw [innermost_eq_self hplain, h.own] at hinnermost
  cases hinnermost

/-- A composite holds those of the parsers it is built from that it does not exclude. -/
theorem Composes.mem_children_iff {parsers : List Parser} {fallback c : Parser}
    (h : Composes excluded parsers fallback c) :
    q ∈ c.children ↔ q ∈ parsers ∧ q.isExcluded excluded = false := by
  obtain ⟨cls, registry, rfl⟩ := h.eq_composite
  rw [children, List.mem_filter, Bool.not_eq_true']

end Parser

namespace Config

variable {e : Xml.Element} {p q : Parser} {excluded : List ClassRef}

/-! ### The settings of an item -/

/-- Whether an item lists types, to advertise or to leave out. -/
def Filters (e : Xml.Element) : Prop := ∃ t, Lists e "mime" t ∨ Lists e "mime-exclude" t

/-- Types are listed below an item unless both sets that are read from it are empty. -/
theorem filters_iff {included dropped : TypeSet}
    (hincluded : Capability.readTypes e "mime" = .ok included)
    (hdropped : Capability.readTypes e "mime-exclude" = .ok dropped) :
    Filters e ↔ ¬ (included.isEmpty = true ∧ dropped.isEmpty = true) := by
  rw [isEmpty_iff_lists (by decide) hincluded, isEmpty_iff_lists (by decide) hdropped,
    ← forall_and, not_forall]
  simp only [← not_or, not_not]
  rfl

/-- **What the settings of an item leave visible** of a parser: everything where no types are
    listed; otherwise a filter is outermost, and the innermost parser is the one it was. -/
theorem eq_or_filtered_of_filterTypes (h : (Capability.filterTypes p e).result = .ok q) :
    (¬ Filters e ∧ q = p) ∨
      (Filters e ∧ ∃ cls effect inner, q = .decorator cls effect inner ∧
        inner.innermost = p.innermost) := by
  obtain ⟨included, dropped, p', hincluded, hdropped, rfl, rfl⟩ := filterTypes_eq_ok_iff.mp h
  rw [filters_iff hincluded hdropped]
  -- The filter that leaves types out is put around the one that restricts.
  cases dropped with
  | nil =>
    cases included with
    | nil => exact .inl ⟨fun hsome => hsome ⟨rfl, rfl⟩, rfl⟩
    | cons t ts => exact .inr ⟨fun hnone => (nomatch hnone.1), _, _, p, rfl, rfl⟩
  | cons t ts =>
    refine .inr ⟨fun hnone => (nomatch hnone.2), _, _, _, rfl, ?_⟩
    cases included <;> rfl

/-- An item that is excluded without its settings is not excluded with them exactly where they
    filter, and the filter hides all there is to exclude. -/
theorem isExcluded_filterTypes_eq_false_iff (h : p.isExcluded excluded = true)
    (hq : (Capability.filterTypes p e).result = .ok q) :
    q.isExcluded excluded = false ↔ Filters e ∧ p.Outermost excluded q.cls := by
  obtain ⟨hnone, rfl⟩ | ⟨hsome, cls, effect, inner, rfl, hinner⟩ :=
    eq_or_filtered_of_filterTypes hq
  · rw [h]
    exact iff_of_false (by decide) fun hsome => hnone hsome.1
  · rw [Parser.isExcluded_decorator, hinner, ← Parser.isExcluded_decorator p cls effect excluded,
      Parser.isExcluded_decorator_eq_false_iff h]
    exact (and_iff_right hsome).symm

/-! ### Who escapes -/

/-- **When a filter makes a parser escape.**  Let a parser be excluded.  With a filter of types
    around it, of either kind and whatever the types, it is still excluded, unless it is a decorator
    of which only the outermost class is excluded, and the class of the filter is not.  In the same
    way a composite that would not hold an item without its settings holds it with them only where
    they list types, and only if the item is such a decorator. -/
theorem escapes_exclusion_iff (h : p.isExcluded excluded = true) :
    (∀ types, (p.withTypes types).isExcluded excluded = false ↔
      p.Outermost excluded Parser.restrictingClass) ∧
    (∀ types, (p.withoutTypes types).isExcluded excluded = false ↔
      p.Outermost excluded Parser.droppingClass) ∧
    (∀ filter, p.Outermost excluded filter → p.isDecorator = true) ∧
    ∀ e q, (Capability.filterTypes p e).result = .ok q →
      ∀ parsers fallback c, q ∈ parsers → Parser.Composes excluded parsers fallback c →
        (q ∈ c.children ↔ Filters e ∧ p.Outermost excluded q.cls) := by
  refine ⟨fun _ => Parser.isExcluded_decorator_eq_false_iff h,
    fun _ => Parser.isExcluded_decorator_eq_false_iff h, fun _ => Parser.Outermost.isDecorator, ?_⟩
  intro e q hq parsers fallback c hmem hc
  rw [hc.mem_children_iff, isExcluded_filterTypes_eq_false_iff h hq]
  exact and_iff_right hmem

/-- The parser of markup stays excluded behind filters, and no composite that excludes it holds it
    as an item that lists types. -/
theorem escapes_exclusion_iff_markup :
    markupParser.isExcluded [Parser.xmlClass] = true ∧
      (∀ types, (markupParser.withTypes types).isExcluded [Parser.xmlClass] = true) ∧
      (∀ types, (markupParser.withoutTypes types).isExcluded [Parser.xmlClass] = true) ∧
      (Capability.filterTypes markupParser pageItem).result = .ok pageParser ∧
      ∀ parsers fallback c, pageParser ∈ parsers →
        Parser.Composes [Parser.xmlClass] parsers fallback c → pageParser ∉ c.children := by
  have hmarkup : markupParser.isExcluded [Parser.xmlClass] = true := by decide
  have hresult : (Capability.filterTypes markupParser pageItem).result = .ok pageParser := rfl
  obtain ⟨hrestricted, hdropping, hdecorator, hitem⟩ := escapes_exclusion_iff hmarkup
  have hnever : ∀ filter, ¬ markupParser.Outermost [Parser.xmlClass] filter := fun filter h =>
    Bool.false_ne_true (hdecorator filter h)
  refine ⟨hmarkup, fun types => ?_, fun types => ?_, hresult, ?_⟩
  · exact eq_true_of_ne_false fun h => hnever _ ((hrestricted types).mp h)
  · exact eq_true_of_ne_false fun h => hnever _ ((hdropping types).mp h)
  · intro parsers fallback c hmem hc hheld
    exact hnever _ ((hitem pageItem pageParser hresult parsers fallback c hmem hc).mp hheld).2

/-- A class of decorators. -/
def notingClass : ClassRef := Parser.decoratorClass.under "sample" "NotingDecorator"

/-- A decorator around the parser of markup. -/
def notedMarkup : Parser := .decorator notingClass .forwarding markupParser

/-- The decorator, settled to advertise no drawings. -/
def notedDrawingless : Parser := notedMarkup.withoutTypes [drawing]

/-- **A decorator that escapes.**  It is excluded for its class, and either filter hides it: a
    composite that excludes the class drops the decorator, and holds it as an item that leaves
    drawings out. -/
theorem decorator_escapes_exclusion :
    notedMarkup.isExcluded [notingClass] = true ∧
      (notedMarkup.withTypes [page]).isExcluded [notingClass] = false ∧
      (notedMarkup.withoutTypes [drawing]).isExcluded [notingClass] = false ∧
      (Capability.filterTypes notedMarkup (filteringItem [] "image/svg+xml")).result
        = .ok notedDrawingless ∧
      (composeParser Parser.compositeClass .empty [notedMarkup] [notingClass]
          Parser.nothing).result
        = .ok (.composite Parser.compositeClass none .empty [] [notingClass] Parser.nothing) ∧
      (composeParser Parser.compositeClass .empty [notedDrawingless] [notingClass]
          Parser.nothing).result
        = .ok (.composite Parser.compositeClass none .empty [notedDrawingless] [notingClass]
            Parser.nothing) := by
  refine ⟨by decide, by decide, by decide, rfl, ?_, ?_⟩
  · rw [result_composeParser]
    rfl
  · rw [result_composeParser]
    rfl

end Config

end MediaGraph
