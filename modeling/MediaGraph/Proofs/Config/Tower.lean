import MediaGraph.Parser.Context
import MediaGraph.Proofs.Config.FilteredExclusion

namespace MediaGraph

/-!
# Towers of decorators

Decorators that forward, restrict or leave out types may be put around a parser in any number and
order.  They hand documents on as they are, with the context in which these are parsed, so what they
change is what is advertised: the outermost restriction hides everything inside it, and what is left
out further outside is left out of it.

* `Layer`, `tower` — decorators around a parser, the outermost first.
* `innermost_tower`, `parse_tower`, `types_tower` — what can be seen of a tower.
* `Config.itemLayers`, `Config.filterTypes_eq_ok_iff_tower` — the tower that the settings of an item
  build.
* `Config.decorator_towers` — the towers that can be built, and those that items are loaded as.
-/

/-! ### Sets without some types -/

theorem TypeSet.without_nil (types : TypeSet) : types.without [] = types := by
  simp [without]

/-- Leaving out some types and then some more leaves out all of them. -/
theorem TypeSet.without_append (types dropped more : TypeSet) :
    types.without (more ++ dropped) = (types.without dropped).without more := by
  simp [without, List.filter_filter]

namespace Parser

/-! ### Layers -/

/-- A decorator that can be put around a parser. -/
inductive Layer where
  /-- One that forwards everything, of some class. -/
  | forwarding (cls : ClassRef)
  | restricting (types : TypeSet)
  | dropping (types : TypeSet)

/-- The parser with a layer around it. -/
def Layer.over : Layer → Parser → Parser
  | .forwarding cls, p => .decorator cls .forwarding p
  | .restricting types, p => p.withTypes types
  | .dropping types, p => p.withoutTypes types

/-- The parser with some layers around it, the outermost first. -/
def tower (layers : List Layer) (p : Parser) : Parser := layers.foldr Layer.over p

variable {p : Parser} {layers : List Layer}

/-! ### What can be seen of a tower -/

/-- The types to which a layer restricts, if it does. -/
def Layer.restriction? : Layer → Option TypeSet
  | .restricting types => some types
  | _ => none

/-- The types that a layer leaves out. -/
def Layer.dropped : Layer → TypeSet
  | .dropping types => types
  | _ => []

/-- The layers outside the outermost restriction. -/
def outside (layers : List Layer) : List Layer := layers.takeWhile (·.restriction?.isNone)

/-- What is advertised through some layers: the types of the outermost restriction, or those of the
    parser inside when there is none, without what is left out further outside. -/
def advertised (own : TypeSet) (layers : List Layer) : TypeSet :=
  ((layers.findSome? Layer.restriction?).getD own).without
    ((outside layers).flatMap Layer.dropped)

/-- The parser inside a tower is found below all layers. -/
theorem innermost_tower (h : p.isDecorator = false) : (tower layers p).innermost = p := by
  induction layers with
  | nil => exact innermost_eq_self h
  | cons layer layers ih => cases layer <;> exact ih

/-- **A tower parses like the parser inside it.** -/
theorem parse_tower (s : Option Stream) (m : Metadata) (layers : List Layer) (p : Parser) :
    parse s m (tower layers p) = parse s m p := by
  induction layers with
  | nil => rfl
  | cons layer layers ih =>
    -- Every kind of layer hands the document on.
    have hover : parse s m (layer.over (tower layers p)) = parse s m (tower layers p) := by
      cases layer <;> rfl
    exact hover.trans ih

/-- **What a tower advertises.** -/
theorem types_tower (layers : List Layer) (p : Parser) :
    (tower layers p).types = advertised p.types layers := by
  induction layers with
  | nil => exact (TypeSet.without_nil p.types).symm
  | cons layer layers ih =>
    cases layer with
    | forwarding cls => exact ih
    | restricting types =>
      -- Nothing is further outside, and nothing inside is seen.
      exact (TypeSet.without_nil types).symm
    | dropping types =>
      change (tower layers p).types.without types = advertised p.types (.dropping types :: layers)
      rw [ih]
      exact (TypeSet.without_append _ _ _).symm

end Parser

namespace Config

variable {w : World} {repository : Repository} {services : ServiceTable} {e : Xml.Element}
  {i : Implementation} {p x : Parser}

/-! ### The tower of an item -/

/-- The filters of an item with these types to advertise and to leave out, each where there are any
    types for it. -/
def itemLayers (included excluded : TypeSet) : List Parser.Layer :=
  (if excluded.isEmpty then [] else [.dropping excluded]) ++
    (if included.isEmpty then [] else [.restricting included])

/-- The settings of an item put a tower around a parser. -/
theorem eq_tower_of_filterTypes (h : (Capability.filterTypes p e).result = .ok x) :
    ∃ included excluded, Capability.readTypes e "mime" = .ok included ∧
      Capability.readTypes e "mime-exclude" = .ok excluded ∧
      x = Parser.tower (itemLayers included excluded) p := by
  obtain ⟨included, excluded, _, hincluded, hexcluded, rfl, rfl⟩ := filterTypes_eq_ok_iff.mp h
  refine ⟨included, excluded, hincluded, hexcluded, ?_⟩
  cases included <;> cases excluded <;> rfl

/-- What is advertised through the filters of an item. -/
theorem advertised_itemLayers (own included excluded : TypeSet) :
    Parser.advertised own (itemLayers included excluded)
      = (if included.isEmpty then own else included).without excluded := by
  cases excluded with
  | nil => cases included <;> rfl
  | cons t ts =>
    have happend : (t :: ts) ++ [] = t :: ts := List.append_nil _
    cases included with
    | nil => exact congrArg own.without happend
    | cons v vs => exact congrArg (TypeSet.without (v :: vs)) happend

/-- A parser that is built without arguments is no decorator, unless its class is one. -/
theorem isDecorator_of_newParser (hi : i.isDecorator = false)
    (h : (i.newParser w).result = .ok p) : p.isDecorator = false := by
  unfold Implementation.newParser at h
  unfold Implementation.isDecorator at hi
  split at h
  -- The parts of an auto-detecting parser come from elsewhere.
  case h_4 =>
    rw [Traced.result_bind] at h
    obtain ⟨parts, -, hp⟩ := bind_eq_ok.mp h
    cases hp
    rfl
  case h_5 hdesign =>
    rw [hdesign] at hi
    cases hi
  all_goals cases h <;> rfl

/-- Whether `x` is the instance `p` of the class of an item, with the filters around it that the
    item lists. -/
structure Filtered (e : Xml.Element) (p x : Parser) (included excluded : TypeSet) : Prop where
  mem_included : ∀ t, t ∈ included ↔ Lists e "mime" t
  mem_excluded : ∀ t, t ∈ excluded ↔ Lists e "mime-exclude" t
  eq_tower : x = Parser.tower (itemLayers included excluded) p
  types_eq : x.types = (if included.isEmpty then p.types else included).without excluded

/-- What the settings of an item make of a parser. -/
theorem filtered_of_filterTypes (h : (Capability.filterTypes p e).result = .ok x) :
    ∃ included excluded, Filtered e p x included excluded := by
  obtain ⟨included, excluded, hincluded, hexcluded, rfl⟩ := eq_tower_of_filterTypes h
  refine ⟨included, excluded, fun t => mem_iff_lists (by decide) hincluded,
    fun t => mem_iff_lists (by decide) hexcluded, rfl, ?_⟩
  rw [Parser.types_tower, advertised_itemLayers]

/-- An item whose class holds no parsers is loaded as an instance with the filters of the item. -/
theorem filtered_of_loadItem (hi : NamesClass w services .parsers e i)
    (hcomposite : i.isCompositeParser = false) (hdecorator : i.isDecorator = false)
    (h : (loadItem (.parsers w repository services) w services e).result = .ok x) :
    ∃ p included excluded, (i.newParser w).result = .ok p ∧ p.isDecorator = false ∧
      Filtered e p x included excluded := by
  cases loadItem_eq_ok_iff.mp h with
  | @plain j p names _ _ built decorated =>
    have hj : j = i := names.namesClass.unique hi
    subst hj
    obtain ⟨included, excluded, hfiltered⟩ := filtered_of_filterTypes decorated
    exact ⟨p, included, excluded, built, isDecorator_of_newParser hdecorator built, hfiltered⟩
  | @holding j _ _ _ names _ holds =>
    have hj : j = i := names.namesClass.unique hi
    subst hj
    exact absurd holds (by simp [Capability.parsers, hcomposite, hdecorator])

/-- **Towers of decorators.**  The context of a parse holds values of the type `α`, one for a class;
    a parser that looks into it is a function of contexts, and `p context` stands for all that it
    does in one.  Layers do not look into the context, but hand on the one that they are given, so
    they are put around `p context`.  Around a parser that is no decorator, whatever layers are put
    in whatever order: the innermost parser is that parser, documents are parsed as by it, and what
    is advertised are the types of the outermost restriction, or its own if there is none, without
    what is left out further outside.  And an item whose class is no composite and no decorator, if
    it is loaded at all, is loaded as such a tower around an instance of the class: it advertises the
    types that it lists, or those of the instance where it lists none, without those that it lists to
    be left out. -/
theorem decorator_towers (α : Type) :
    (∀ (p : ParseContext α → Parser) (layers : List Parser.Layer) (context : ParseContext α),
      (p context).isDecorator = false →
        (Parser.tower layers (p context)).innermost = p context ∧
        (∀ s m, Parser.parse s m (Parser.tower layers (p context)) = Parser.parse s m (p context)) ∧
        (Parser.tower layers (p context)).types = Parser.advertised (p context).types layers) ∧
    ∀ (w : World) (repository : Repository) (services : ServiceTable) (e : Xml.Element)
      (i : Implementation) (x : Parser), NamesClass w services .parsers e i →
        i.isCompositeParser = false → i.isDecorator = false →
        (loadItem (.parsers w repository services) w services e).result = .ok x →
          ∃ p included excluded, (i.newParser w).result = .ok p ∧ p.isDecorator = false ∧
            Filtered e p x included excluded := by
  refine ⟨fun p layers context hplain => ⟨?_, ?_, ?_⟩, ?_⟩
  · exact Parser.innermost_tower hplain
  · exact fun s m => Parser.parse_tower s m layers (p context)
  · exact Parser.types_tower layers (p context)
  · intro w repository services e i x hi hcomposite hdecorator hload
    exact filtered_of_loadItem hi hcomposite hdecorator hload

/-- Layers with two restrictions, of which the outer one hides the inner one. -/
def nestedLayers : List Parser.Layer :=
  [.dropping [drawing], .forwarding Parser.decoratorClass, .restricting [drawing, page],
   .dropping [page], .restricting [.applicationXml]]

/-- An item for the parser of texts, with two types to advertise and one of them to leave out. -/
def narrowedItem : Xml.Element :=
  parserItem "TextParser"
    [.element "mime" [] [.text "text/html"], .element "mime-exclude" [] [.text "text/plain"],
     .element "mime" [] [.text "text/plain"]]

/-- The parser of texts, settled to advertise pages. -/
def narrowedParser : Parser :=
  let text : Parser := .leaf Parser.textClass (.plainText .listed)
  (text.withTypes [page, .textPlain]).withoutTypes [.textPlain]

/-- Through the layers the parser of markup advertises pages, which the layer further inside does
    not leave out; and the item is loaded as a tower that advertises pages. -/
theorem decorator_towers_narrowed :
    (markupParser.isDecorator = false ∧
      (Parser.tower nestedLayers markupParser).innermost = markupParser ∧
      (Parser.tower nestedLayers markupParser).types = [page]) ∧
    NamesClass bareWorld pairServices .parsers narrowedItem (Packaged.textParser .listed) ∧
      (Packaged.textParser .listed).isCompositeParser = false ∧
      (Packaged.textParser .listed).isDecorator = false ∧
      (loadItem pairParsers bareWorld pairServices narrowedItem).result = .ok narrowedParser ∧
      ∃ p included excluded, ((Packaged.textParser .listed).newParser bareWorld).result = .ok p ∧
        p.isDecorator = false ∧ Filtered narrowedItem p narrowedParser included excluded := by
  obtain ⟨hlayers, hitem⟩ := decorator_towers Unit
  obtain ⟨hinnermost, -, htypes⟩ := hlayers (fun _ => markupParser) nestedLayers .empty rfl
  have hclass : NamesClass bareWorld pairServices .parsers narrowedItem
      (Packaged.textParser .listed) :=
    ⟨"TextParser", rfl, by decide, _, rfl, .inl rfl, rfl⟩
  have hload : (loadItem pairParsers bareWorld pairServices narrowedItem).result
      = .ok narrowedParser := rfl
  have hpage : Parser.advertised markupParser.types nestedLayers = [page] := by decide
  exact ⟨⟨rfl, hinnermost, htypes.trans hpage⟩, hclass, rfl, rfl, hload,
    hitem bareWorld .empty pairServices narrowedItem (Packaged.textParser .listed) narrowedParser
      hclass rfl rfl hload⟩

end Config

end MediaGraph
