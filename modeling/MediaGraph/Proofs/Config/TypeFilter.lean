import MediaGraph.Proofs.Config.Loaded
import MediaGraph.Proofs.Parser.Lookup

namespace MediaGraph.Config

/-!
# The types of an item

An item for a parser may list types to advertise and types not to advertise.  Both lists change what
the parser advertises and nothing else, so a type that is left out can still find its way to the
parser, by a canonical form or a type further up.

* `Lists` — a type is written directly below an element.
* `filterTypes_eq_ok_iff` — what the settings of an item make of a parser.
* `StillAdvertises`, `mem_types_iff_of_filterTypes` — what an item advertises after its settings.
* `excluded_never_found_iff` — when a type that is left out never finds the parser.
* `excluded_type_found` — a type that is left out and finds the parser.
-/

variable {e : Xml.Element} {tag : String} {p q : Parser} {t : MediaType}

/-- Whether a type is written directly below an element, in an element of a given name. -/
def Lists (e : Xml.Element) (tag : String) (t : MediaType) : Prop :=
  ∃ d : Xml.Element, d.toNode ∈ e.content ∧ d.tag = tag ∧ MediaType.read d.innerText = .ok t

/-! ### Reading types -/

/-- A pass that reads a type from every text and adds it to a set adds what can be read, no more. -/
theorem mem_foldlM_read {step : TypeSet → String → Except Failure TypeSet}
    (hstep : ∀ types text types', step types text = .ok types' ↔
      ∃ v, MediaType.read text = .ok v ∧ TypeSet.insert v types = types')
    {texts : List String} {start types : TypeSet} (h : texts.foldlM step start = .ok types) :
    t ∈ types ↔ t ∈ start ∨ ∃ text ∈ texts, MediaType.read text = .ok t := by
  induction texts generalizing start with
  | nil =>
    cases h
    simp
  | cons text texts ih =>
    rw [List.foldlM_cons] at h
    obtain ⟨next, hnext, hrest⟩ := bind_eq_ok.mp h
    obtain ⟨v, hv, rfl⟩ := (hstep start text next).mp hnext
    -- The first text stands for one type, which is then in the set for the rest of the pass.
    have htext : MediaType.read text = .ok t ↔ t = v := by
      rw [hv, Except.ok.injEq, eq_comm]
    rw [ih hrest, TypeSet.mem_insert, List.exists_mem_cons_iff, htext]
    tauto

/-- The types that are read are those that are listed. -/
theorem mem_iff_lists (htag : tag ≠ "*") {types : TypeSet}
    (h : Capability.readTypes e tag = .ok types) : t ∈ types ↔ Lists e tag t := by
  have hread : t ∈ types ↔ t ∈ [] ∨ ∃ text ∈ e.childTexts tag, MediaType.read text = .ok t := by
    refine mem_foldlM_read ?_ h
    intro types text types'
    cases MediaType.read text <;> simp
  simp only [hread, List.not_mem_nil, false_or, Xml.Element.childTexts, List.mem_map,
    Xml.mem_children_iff htag, Lists]
  constructor
  · rintro ⟨_, ⟨d, ⟨hd, hname⟩, rfl⟩, hv⟩
    exact ⟨d, hd, hname, hv⟩
  · rintro ⟨d, hd, hname, hv⟩
    exact ⟨_, ⟨d, ⟨hd, hname⟩, rfl⟩, hv⟩

/-- No types are read where none is listed. -/
theorem isEmpty_iff_lists (htag : tag ≠ "*") {types : TypeSet}
    (h : Capability.readTypes e tag = .ok types) :
    types.isEmpty = true ↔ ∀ v, ¬ Lists e tag v := by
  rw [List.isEmpty_iff, List.eq_nil_iff_forall_not_mem]
  simp only [mem_iff_lists htag h]

/-! ### The settings of an item -/

/-- **What the settings of an item make of a parser**: it is put into a filter for each of the two
    sets of types that is not empty. -/
theorem filterTypes_eq_ok_iff :
    (Capability.filterTypes p e).result = .ok q ↔
      ∃ included excluded p', Capability.readTypes e "mime" = .ok included ∧
        Capability.readTypes e "mime-exclude" = .ok excluded ∧
        (if included.isEmpty then p else p.withTypes included) = p' ∧
        (if excluded.isEmpty then p' else p'.withoutTypes excluded) = q := by
  unfold Capability.filterTypes
  simp only [result_bind_eq_ok, Traced.result_ofExcept, Capability.result_restrict,
    Capability.result_exclude, Except.ok.injEq]
  constructor
  · rintro ⟨included, hincluded, p', hp', excluded, hexcluded, hq⟩
    exact ⟨included, excluded, p', hincluded, hexcluded, hp', hq⟩
  · rintro ⟨included, excluded, p', hincluded, hexcluded, hp', hq⟩
    exact ⟨included, hincluded, p', hp', excluded, hexcluded, hq⟩

/-- A parser that is restricted to some types advertises these; to none, what it did. -/
theorem mem_types_restricted {included : TypeSet} :
    t ∈ (if included.isEmpty then p else p.withTypes included).types ↔
      (included.isEmpty = true → t ∈ p.types) ∧ (included.isEmpty = false → t ∈ included) := by
  cases included with
  | nil => simp
  | cons v vs => simp [Parser.withTypes, Parser.types, Effect.apply]

/-- A parser without some types advertises what it did, but for these. -/
theorem mem_types_excluding {excluded : TypeSet} :
    t ∈ (if excluded.isEmpty then p else p.withoutTypes excluded).types ↔
      t ∈ p.types ∧ t ∉ excluded := by
  cases excluded with
  | nil => simp
  | cons v vs => simp [Parser.withoutTypes, Parser.types, Effect.apply, TypeSet.without]

/-- Whether an item that is built as `p` advertises a type after its settings: one that is listed,
    where any are, and else one that `p` advertises, and none that is listed to be left out. -/
structure StillAdvertises (p : Parser) (e : Xml.Element) (t : MediaType) : Prop where
  own : (∀ v, ¬ Lists e "mime" v) → t ∈ p.types
  listed : (∃ v, Lists e "mime" v) → Lists e "mime" t
  kept : ¬ Lists e "mime-exclude" t

/-- **What an item advertises** after its settings. -/
theorem mem_types_iff_of_filterTypes (h : (Capability.filterTypes p e).result = .ok q) :
    t ∈ q.types ↔ StillAdvertises p e t := by
  obtain ⟨included, excluded, _, hincluded, hexcluded, rfl, rfl⟩ := filterTypes_eq_ok_iff.mp h
  -- The parser is restricted where the set of types to advertise is not empty, which is where the
  -- item lists any.
  have hnone : included.isEmpty = true ↔ ∀ v, ¬ Lists e "mime" v :=
    isEmpty_iff_lists (by decide) hincluded
  have hsome : included.isEmpty = false ↔ ∃ v, Lists e "mime" v := by
    rw [← Bool.not_eq_true, hnone, not_forall_not]
  rw [mem_types_excluding, mem_types_restricted, hnone, hsome,
    mem_iff_lists (by decide) hincluded, mem_iff_lists (by decide) hexcluded]
  constructor
  · rintro ⟨⟨own, listed⟩, kept⟩
    exact ⟨own, listed, kept⟩
  · rintro ⟨own, listed, kept⟩
    exact ⟨⟨own, listed⟩, kept⟩

/-! ### Types that are left out -/

/-- An item that leaves a type out is no leaf. -/
theorem nothing_ne_of_filterTypes (h : (Capability.filterTypes p e).result = .ok q)
    (ht : Lists e "mime-exclude" t) : Parser.nothing ≠ q := by
  obtain ⟨-, excluded, p', -, hexcluded, -, rfl⟩ := filterTypes_eq_ok_iff.mp h
  have hsome : excluded.isEmpty = false := by
    rw [← Bool.not_eq_true, isEmpty_iff_lists (by decide) hexcluded]
    exact fun hnone => hnone t ht
  rw [hsome, if_neg Bool.false_ne_true]
  exact nofun

/-- **When a type that is left out never finds the parser.**  An item advertises after its settings
    what it lists, or what it is built with where it lists nothing, without exactly the types that
    it leaves out.  For a type that is left out, no composite over a registry finds that parser
    (except as its fallback), exactly when no type on the way up has the canonical form of a type
    that is still advertised. -/
theorem excluded_never_found_iff (h : (Capability.filterTypes p e).result = .ok q)
    (ht : Lists e "mime-exclude" t) (registry : Registry) :
    (∀ v, v ∈ q.types ↔ StillAdvertises p e v) ∧
      ((∀ (composite : Parser) fallback, composite.holding? = some (registry, fallback) →
          q ∈ composite.children → fallback ≠ q →
            (composite.find? (some t)).map (·.result) ≠ some (.ok q)) ↔
        ∀ n u, registry.ancestor? t n = some u →
          ∀ v, StillAdvertises p e v → registry.normalize v ≠ registry.normalize u) := by
  have htypes : ∀ v, v ∈ q.types ↔ StillAdvertises p e v := fun v =>
    mem_types_iff_of_filterTypes h
  refine ⟨htypes, ?_⟩
  rw [Parser.never_found_iff (nothing_ne_of_filterTypes h ht)]
  simp only [Parser.Reaches, Parser.Claims, htypes, not_exists, not_and, ne_eq]

/-- An item for the parser of markup, with types to advertise and one type to leave out. -/
def filteringItem (included : List String) (excluded : String) : Xml.Element :=
  parserItem "XmlParser"
    (.element "mime-exclude" [] [.text excluded] ::
      included.map fun text => .element "mime" [] [.text text])

/-- The type that the item leaves out is listed. -/
theorem lists_filteringItem (included : List String) {excluded : String}
    (h : MediaType.read (Text.trim (String.join [excluded])) = .ok t) :
    Lists (filteringItem included excluded) "mime-exclude" t :=
  ⟨⟨"mime-exclude", [], [.text excluded]⟩, List.mem_cons_self, rfl, h⟩

/-- The parser of markup. -/
def markupParser : Parser := .leaf Parser.xmlClass (.markup .listed)

/-- The type of pages in markup. -/
def page : MediaType := ⟨"text", "html", []⟩

/-- The parser of markup, settled to advertise pages and no markup. -/
def pageParser : Parser :=
  (markupParser.withTypes [.applicationXml, page]).withoutTypes [.applicationXml]

/-- The item with these settings. -/
def pageItem : Xml.Element := filteringItem ["text/html", "application/xml"] "application/xml"

/-- Where only pages are left to advertise, markup never finds the parser. -/
theorem excluded_never_found_markup :
    (Capability.filterTypes markupParser pageItem).result = .ok pageParser ∧
      Lists pageItem "mime-exclude" .applicationXml ∧
      ∀ (composite : Parser) fallback, composite.holding? = some (Registry.empty, fallback) →
        pageParser ∈ composite.children → fallback ≠ pageParser →
          (composite.find? (some .applicationXml)).map (·.result) ≠ some (.ok pageParser) := by
  have hresult : (Capability.filterTypes markupParser pageItem).result = .ok pageParser := rfl
  have hlists : Lists pageItem "mime-exclude" .applicationXml := lists_filteringItem _ rfl
  obtain ⟨htypes, hnever⟩ := excluded_never_found_iff hresult hlists Registry.empty
  refine ⟨hresult, hlists, hnever.mpr ?_⟩
  intro n u hu v hv
  -- The way up is endless in principle, so it is gone through as the finite walk that covers it.
  have hwalk : u ∈ Registry.empty.walk .applicationXml := Registry.mem_walk_iff.mpr ⟨n, hu⟩
  have hapart : ∀ u ∈ Registry.empty.walk .applicationXml, ∀ v ∈ pageParser.types,
      Registry.empty.normalize v ≠ Registry.empty.normalize u := by
    decide
  exact hapart u hwalk v ((htypes v).mpr hv)

/-- The type of drawings in markup. -/
def drawing : MediaType := ⟨"image", "svg+xml", []⟩

/-- The parser of markup, settled to leave drawings out. -/
def drawinglessParser : Parser := markupParser.withoutTypes [drawing]

/-- **A type that is left out and finds the parser.**  The parser of markup never advertised
    drawings, so leaving them out changes nothing: as markup they are handed to it.  A fallback is
    found without being asked for its types at all. -/
theorem excluded_type_found :
    ((Capability.filterTypes markupParser (filteringItem [] "image/svg+xml")).result
        = .ok drawinglessParser ∧
      Lists (filteringItem [] "image/svg+xml") "mime-exclude" drawing ∧
      ((Parser.composite Parser.compositeClass none Registry.empty [drawinglessParser] []
          Parser.nothing).find? (some drawing)).map (·.result) = some (.ok drawinglessParser) ∧
      Parser.nothing ≠ drawinglessParser) ∧
    (Capability.filterTypes markupParser pageItem).result = .ok pageParser ∧
      Lists pageItem "mime-exclude" .applicationXml ∧
      ((Parser.composite Parser.compositeClass none Registry.empty [pageParser] []
          pageParser).find? (some .applicationXml)).map (·.result) = some (.ok pageParser) := by
  have hclimbs : Parser.choose Registry.empty [drawinglessParser] (some drawing) = some 0 := by
    decide
  have hnone : Parser.choose Registry.empty [pageParser] (some .applicationXml) = none := by
    decide
  refine ⟨⟨rfl, lists_filteringItem _ rfl, ?_, nofun⟩, rfl, lists_filteringItem _ rfl, ?_⟩
  · rw [Parser.result_find?_composite, Parser.selected_of_choose hclimbs rfl]
  · rw [Parser.result_find?_composite, Parser.selected_of_choose_none hnone]

end MediaGraph.Config
