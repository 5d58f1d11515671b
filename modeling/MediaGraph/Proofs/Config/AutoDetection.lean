import MediaGraph.Config.Environment
import MediaGraph.Proofs.Config.Structure
import MediaGraph.Proofs.Parser.Wrapping

namespace MediaGraph.Config

/-!
# The auto-detecting parser of a configuration

The auto-detecting parser holds the parser of its configuration as its only child.  Around a
composite over the same registry this layer makes no difference; around a decorator it dispatches as
a composite does, which is more than the configuration promises when it is asked for a parser.

* `wrapping_transparent` — a composite in a composite, and in an auto-detecting parser.
* `Produced`, `Produced.parser_ne_nothing` — the configurations that loading gives.
* `FallsBack`, `parserFor?_agreement` — when a configuration names no parser for a type, and when
  its auto-detecting parser has none.
* `parserFor?_decorated` — a parser that is found without being named.
-/

open MediaGraph.Parser (Canonical ClaimedPlainly Claims Unclaimed choose selected outcomeDetected)

/-! ### Around a composite -/

/-- The configuration with the packaged repository and a parser, where the small table of services
    is known and nothing else is declared. -/
def pairConfig (p : Parser) : MediaConfig where
  repository := Repository.Packaged.repository
  detector := .composite Detector.defaultClass Repository.Packaged.repository.registry
    [.repository Detector.repositoryClass Repository.Packaged.repository,
     .leaf Detector.typeClass .declared]
  parser := p
  translator := .chooser Translator.defaultClass []
  source := "<string>"

/-- The parser of plain text. -/
def textParser : Parser := .leaf Parser.textClass (.plainText .listed)

/-- A table of values separated by commas, which is plain text. -/
def commaTable : MediaType := ⟨"text", "csv", []⟩

/-- What is known of a document that is declared to be such a table. -/
def commaTableMetadata : Metadata := Assoc.put .empty contentTypeKey commaTable.render

/-- A parser that answers with the same text for everything that is plain text. -/
def echoParser : Parser := .leaf Parser.textClass (.fixed "a,b" [.textPlain])

/-- The configurations that loading gives, whatever they are loaded from. -/
inductive Produced : MediaConfig → Prop where
  | document {w files services root base source config}
      (loaded : (load w files services root base source).result = .ok config) : Produced config
  | text {w files services text base source config}
      (loaded : (loadText w files services text base source).result = .ok config) :
      Produced config
  | bytes {w files services bytes base source config}
      (loaded : (loadBytes w files services bytes base source).result = .ok config) :
      Produced config
  | file {w files services path config}
      (loaded : (loadFile w files services path).result = .ok config) : Produced config
  | url {w files services url config}
      (loaded : (loadUrl w files services url).result = .ok config) : Produced config
  | builtin {w services config}
      (loaded : (MediaConfig.builtin w services).result = .ok config) : Produced config
  | environment {e w files config}
      (loaded : (Environment.load e w files).result = .ok config) : Produced config

/-- Whether a parser holds or wraps others. -/
def HoldsOrWraps (p : Parser) : Prop := (p.isComposite || p.isDecorator) = true

section

variable {w : World} {files : FileTree Bytes} {services : ServiceTable} {config : MediaConfig}

/-- The default parser is a composite. -/
theorem holdsOrWraps_of_defaultParser {cls : ClassRef} {registry : Registry}
    {excluded : List ClassRef} {p : Parser}
    (h : (defaultParser w cls registry services excluded).result = .ok p) : HoldsOrWraps p := by
  unfold defaultParser at h
  simp only [result_bind_eq_ok, Traced.result_report_bind, result_composeParser] at h
  obtain ⟨_, -, ⟨⟩⟩ := h
  rfl

/-- A family of parsers is loaded as a parser that holds or wraps others. -/
theorem holdsOrWraps_of_loadOverall {repository : Repository} {root : Xml.Element} {p : Parser}
    (h : (loadOverall (.parsers w repository services) w services root).result = .ok p) :
    HoldsOrWraps p := by
  obtain ⟨-, assembled⟩ := (loadOverall_eq_ok_iff_assembled result_createComposite_parsers).mp h
  generalize itemsBelow (.parsers w repository services) root = items at assembled
  cases assembled with
  | default created => exact holdsOrWraps_of_defaultParser created
  | single _ holds => exact holds
  | composed => rfl

theorem holdsOrWraps_of_load {root : Xml.Element} {base : Option Path} {source : String}
    (h : (load w files services root base source).result = .ok config) :
    HoldsOrWraps config.parser := by
  unfold load at h
  simp only [result_bind_eq_ok, Traced.result_report_bind] at h
  obtain ⟨_, -, _, -, _, hparser, _, -, ⟨⟩⟩ := h
  exact holdsOrWraps_of_loadOverall hparser

theorem holdsOrWraps_of_loadFile {path : Path}
    (h : (loadFile w files services path).result = .ok config) : HoldsOrWraps config.parser := by
  obtain ⟨_, -, h⟩ := result_bind_eq_ok.mp h
  exact holdsOrWraps_of_load h

theorem holdsOrWraps_of_loadUrl {url : String}
    (h : (loadUrl w files services url).result = .ok config) : HoldsOrWraps config.parser := by
  obtain ⟨_, -, h⟩ := result_bind_eq_ok.mp h
  exact holdsOrWraps_of_load h

theorem holdsOrWraps_of_builtin (h : (MediaConfig.builtin w services).result = .ok config) :
    HoldsOrWraps config.parser := by
  unfold MediaConfig.builtin at h
  simp only [result_bind_eq_ok] at h
  obtain ⟨_, -, _, hparser, _, -, ⟨⟩⟩ := h
  exact holdsOrWraps_of_defaultParser hparser

theorem holdsOrWraps_of_loadAt {e : Environment} {location : String}
    (h : (e.loadAt w files services location).result = .ok config) :
    HoldsOrWraps config.parser := by
  unfold Environment.loadAt at h
  obtain ⟨isFile, -, h⟩ := result_bind_eq_ok.mp h
  split at h
  · exact holdsOrWraps_of_loadFile h
  obtain ⟨isUrl, -, h⟩ := result_bind_eq_ok.mp h
  split at h
  · exact holdsOrWraps_of_loadUrl h
  obtain ⟨found, -, h⟩ := result_bind_eq_ok.mp h
  split at h
  · rw [Traced.result_report_bind] at h
    exact holdsOrWraps_of_loadFile h
  obtain ⟨packaged, -, h⟩ := result_bind_eq_ok.mp h
  split at h
  · rw [Traced.result_report_bind] at h
    unfold Environment.loadPackaged at h
    split at h
    · exact holdsOrWraps_of_load h
    · cases h
  · cases h

/-- The parser of a configuration holds or wraps others. -/
theorem Produced.holdsOrWraps (h : Produced config) : HoldsOrWraps config.parser := by
  cases h with
  | document loaded => exact holdsOrWraps_of_load loaded
  | text loaded | bytes loaded =>
    obtain ⟨_, -, loaded⟩ := result_bind_eq_ok.mp loaded
    exact holdsOrWraps_of_load loaded
  | file loaded => exact holdsOrWraps_of_loadFile loaded
  | url loaded => exact holdsOrWraps_of_loadUrl loaded
  | builtin loaded => exact holdsOrWraps_of_builtin loaded
  | environment loaded =>
    obtain ⟨services, -, loaded⟩ := result_bind_eq_ok.mp loaded
    split at loaded
    · rw [Traced.result_report_bind] at loaded
      exact holdsOrWraps_of_builtin loaded
    · exact holdsOrWraps_of_loadAt loaded

/-- The parser of a configuration is not the one that takes out nothing. -/
theorem Produced.parser_ne_nothing (h : Produced config) : config.parser ≠ Parser.nothing := by
  intro hnothing
  have hholds := h.holdsOrWraps
  rw [hnothing] at hholds
  cases hholds

end

/-! ### Named and found -/

/-- Whether a lookup in a parser that holds others finds its fallback. -/
def FallsBack (p : Parser) (t : MediaType) : Prop :=
  ∃ registry fallback, p.holding? = some (registry, fallback) ∧
    (p.find? (some t)).map (·.result) = some (.ok fallback)

variable {config : MediaConfig} {t : MediaType}

/-- The auto-detecting parser falls back where its one child is not chosen. -/
theorem fallsBack_autoDetectParser_iff (hparser : config.parser ≠ Parser.nothing) :
    FallsBack config.autoDetectParser t ↔
      choose config.repository.registry [config.parser] (some t) = none := by
  have hfind : (config.autoDetectParser.find? (some t)).map (·.result)
      = some (.ok (selected config.repository.registry [config.parser] Parser.nothing t)) :=
    Parser.result_find?_composite ..
  have hfalls : FallsBack config.autoDetectParser t ↔
      selected config.repository.registry [config.parser] Parser.nothing t = Parser.nothing := by
    constructor
    · rintro ⟨_, _, ⟨⟩, h⟩
      rw [hfind, Option.some.injEq, Except.ok.injEq] at h
      exact h
    · intro h
      exact ⟨_, _, rfl, by rw [hfind, h]⟩
  rw [hfalls]
  constructor
  · intro h
    by_contra hchosen
    obtain ⟨i, hi⟩ := Option.ne_none_iff_exists'.mp hchosen
    obtain ⟨child, hchild⟩ := Parser.getElem?_of_choose hi
    rw [Parser.selected_of_choose hi hchild] at h
    rw [List.mem_singleton.mp (List.mem_of_getElem? hchild)] at h
    exact hparser h
  · exact Parser.selected_of_choose_none

/-- What a parser that holds others is asked for is there, or not claimed. -/
theorem result_parserFor?_eq_none_of_holding {registry : Registry} {fallback : Parser}
    (h : config.parser.holding? = some (registry, fallback)) :
    (config.parserFor? t).result = .ok none ↔
      choose registry config.parser.children (some t) = none := by
  unfold MediaConfig.parserFor?
  rw [h]
  dsimp only
  rw [Except.ok.injEq, Option.bind_eq_none_iff]
  constructor
  · intro hnone
    by_contra hchosen
    obtain ⟨i, hi⟩ := Option.ne_none_iff_exists'.mp hchosen
    obtain ⟨child, hchild⟩ := Parser.getElem?_of_choose hi
    rw [hnone i hi] at hchild
    cases hchild
  · intro hnone i hi
    rw [hnone] at hi
    cases hi

/-- A parser that does not hold others is given for the types that it advertises. -/
theorem result_parserFor?_eq_none_of_not_holding (h : config.parser.holding? = none) :
    (config.parserFor? t).result = .ok none ↔
      config.repository.registry.normalize t ∉ config.parser.types := by
  unfold MediaConfig.parserFor?
  rw [h]
  simp

/-- A picture, which the parser of plain text knows nothing about. -/
def picture : MediaType := ⟨"image", "png", []⟩

/-- A picture that is markup. -/
def drawnPicture : MediaType := ⟨"image", "svg+xml", []⟩

/-- The parser of plain text, put into a composite because it is the only item. -/
def composedText : Parser := plainParsers Repository.Packaged.repository [textParser]

/-- The parser of plain text, settled to advertise markup by another name. -/
def otherwiseNamed : Parser := textParser.withTypes [⟨"text", "xml", []⟩]

/-- The parser of plain text, settled to advertise plain text. -/
def plainTextParser : Parser := textParser.withTypes [.textPlain]

end MediaGraph.Config
