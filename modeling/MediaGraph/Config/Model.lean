import MediaGraph.Description
import MediaGraph.Service.Discovery
import MediaGraph.Service.Packaged

namespace MediaGraph

/-!
# Configurations

A configuration is a repository together with one detector, one parser and one translator.

* `MediaConfig.parserFor?` — the parser that handles a type.
* `MediaConfig.autoDetectParser` — a parser that detects the type of a document first.
* `MediaConfig.builtin` — the configuration without any document.
-/

/-- A loaded configuration; `source` tells where it was read. -/
structure MediaConfig where
  repository : Repository
  detector : Detector
  parser : Parser
  translator : Translator
  source : String

namespace MediaConfig

/-- The parser that handles a type: in a parser that holds others, the child that the type belongs
    to; otherwise the parser itself, if it advertises the type. -/
def parserFor? (config : MediaConfig) (t : MediaType) : Traced (Option Parser) :=
  match config.parser.holding? with
  | some (registry, _) =>
    let children := config.parser.children
    ⟨.ok ((Parser.choose registry children (some t)).bind (children[·]?)),
      config.parser.tableRecords registry⟩
  | none =>
    let canonical := config.repository.registry.normalize t
    ⟨.ok (if config.parser.types.contains canonical then some config.parser else none),
      config.parser.typesRecords⟩

/-- The parts of a configuration that detect and parse documents. -/
def autoParts (config : MediaConfig) : AutoParts :=
  ⟨config.repository.registry, config.detector, config.parser⟩

/-- A parser that detects the type of a document first and hands the document to the parser of the
    configuration. -/
def autoDetectParser (config : MediaConfig) : Parser :=
  MediaGraph.autoDetectParser Parser.autoClass config.autoParts

/-- The configuration of the packaged repository and what a table discovers. -/
def builtin (w : World) (services : ServiceTable) : Traced MediaConfig := do
  let repository := Repository.Packaged.repository
  let detector ← defaultDetector w Detector.defaultClass repository services []
  let parser ← defaultParser w Parser.defaultClass repository.registry services []
  let translator ← defaultTranslator w Translator.defaultClass services
  return ⟨repository, detector, parser, translator, "<builtin>"⟩

/-- The description of a configuration. -/
structure Summary where
  source : String
  repositorySource : String
  typeCount : Nat
  detector : Description
  parser : Description
  translator : Description

/-- The descriptions of the three components, with their names. -/
def Summary.sections (s : Summary) : List (String × Description) :=
  [("detector", s.detector), ("parser", s.parser), ("translator", s.translator)]

/-- The description of a configuration as a JSON object. -/
def Summary.toJson (s : Summary) : Json :=
  .object
    ([("source", .text s.source),
      ("mime_repository",
        .object [("source", .text s.repositorySource), ("types", .number s.typeCount)])] ++
      s.sections.map fun (name, d) => (name, d.toJson))

/-- Describes a configuration. -/
def describe (config : MediaConfig) : Traced Summary :=
  ⟨.ok
    { source := config.source
      repositorySource := config.repository.source
      typeCount := config.repository.registry.size
      detector := config.detector.describe
      parser := config.parser.describe
      translator := config.translator.describe },
    config.parser.describeRecords⟩

end MediaConfig

/-! ### The packaged surroundings -/

/-- What is reported when no configuration is named. -/
def noLocationReport : String := "No configuration location; using the built-in configuration"

/-- The parts of the configuration that is used when none is named.  It is put together of the
    packaged implementations, none of which needs such parts itself. -/
def World.packagedParts (readers : Readers) (modules : ModuleTable) : Traced AutoParts := do
  Traced.report .debug noLocationReport
  let inner : World := ⟨readers, modules, Traced.fail .wrongType⟩
  return (← MediaConfig.builtin inner Packaged.services).autoParts

/-- The surroundings with some readers and modules, where a configuration that is not named is the
    packaged one. -/
def World.ofModules (readers : Readers) (modules : ModuleTable) : World :=
  ⟨readers, modules, World.packagedParts readers modules⟩

end MediaGraph
