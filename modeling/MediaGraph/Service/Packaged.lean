import MediaGraph.Service.Discovery
import MediaGraph.Translator.Packaged

namespace MediaGraph.Packaged

/-!
# The packaged implementations

The classes that are known without any configuration, and the service table that declares them.

* `services` — the packaged service table.
-/

/-! ### Classes -/

/-- The shapes of composite detectors. -/
def compositeDetectorShapes : List Shape := [.fromChildrenExcluding, .fromChildren, .fromList]

/-- The shapes of composite parsers. -/
def compositeParserShapes : List Shape := [.fromChildrenExcluding, .fromChildren]

/-- The class from which all detectors derive. -/
def detector : Implementation := .ofDetector Detector.baseClass [] .abstract

/-- Recognizes documents without bytes. -/
def zeroSizeDetector : Implementation := .ofDetector Detector.zeroSizeClass [] (.leaf .emptiness)

/-- Believes the declared type. -/
def typeDetector : Implementation := .ofDetector Detector.typeClass [] (.leaf .declared)

/-- Recognizes text. -/
def textDetector : Implementation :=
  .ofDetector Detector.textClass [] (.leaf (.textual Detector.textWindow))

/-- Keeps the most specific answer of its children. -/
def compositeDetector : Implementation :=
  .ofDetector Detector.compositeClass compositeDetectorShapes (.composite none)

/-- Holds a repository and what is discovered. -/
def defaultDetectorClass : Implementation :=
  .ofDetector Detector.defaultClass [.fromLoader] .discovering

/-- Goes by the rules of a repository. -/
def mimeRepository : Implementation := .ofDetector Detector.repositoryClass [] .repository

/-- The class from which all parsers derive. -/
def parser : Implementation := .ofParser Parser.baseClass [] .abstract

/-- Supports no type. -/
def emptyParser : Implementation := .ofParser Parser.emptyClass [] (.leaf .nothing)

/-- Decodes plain text. -/
def textParser (codecs : Codecs) : Implementation :=
  .ofParser Parser.textClass [] (.leaf (.plainText codecs))

/-- Takes out the texts of markup. -/
def xmlParser (codecs : Codecs) : Implementation :=
  .ofParser Parser.xmlClass [] (.leaf (.markup codecs))

/-- Hands documents to its children. -/
def compositeParser : Implementation :=
  .ofParser Parser.compositeClass compositeParserShapes (.composite .holding none)

/-- Holds what is discovered. -/
def defaultParserClass : Implementation := .ofParser Parser.defaultClass [.fromLoader] .discovering

/-- Detects the type of a document first. -/
def autoDetectParserClass : Implementation :=
  .ofParser Parser.autoClass compositeParserShapes .autoDetecting

/-- Wraps one parser. -/
def parserDecorator : Implementation :=
  .ofParser Parser.decoratorClass [.wrapping] (.decorator .forwarding)

/-- Wraps one parser and advertises given types. -/
def restrictingDecorator : Implementation := .ofParser Parser.restrictingClass [] .filter

/-- Wraps one parser and leaves out given types. -/
def droppingDecorator : Implementation := .ofParser Parser.droppingClass [] .filter

/-- The class from which all translators derive. -/
def translator : Implementation := .ofTranslator Translator.baseClass .abstract

/-- Leaves texts as they are. -/
def emptyTranslator : Implementation :=
  .ofTranslator Translator.emptyClass (.leaf true Translator.identity)

/-- Chooses among what is discovered. -/
def defaultTranslatorClass : Implementation :=
  .ofTranslator Translator.defaultClass .discovering

/-! ### The service table -/

/-- Where the packaged entries are declared. -/
def manifestName : String := "mediaconf-services.toml"

/-- The entry of a class, declared under its full name. -/
def entryOf (auto : Bool) (cls : ClassRef) : Entry :=
  ⟨cls.qualified, .path s!"{cls.path}:{cls.name}", auto, manifestName⟩

/-- The packaged service table. -/
def services : ServiceTable where
  detectors :=
    [Detector.zeroSizeClass, Detector.typeClass, Detector.textClass].map (entryOf true) ++
      [Detector.compositeClass, Detector.defaultClass, Detector.repositoryClass].map
        (entryOf false)
  parsers :=
    [Parser.textClass, Parser.xmlClass].map (entryOf true) ++
      [Parser.emptyClass, Parser.compositeClass, Parser.defaultClass, Parser.decoratorClass,
       Parser.autoClass].map (entryOf false)
  translators := [Translator.emptyClass, Translator.defaultClass].map (entryOf false)

end MediaGraph.Packaged
