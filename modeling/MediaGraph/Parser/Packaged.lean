import MediaGraph.Detector.Packaged
import MediaGraph.Parser.Dispatch
import MediaGraph.Repository.Packaged

namespace MediaGraph.Parser

/-!
# The packaged parsers

The classes of parsers that are known without any configuration, and the two leaves that take
part in the default parser by themselves.
-/

/-- The class from which all parsers derive. -/
def baseClass : ClassRef := ⟨"mediaconf.parse.base", "Parser", []⟩

/-- Supports no type. -/
def emptyClass : ClassRef := baseClass.under "mediaconf.parse.builtins" "EmptyParser"

/-- Decodes plain text. -/
def textClass : ClassRef := baseClass.under "mediaconf.parse.builtins" "TextParser"

/-- Takes out the texts of markup. -/
def xmlClass : ClassRef := baseClass.under "mediaconf.parse.builtins" "XmlParser"

/-- Hands documents to its children. -/
def compositeClass : ClassRef := baseClass.under "mediaconf.parse.composite" "CompositeParser"

/-- Holds what is discovered. -/
def defaultClass : ClassRef := compositeClass.under "mediaconf.parse.default" "DefaultParser"

/-- Detects the type of a document first. -/
def autoClass : ClassRef := compositeClass.under "mediaconf.parse.auto" "AutoDetectParser"

/-- Wraps one parser. -/
def decoratorClass : ClassRef := baseClass.under "mediaconf.parse.decorator" "ParserDecorator"

/-- Wraps one parser and advertises given types. -/
def restrictingClass : ClassRef :=
  decoratorClass.under "mediaconf.parse.decorator" "_TypeRestrictingDecorator"

/-- Wraps one parser and leaves out given types. -/
def droppingClass : ClassRef :=
  decoratorClass.under "mediaconf.parse.decorator" "_TypeExcludingDecorator"

/-- The parser that takes out nothing. -/
def nothing : Parser := .leaf emptyClass .nothing

/-- A parser that advertises exactly `types`. -/
def withTypes (p : Parser) (types : TypeSet) : Parser :=
  .decorator restrictingClass (.restricting types) p

/-- A parser that advertises what `p` does, without `types`. -/
def withoutTypes (p : Parser) (types : TypeSet) : Parser :=
  .decorator droppingClass (.dropping types) p

/-- The parsers that take part in the default parser by themselves. -/
def packaged (codecs : Codecs) : List Parser :=
  [.leaf textClass (.plainText codecs), .leaf xmlClass (.markup codecs)]

/-- What is reported when a default parser is put together. -/
def assembledReport (parsers : List Parser) : String :=
  s!"DefaultParser assembled {parsers.length} parser(s): " ++
    Text.joinWith ", " (parsers.map fun p => p.cls.name)

end MediaGraph.Parser
