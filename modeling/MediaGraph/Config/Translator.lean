import MediaGraph.Config.Loading
import MediaGraph.Translator.Packaged

namespace MediaGraph.Config

/-!
# Loading the translator

Every translator element directly below the root is resolved and built; the first one is used.
Translators are not composed, and elements further down are not read.
-/

/-- A failure to build a translator, as a problem of the configuration. -/
def ofBuildingTranslator (name : String) (f : Failure) : Failure :=
  .configuration (.classUnbuildable Family.translators.label name) (some f)

/-- The translator of an element. -/
def loadTranslatorElement (w : World) (services : ServiceTable) (e : Xml.Element) :
    Traced Translator := do
  let name ← Traced.ofExcept e.className
  let i ← resolveClass w services .translators name
  (i.newTranslator).mapFailure (ofBuildingTranslator name)

/-- The translators of some elements. -/
def loadTranslatorElements (w : World) (services : ServiceTable) :
    List Xml.Element → Traced (List Translator)
  | [] => return []
  | e :: es => do
    let first ← loadTranslatorElement w services e
    return first :: (← loadTranslatorElements w services es)

/-- The translator that a document names, else the default one. -/
def loadTranslator (w : World) (services : ServiceTable) (root : Xml.Element) :
    Traced Translator := do
  match ← loadTranslatorElements w services (root.children Family.translators.label) with
  | [] =>
    Traced.report .debug "No <translator> declared; using the default"
    defaultTranslator w Translator.defaultClass services
  | [one] => return one
  | first :: others =>
    Traced.report .debug (s!"Using {first.shown}; ignoring {others.length} further " ++
      "translator(s): " ++ Text.joinWith ", " (others.map Translator.shown))
    return first

end MediaGraph.Config
