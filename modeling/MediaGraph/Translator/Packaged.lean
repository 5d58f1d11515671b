import MediaGraph.Translator.Basic

namespace MediaGraph.Translator

/-!
# The packaged translators

The classes of translators that are known without any configuration.
-/

/-- The class from which all translators derive. -/
def baseClass : ClassRef := ⟨"mediaconf.translate.base", "Translator", []⟩

/-- Leaves texts as they are. -/
def emptyClass : ClassRef := baseClass.under "mediaconf.translate.base" "EmptyTranslator"

/-- Chooses among what is discovered. -/
def defaultClass : ClassRef := baseClass.under "mediaconf.translate.base" "DefaultTranslator"

/-- Leaves a text as it is. -/
def identity : Rendering := fun text _ _ => .ok text

end MediaGraph.Translator
