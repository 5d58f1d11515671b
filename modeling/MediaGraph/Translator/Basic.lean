import MediaGraph.Class
import MediaGraph.Traced

namespace MediaGraph

/-!
# Translators

A translator turns a text into another language, if it can be used at the moment.  A chooser hands
the work to the first of its candidates that can be used.
-/

/-- How a text is translated: the text, the language wanted, and the language it is in. -/
abbrev Rendering := String → String → Option String → Except Failure String

/-- A tree of translators. -/
inductive Translator where
  | leaf (cls : ClassRef) (available : Bool) (render : Rendering)
  | chooser (cls : ClassRef) (candidates : List Translator)

namespace Translator

/-- The class of a translator. -/
def cls : Translator → ClassRef
  | .leaf cls .. => cls
  | .chooser cls _ => cls

/-- The candidates of a translator. -/
def candidates : Translator → List Translator
  | .leaf .. => []
  | .chooser _ candidates => candidates

mutual

/-- A translator as reports show it. -/
def shown : Translator → String
  | .leaf cls .. => s!"{cls.name}()"
  | .chooser cls candidates =>
    cls.name ++ "([" ++ Text.joinWith ", " (shownAll candidates) ++ "])"

/-- Translators as reports show them. -/
def shownAll : List Translator → List String
  | [] => []
  | t :: ts => t.shown :: shownAll ts

end

mutual

/-- Whether a translator can be used. -/
def isAvailable : Translator → Bool
  | .leaf _ available _ => available
  | .chooser _ candidates => anyAvailable candidates

/-- Whether one of the translators can be used. -/
def anyAvailable : List Translator → Bool
  | [] => false
  | t :: ts => t.isAvailable || anyAvailable ts

end

/-- The first candidate that can be used. -/
def chosen? (t : Translator) : Option Translator := t.candidates.find? (·.isAvailable)

mutual

/-- A text in the target language. -/
def translate (text target : String) (source : Option String) :
    Translator → Except Failure String
  | .leaf _ _ render => render text target source
  | .chooser _ candidates => translateFirst text target source candidates

/-- A text in the target language, by the first translator that can be used. -/
def translateFirst (text target : String) (source : Option String) :
    List Translator → Except Failure String
  | [] => .error (.translatorUnavailable "No translator is currently available")
  | t :: ts =>
    if t.isAvailable then translate text target source t
    else translateFirst text target source ts

end

end Translator

end MediaGraph
