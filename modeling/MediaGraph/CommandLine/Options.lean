import MediaGraph.Service.Family
import MediaGraph.Text.Blank
import MediaGraph.Text.CaseMapping

namespace MediaGraph.CommandLine

/-!
# Options

* `Choice.read` — a member of a choice by its text, in any case.
* `verbosity` — how much is printed.
* `coloured` — whether output is coloured.
-/

/-! ### Choices -/

/-- Some values, each known by a text; `name` is shown for the choice itself. -/
structure Choice (α : Type) where
  name : String
  members : List α
  text : α → String
  /-- The name of a member, as it is shown apart from the text that selects it. -/
  label : α → String

/-- The texts of a choice. -/
def Choice.texts {α : Type} (c : Choice α) : List String := c.members.map c.text

/-- The message about a text that selects nothing. -/
def Choice.refusal {α : Type} (c : Choice α) (value : String) : String :=
  s!"Invalid value '{value}'. Must be one of: " ++ Text.joinWith ", " c.texts

/-- The member that a text selects. -/
def Choice.read {α : Type} (c : Choice α) (value : String) : Except String α :=
  match c.members.find? fun a => Text.lower (c.text a) == Text.lower value with
  | some a => .ok a
  | none => .error (c.refusal value)

/-- The forms of output. -/
inductive OutputFormat where
  | default
  | json
  deriving Repr, DecidableEq

/-- The text that selects a form of output. -/
def OutputFormat.text : OutputFormat → String
  | .default => "default"
  | .json => "json"

/-- The choice of a form of output. -/
def outputFormats : Choice OutputFormat where
  name := "outputformat"
  members := [.default, .json]
  text := OutputFormat.text
  label
    | .default => "DEFAULT"
    | .json => "JSON"

/-- When output is coloured. -/
inductive ColourMode where
  | auto
  | always
  | never
  deriving Repr, DecidableEq

/-- The choice of a colour mode. -/
def colourModes : Choice ColourMode where
  name := "colormode"
  members := [.auto, .always, .never]
  text
    | .auto => "auto"
    | .always => "always"
    | .never => "never"
  label
    | .auto => "AUTO"
    | .always => "ALWAYS"
    | .never => "NEVER"

/-- The choice of a family of services. -/
def families : Choice Family where
  name := "servicefamily"
  members := Family.all
  text := Family.plural
  label
    | .detectors => "DETECTOR"
    | .parsers => "PARSER"
    | .translators => "TRANSLATOR"

/-! ### Verbosity and colour -/

/-- The message about two options that exclude each other. -/
def clashMessage : String := "The '--verbose' and '--quiet' options are mutually exclusive."

/-- How much is printed: more than zero for more, less for less; not both at once. -/
def verbosity (verbose quiet : Int) : Option Int :=
  if verbose > 0 && quiet > 0 then none else some (verbose - quiet)

/-- Whether output is coloured: never in machine-readable output, then as the mode says, then as
    the variables force or forbid it, and else on a terminal. -/
def coloured (mode : Option ColourMode) (format : Option String)
    (settings : List (String × String)) (terminal : Bool) : Bool :=
  let forced := ((settings.lookup "FORCE_COLOR").filter fun v => v ≠ "" && v ≠ "0").isSome
  if (format.map Text.lower) = some OutputFormat.json.text then false
  else
    match mode with
    | some .always => true
    | some .never => false
    | _ =>
      if forced then true
      else if (settings.lookup "NO_COLOR").isSome then false
      else terminal

end MediaGraph.CommandLine
