import MediaGraph.Text.Blank

namespace MediaGraph.CommandLine

/-!
# Arguments

Arguments are options and operands.  A long option stands alone or with a value, which follows an
equals sign or is the next argument; one-letter options may be joined.  After two dashes all
arguments are operands.

* `Grammar.read` — the options and operands of some arguments.
-/

/-- An option that may be given. -/
structure OptionForm where
  /-- The name behind two dashes. -/
  name : String
  /-- The letter behind one dash. -/
  letter : Option Char
  takesValue : Bool
  deriving Repr, DecidableEq

/-- An option that was given. -/
structure Given where
  name : String
  value : Option String
  deriving Repr, DecidableEq

/-- The options that may be given, and whether they may also follow operands. -/
structure Grammar where
  forms : List OptionForm
  mixed : Bool

/-- The options and operands that were given. -/
structure Arguments where
  options : List Given
  operands : List String
  deriving Repr, DecidableEq

namespace Arguments

/-- One more option in front. -/
def withOption (g : Given) (a : Arguments) : Arguments := { a with options := g :: a.options }

/-- One more operand in front. -/
def withOperand (s : String) (a : Arguments) : Arguments := { a with operands := s :: a.operands }

/-- How often an option was given. -/
def count (a : Arguments) (name : String) : Nat :=
  (a.options.filter fun g => g.name = name).length

/-- Whether an option was given. -/
def has (a : Arguments) (name : String) : Bool := a.count name > 0

/-- The value with which an option was given last. -/
def value? (a : Arguments) (name : String) : Option String :=
  (a.options.reverse.find? fun g => g.name = name).bind (·.value)

/-- Whether, of two options, the first was given and not behind the second. -/
def startsWith (a : Arguments) (first second : String) : Bool :=
  match a.options.find? fun g => g.name = first || g.name = second with
  | some g => g.name = first
  | none => false

end Arguments

namespace Grammar

/-- The option of a name. -/
def named? (g : Grammar) (name : String) : Option OptionForm :=
  g.forms.find? fun f => f.name = name

/-- The option of a letter. -/
def lettered? (g : Grammar) (letter : Char) : Option OptionForm :=
  g.forms.find? fun f => f.letter = some letter

/-- The options that joined letters stand for; none of them may take a value. -/
def readLetters (g : Grammar) : List Char → Option (List Given)
  | [] => some []
  | c :: cs => do
    let form ← g.lettered? c
    if form.takesValue then none
    else return ⟨form.name, none⟩ :: (← readLetters g cs)

/-- The name of a long option and the value behind its equals sign. -/
def splitOption (cs : List Char) : String × Option String :=
  match Text.cutFirst? '=' cs with
  | some (name, value) => (String.ofList name, some (String.ofList value))
  | none => (String.ofList cs, none)

/-- The options and operands of some arguments; nothing when they do not fit the grammar. -/
def read (g : Grammar) : List String → Option Arguments
  | [] => some ⟨[], []⟩
  | argument :: rest =>
    match argument.toList with
    | '-' :: '-' :: [] => some ⟨[], rest⟩
    | '-' :: '-' :: cs =>
      let (name, value) := splitOption cs
      match g.named? name with
      | none => none
      | some form =>
        match form.takesValue, value with
        | false, none => (read g rest).map (.withOption ⟨name, none⟩)
        | false, some _ => none
        | true, some v => (read g rest).map (.withOption ⟨name, some v⟩)
        | true, none =>
          match rest with
          | v :: rest => (read g rest).map (.withOption ⟨name, some v⟩)
          | [] => none
    | '-' :: c :: cs => do
      let given ← g.readLetters (c :: cs)
      let others ← read g rest
      return { others with options := given ++ others.options }
    | _ =>
      if g.mixed then (read g rest).map (.withOperand argument)
      else some ⟨[], argument :: rest⟩

end Grammar

end MediaGraph.CommandLine
