import MediaGraph.CommandLine.Arguments
import MediaGraph.CommandLine.Options
import MediaGraph.CommandLine.Style
import MediaGraph.Config.Environment
import MediaGraph.Logging.Level

namespace MediaGraph.CommandLine

/-!
# Commands

* `Command.run` — what a command prints.
* `run` — what comes of a whole command line: an exit code and the two outputs.
-/

/-! ### What can go wrong -/

/-- Why a command line ends early. -/
inductive Problem where
  /-- The arguments do not fit the grammar. -/
  | usage
  /-- Two options exclude each other. -/
  | clash
  | configurationMissing (path : Path)
  | fileMissing (path : Path)
  | fileUnreadable (path : Path) (reason : String)
  | configurationInvalid (text : String)
  | unparsable (path : Path) (text : String)

namespace Problem

/-- The exit code of a problem. -/
def exitCode : Problem → Nat
  | .usage => 2
  | .clash => 64
  | .configurationMissing _ => 66
  | .fileMissing _ => 66
  | .fileUnreadable .. => 74
  | .configurationInvalid _ => 78
  | .unparsable .. => 1

/-- The text of a command line's form. -/
def usageText : String := "Usage: mediaconf [OPTIONS] COMMAND [ARGS]..."

/-- The message of a problem. -/
def message : Problem → String
  | .usage => usageText
  | .clash => clashMessage
  | .configurationMissing path => s!"Configuration file not found: {path}"
  | .fileMissing path => s!"File not found: {path}"
  | .fileUnreadable path reason => s!"Unable to read {path}: {reason}"
  | .configurationInvalid text => text
  | .unparsable path text => s!"Unable to parse {path}: {text}"

end Problem

/-- What a command does: it reports, and ends with a result, a problem, or a failure that no
    command expects. -/
abbrev Action (α : Type) := ExceptT Problem Traced α

/-- Ends with a problem. -/
def fail {α : Type} (p : Problem) : Action α := throw p

/-- What a command may depend on. -/
structure Host where
  readers : Readers
  modules : ModuleTable
  files : FileTree Bytes
  settings : List (String × String)
  /-- Whether the output is a terminal. -/
  terminal : Bool

/-- The environment that the variables describe. -/
def Host.environment (host : Host) : Config.Environment :=
  Config.Environment.ofVariables host.settings

/-- Whether a path leads anywhere. -/
def Host.isThere (host : Host) (p : Path) : Action Bool :=
  ExceptT.lift (Traced.ofExcept (host.files.isThere p))

/-- What holds for all commands of a command line. -/
structure Session where
  host : Host
  verbosity : Int
  coloured : Bool

namespace Session

/-- A text in a style, where styles are wanted. -/
def styled (s : Session) (style : Style) (text : String) : String :=
  if s.coloured then style.apply text else text

/-- A text as it is printed, with a line end. -/
def printed (s : Session) (text : String) : String :=
  (if s.coloured then text else plain text) ++ "\n"

end Session

/-! ### Reading arguments -/

/-- The option that asks for help. -/
def helpForm : OptionForm := ⟨"help", some 'h', false⟩

/-- An option with a value. -/
def valued (name : String) : OptionForm := ⟨name, none, true⟩

/-- The member of a choice that an option selects, if it is given. -/
def chosen? {α : Type} (c : Choice α) (a : Arguments) (name : String) : Action (Option α) :=
  match a.value? name with
  | none => return none
  | some value =>
    match c.read value with
    | .ok member => return some member
    | .error _ => fail .usage

/-- The path that an argument writes, which must not be a directory. -/
def pathOf (host : Host) (argument : String) : Action Path :=
  let path := Path.ofText argument
  if argument.toList.contains '\x00' then
    ExceptT.lift (Traced.fail (.invalidValue .zeroInPath))
  else if !argument.isEmpty && host.files.isDirectory path then fail .usage
  else return path

/-- The path that an option gives, if it is given. -/
def pathOption? (host : Host) (a : Arguments) (name : String) : Action (Option Path) :=
  match a.value? name with
  | none => return none
  | some value => some <$> pathOf host value

/-- Refuses further operands after some. -/
def noMoreThan (count : Nat) (a : Arguments) : Action Unit :=
  if a.operands.length ≤ count then return () else fail .usage

/-- The path of the one operand of a command. -/
def operandPath (host : Host) (a : Arguments) : Action Path :=
  match a.operands with
  | [] => fail .usage
  | one :: _ => do
    let path ← pathOf host one
    noMoreThan 1 a
    return path

/-! ### Loading -/

/-- The text about an invalid configuration; more is said when more is to be printed. -/
def invalidText (s : Session) (f : Failure) : String :=
  if s.verbosity > 0 then Text.joinWith "\n  caused by: " f.causeChain else f.message

/-- The result of a computation, where a failure of the configuration is a problem. -/
def expecting {α : Type} (s : Session) (x : Traced α) : Action α := do
  match ← ExceptT.lift x.attempt with
  | .ok a => return a
  | .error f =>
    match f with
    | .configuration .. => fail (.configurationInvalid (invalidText s f))
    | other => ExceptT.lift (Traced.fail other)

/-- The configuration at a path, else the one of the environment. -/
def loadConfig (s : Session) (path : Option Path) : Action MediaConfig := do
  let host := s.host
  let world := host.environment.surroundings host.readers host.modules host.files
  match path with
  | none => expecting s (host.environment.load world host.files)
  | some p =>
    if !(← host.isThere p) then fail (.configurationMissing p)
    else
      expecting s do
        let services ← host.environment.services host.readers.tables host.files
        Config.loadFile world host.files services p

/-- The bytes of a file that was found. -/
def openFile (s : Session) (p : Path) : Action Bytes :=
  match s.host.files.read p with
  | .ok bytes => return bytes
  | .error _ => fail (.fileUnreadable p s!"[Errno 21] Is a directory: '{p}'")

/-- The metadata that is known of a file from its path. -/
def metadataOf (p : Path) : Metadata := Assoc.ofList [(resourceNameKey, p.parts.getLastD "")]

/-! ### The commands -/

/-- The version of the program. -/
def version : String := "0.4.0"

/-- The commands. -/
inductive Command where
  | version
  | check
  | display
  | services
  | detect
  | parse
  deriving Repr, DecidableEq

namespace Command

/-- The name of a command. -/
def name : Command → String
  | .version => "version"
  | .check => "check"
  | .display => "show"
  | .services => "services"
  | .detect => "detect"
  | .parse => "parse"

/-- The command of a name. -/
def ofName? (name : String) : Option Command :=
  [version, check, display, services, detect, parse].find? fun c => c.name == name

/-- The options of a command. -/
def grammar (c : Command) : Grammar :=
  let forms :=
    match c with
    | .version => [valued "output-format"]
    | .check => []
    | .display => [valued "config", valued "output-format"]
    | .services => [valued "family", valued "output-format"]
    | .detect => [valued "config"]
    | .parse => [valued "config"]
  ⟨helpForm :: forms, true⟩

/-- The form of output that is asked for. -/
def formatOf (a : Arguments) : Action OutputFormat := do
  return (← chosen? outputFormats a "output-format").getD .default

/-- Prints the version. -/
def runVersion (s : Session) (a : Arguments) : Action (List String) := do
  let format ← formatOf a
  noMoreThan 0 a
  let shown := s.styled { Style.normal with bold := true } CommandLine.version
  match format with
  | .json => return [(Json.object [("version", .text CommandLine.version)]).compact]
  | .default =>
    if s.verbosity > 0 then
      let title := s.styled { Style.normal with bold := true, underline := true }
        "MediaConf version:"
      return [title, "    " ++ shown]
    else return [shown]

/-- Checks a configuration. -/
def runCheck (s : Session) (a : Arguments) : Action (List String) := do
  let path ← operandPath s.host a
  let config ← loadConfig s (some path)
  let ok := s.styled { Style.normal with green := true, bold := true } "OK"
  let details :=
    if s.verbosity > 0 then
      [s!"  types      : {config.repository.registry.size}",
       s!"  detector   : {config.detector.cls.qualified}",
       s!"  parser     : {config.parser.cls.qualified}",
       s!"  translator : {config.translator.cls.qualified}"]
    else []
  return if s.verbosity < 0 then [] else s!"{ok}: {config.source}" :: details

/-- A word with a capital letter. -/
def capitalized (word : String) : String :=
  match word.toList with
  | [] => ""
  | c :: cs => String.ofList (c.toUpper :: cs)

/-- Shows a configuration. -/
def runShow (s : Session) (a : Arguments) : Action (List String) := do
  let (format, path) ←
    if a.startsWith "config" "output-format" then do
      let path ← pathOption? s.host a "config"
      pure (← formatOf a, path)
    else do
      let format ← formatOf a
      pure (format, ← pathOption? s.host a "config")
  noMoreThan 0 a
  let config ← loadConfig s path
  let summary ← ExceptT.lift config.describe
  match format with
  | .json => return [summary.toJson.pretty]
  | .default =>
    let title := s.styled { Style.normal with bold := true } s!"Configuration: {summary.source}"
    let sections := summary.sections.flatMap fun (name, d) =>
      "" :: s.styled { Style.normal with underline := true } (capitalized name) :: d.lines 0
    return title ::
      s!"Media types: {summary.typeCount} (from {summary.repositorySource})" :: sections

/-- The target of an entry as a listing shows it. -/
def targetText (e : Entry) : String :=
  match e.target with
  | .path text => text
  | .implementation i => s!"<class '{i.cls.qualified}'>"

/-- An entry of a listing as a JSON object. -/
def entryJson (e : Entry) : Json :=
  .object [("name", .text e.name), ("target", .text (targetText e)), ("auto", .bool e.auto),
    ("origin", .text e.origin)]

/-- The line of an entry. -/
def entryLine (s : Session) (e : Entry) : String :=
  let marker := if e.auto then s.styled { Style.normal with green := true } "*" else " "
  let origin := if s.verbosity > 0 then s!"  ({e.origin})" else ""
  s!"  {marker} {e.name}{origin}"

/-- Lists the services. -/
def runServices (s : Session) (a : Arguments) : Action (List String) := do
  let family ← chosen? families a "family"
  let format ← formatOf a
  noMoreThan 0 a
  let table ← expecting s (s.host.environment.services s.host.readers.tables s.host.files)
  let listed := (family.map fun f => [f]).getD Family.all
  match format with
  | .json =>
    return [(Json.object (listed.map fun f =>
      (f.plural, .list ((table.entries f).map entryJson)))).pretty]
  | .default =>
    let lines := listed.flatMap fun f =>
      s.styled { Style.normal with bold := true } s!"{f.plural}:" ::
        (table.entries f).map (entryLine s)
    let legend :=
      if s.verbosity ≥ 0 then ["", "* = used by the default detector/parser/translator"] else []
    return lines ++ legend

/-- The path of the file operand, which must lead somewhere, and the configuration. -/
def withFile (s : Session) (a : Arguments) : Action (Path × MediaConfig) := do
  let path ← pathOption? s.host a "config"
  let file ← operandPath s.host a
  if !(← s.host.isThere file) then fail (.fileMissing file)
  return (file, ← loadConfig s path)

/-- Detects the type of a file. -/
def runDetect (s : Session) (a : Arguments) : Action (List String) := do
  let (file, config) ← withFile s a
  let bytes ← openFile s file
  let (sighting, _) := (config.detector.detect (metadataOf file)).run (some (.ofBytes bytes))
  return [(← ExceptT.lift sighting).render]

/-- Takes the text out of a file. -/
def runParse (s : Session) (a : Arguments) : Action (List String) := do
  let (file, config) ← withFile s a
  let bytes ← openFile s file
  let parsed := config.autoDetectParser.parse (some (.ofBytes bytes)) (metadataOf file)
  match ← ExceptT.lift parsed.content.attempt with
  | .ok content => return [content.text]
  | .error f =>
    match f with
    | .unparsable .. => fail (.unparsable file f.message)
    | other => ExceptT.lift (Traced.fail other)

/-- What a command prints, line by line. -/
def run (c : Command) (s : Session) (a : Arguments) : Action (List String) :=
  match c with
  | .version => runVersion s a
  | .check => runCheck s a
  | .display => runShow s a
  | .services => runServices s a
  | .detect => runDetect s a
  | .parse => runParse s a

end Command

/-! ### The whole command line -/

/-- What comes of a command line. -/
structure Outcome where
  exitCode : Nat
  output : String
  errors : String
  /-- A failure that no command expects. -/
  uncaught : Option Failure

/-- The options in front of a command. -/
def rootGrammar : Grammar :=
  ⟨[helpForm, ⟨"verbose", some 'v', false⟩, ⟨"quiet", some 'q', false⟩, valued "color",
    ⟨"no-color", none, false⟩], false⟩

/-- The level from which records are shown. -/
def shownFrom (host : Host) : Except Failure Nat :=
  (Logging.levelOfSetting (Config.Environment.valueOf host.settings Logging.levelVariable)).map
    fun level => level.getD Level.critical.number

/-- Whether the options in front of a command and the host ask for styles. -/
def wantsStyles (host : Host) (a : Arguments) : Bool :=
  let mode :=
    if a.has "no-color" then some .never
    else (a.value? "color").bind fun value => (colourModes.read value).toOption
  coloured mode none host.settings host.terminal

/-- The session that the options in front of a command ask for.  A level that cannot be read is
    noticed here. -/
def openSession (host : Host) (a : Arguments) : Action Session := do
  match verbosity (a.count "verbose") (a.count "quiet") with
  | none => fail .clash
  | some verbosity =>
    let _ ← ExceptT.lift (Traced.ofExcept (shownFrom host))
    return ⟨host, verbosity, wantsStyles host a⟩

/-- The lines that are printed without a command. -/
def hintLines : List String :=
  ["Hint: use 'mediaconf check CONFIG' to validate a configuration.", "", Problem.usageText]

/-- What is printed for operands that name no command: they may still ask for help. -/
def performUnknown (operands : List String) : Action String :=
  if (rootGrammar.read operands).any (·.has helpForm.name) then return Problem.usageText ++ "\n"
  else fail .usage

/-- What a command line prints. -/
def perform (host : Host) (argv : List String) : Action String := do
  let some a := rootGrammar.read argv | fail .usage
  if a.has helpForm.name then return Problem.usageText ++ "\n"
  let _ ← chosen? colourModes a "color"
  match a.operands with
  | [] =>
    let s ← openSession host a
    return String.join (hintLines.map s.printed)
  | name :: rest =>
    let some command := Command.ofName? name | performUnknown a.operands
    let s ← openSession host a
    let some a := command.grammar.read rest | fail .usage
    if a.has helpForm.name then return Problem.usageText ++ "\n"
    return String.join ((← command.run s a).map s.printed)

/-- What comes of an action whose records are shown from a level on.  The message of a problem
    keeps its control sequences only where styles are wanted. -/
def outcomeOf (level : Nat) (keepsStyles : Bool) (action : Traced (Except Problem String)) :
    Outcome :=
  let log := String.join ((Record.atLeast level action.records).map Logging.line)
  match action.result with
  | .ok (.ok text) => ⟨0, log ++ text, "", none⟩
  | .ok (.error p) =>
    let message := if keepsStyles then p.message else plain p.message
    ⟨p.exitCode, log, s!"Error: {message}\n", none⟩
  | .error f => ⟨1, log, "", some f⟩

/-- What comes of a command line. -/
def run (host : Host) (argv : List String) : Outcome :=
  outcomeOf ((shownFrom host).toOption.getD Level.critical.number)
    ((rootGrammar.read argv).any (wantsStyles host)) (perform host argv).run

end MediaGraph.CommandLine
