import MediaGraph.Service.Packaged

namespace MediaGraph.Packaged

/-!
# The packaged modules

Where the packaged implementations are found.  What else can be named there is given as
`OtherNames`: a target can lead to it, but nothing can be built of it.

* `OtherNames` — names that lead to no class.
* `moduleTable` — some modules, and what is found in classes.
* `modules` — the packaged modules; `modulePaths` — their paths.
-/

/-! ### Other names -/

/-- What can be named besides classes of the families. -/
structure OtherNames where
  /-- The names in a module, by its path. -/
  inModules : List (String × List String)
  /-- The names in a class and in those that derive from it. -/
  inClasses : List (ClassRef × List String)
  /-- The names in anything else, by its own name. -/
  inValues : List (String × List String)

namespace OtherNames

/-- Nothing besides classes of the families. -/
def empty : OtherNames := ⟨[], [], []⟩

/-- A value in which nothing is found. -/
def plain : Member := .value fun _ => none

/-- What a name stands for. -/
def valueOf (names : OtherNames) (name : String) : Member :=
  .value fun inner =>
    if ((names.inValues.lookup name).getD []).contains inner then some plain else none

/-- The members of a module besides classes. -/
def membersOf (names : OtherNames) (path : String) : List (String × Member) :=
  ((names.inModules.lookup path).getD []).map fun name => (name, names.valueOf name)

end OtherNames

/-! ### Tables of modules -/

/-- The classes that can be found in some modules. -/
def implementations (modules : List Module) : List Implementation :=
  modules.flatMap fun m => m.members.filterMap fun
    | (_, .implementation i) => some i
    | _ => none

/-- The class from which a class derives, where it is found in some modules. -/
def parentOf (modules : List Module) (i : Implementation) : Member :=
  let parent := i.cls.ancestors.head?.bind fun name =>
    (implementations modules).find? fun a => a.cls.qualified == name
  (parent.map .implementation).getD OtherNames.plain

/-- Some modules, with what is found in classes: the class from which one derives, and names. -/
def moduleTable (names : OtherNames) (modules : List Module) : ModuleTable where
  listed := modules
  inClass i name :=
    if name == "__base__" then some (parentOf modules i)
    else
      let own := names.inClasses.filter fun e => i.cls.derivesFrom e.1
      if (own.flatMap (·.2)).contains name then some (names.valueOf name) else none

/-- Classes as members, under their own names. -/
def classMembers (is : List Implementation) : List (String × Member) :=
  is.map fun i => (i.cls.name, .implementation i)

/-! ### The packaged modules -/

/-- The packages, with the modules in them. -/
def packages : List (String × List String) :=
  [("mediaconf",
     ["cli", "config", "constants", "detect", "errors", "mime", "parse", "services", "translate",
      "utils"]),
   ("mediaconf.cli",
     ["cmd_common", "commands", "console", "errors", "exit_codes", "main", "options"]),
   ("mediaconf.cli.commands", ["check", "detect", "services", "show", "version"]),
   ("mediaconf.config",
     ["assembler", "bindings", "describe", "document", "environment", "loader", "logging",
      "model", "translator"]),
   ("mediaconf.detect", ["base", "builtins", "composite", "default"]),
   ("mediaconf.mime", ["registry", "repository", "types"]),
   ("mediaconf.parse", ["auto", "base", "builtins", "composite", "decorator", "default"]),
   ("mediaconf.services", ["loader", "shapes"]),
   ("mediaconf.translate", ["base"]),
   ("mediaconf.utils", ["streams"])]

/-- The paths of the modules.  The one that runs the program is named in no package. -/
def modulePaths : List String :=
  "mediaconf" :: "mediaconf.__main__" ::
    packages.flatMap fun (path, parts) => parts.map fun part => s!"{path}.{part}"

/-- The classes that are found in modules. -/
def holders (codecs : Codecs) : List (String × List Implementation) :=
  [("mediaconf.config.assembler",
     [defaultDetectorClass, mimeRepository, defaultParserClass, defaultTranslatorClass]),
   ("mediaconf.config.bindings",
     [compositeDetector, defaultDetectorClass, autoDetectParserClass, compositeParser,
      parserDecorator, defaultParserClass]),
   ("mediaconf.config.describe",
     [compositeDetector, parser, compositeParser, parserDecorator, defaultTranslatorClass]),
   ("mediaconf.config.model", [autoDetectParserClass, compositeParser]),
   ("mediaconf.config.translator", [defaultTranslatorClass]),
   ("mediaconf.detect.base", [detector]),
   ("mediaconf.detect.builtins", [detector, zeroSizeDetector, typeDetector, textDetector]),
   ("mediaconf.detect.composite", [detector, compositeDetector]),
   ("mediaconf.detect.default", [compositeDetector, defaultDetectorClass]),
   ("mediaconf.mime.repository", [detector, mimeRepository]),
   ("mediaconf.parse.auto", [compositeParser, autoDetectParserClass]),
   ("mediaconf.parse.base", [parser]),
   ("mediaconf.parse.builtins", [parser, emptyParser, textParser codecs, xmlParser codecs]),
   ("mediaconf.parse.composite", [parser, emptyParser, compositeParser]),
   ("mediaconf.parse.decorator",
     [parser, parserDecorator, restrictingDecorator, droppingDecorator]),
   ("mediaconf.parse.default", [compositeParser, defaultParserClass]),
   ("mediaconf.translate.base", [translator, emptyTranslator, defaultTranslatorClass])]

/-- The module of a path: its classes, the modules in it, and the other names. -/
def moduleAt (codecs : Codecs) (names : OtherNames) (path : String) : Module where
  path := path
  isPackage := (packages.lookup path).isSome
  fault := none
  members :=
    classMembers (((holders codecs).lookup path).getD []) ++
      (((packages.lookup path).getD []).map fun part => (part, .submodule s!"{path}.{part}")) ++
      names.membersOf path

/-- The packaged modules one by one. -/
def moduleList (codecs : Codecs) (names : OtherNames) : List Module :=
  modulePaths.map (moduleAt codecs names)

/-- The packaged modules, with what is found in classes. -/
def modules (codecs : Codecs) (names : OtherNames) : ModuleTable :=
  moduleTable names (moduleList codecs names)

end MediaGraph.Packaged
