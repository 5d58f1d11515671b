import MediaGraph.Parser.Packaged
import MediaGraph.Readers
import MediaGraph.Service.Table

namespace MediaGraph

/-!
# Building instances

* `Implementation.newDetector`, `newParser`, `newTranslator` — an instance built without arguments.
* `ServiceTable.discover` — one instance for every entry that takes part by itself; what cannot
  be resolved or built is reported and left out.
* `defaultDetector`, `defaultParser`, `defaultTranslator` — the composites of what is discovered.
-/

/-- What an auto-detecting parser is made of. -/
structure AutoParts where
  registry : Registry
  detector : Detector
  parser : Parser

/-- What building an instance may depend on: what documents are read with, the modules, and the
    parts of an auto-detecting parser to which no configuration is given. -/
structure World where
  readers : Readers
  modules : ModuleTable
  automatic : Traced AutoParts

/-- An auto-detecting parser. -/
def autoDetectParser (cls : ClassRef) (parts : AutoParts) : Parser :=
  .composite cls (some parts.detector) parts.registry [parts.parser] [] Parser.nothing

namespace Implementation

/-- A detector built without arguments. -/
def newDetector (i : Implementation) : Traced Detector :=
  match i.design with
  | .detector (.leaf sense) => return .leaf i.cls sense
  | .detector .repository => return .repository i.cls .empty
  | .detector (.failing f) => Traced.fail f
  | _ => Traced.fail .wrongType

/-- A parser built without arguments.  What it would discover are the packaged parsers. -/
def newParser (w : World) (i : Implementation) : Traced Parser :=
  match i.design with
  | .parser (.leaf job) => return .leaf i.cls job
  | .parser (.composite ..) => return .composite i.cls none .empty [] [] Parser.nothing
  | .parser .discovering => do
    let packaged := Parser.packaged w.readers.codecs
    Traced.report .debug (Parser.assembledReport packaged)
    return .composite i.cls none Repository.Packaged.repository.registry packaged []
      Parser.nothing
  | .parser .autoDetecting => return autoDetectParser i.cls (← w.automatic)
  | .parser (.bundle own (cls, job)) =>
    return .bundle i.cls .empty (own.map fun (cls, job) => .leaf cls job) Parser.nothing
      (.leaf cls job)
  | .parser (.failing f) => Traced.fail f
  | _ => Traced.fail .wrongType

/-- A translator built without arguments.  There are no packaged translators to discover. -/
def newTranslator (i : Implementation) : Traced Translator :=
  match i.design with
  | .translator (.leaf available render) => return .leaf i.cls available render
  | .translator .discovering => do
    Traced.report .debug "DefaultTranslator found 0 candidate(s)"
    return .chooser i.cls []
  | .translator (.failing f) => Traced.fail f
  | _ => Traced.fail .wrongType

end Implementation

/-- Takes in the entries one after another. -/
def discoverFrom {ι : Type} (modules : ModuleTable) (family : Family) (excluded : List ClassRef)
    (make : Implementation → Traced ι) : List Entry → Traced (List ι)
  | [] => return []
  | e :: es =>
    if !e.auto then discoverFrom modules family excluded make es
    else
      match e.resolve modules family with
      | .error (.unavailableService ..) => do
        Traced.report .warning s!"Skipping unavailable {family.label} {e.name}"
        discoverFrom modules family excluded make es
      | .error f => Traced.fail f
      | .ok i =>
        if i.cls.derivesFromAny excluded then do
          Traced.report .debug s!"Excluding {family.label} {e.name} from default discovery"
          discoverFrom modules family excluded make es
        else do
          match ← (make i).attempt with
          | .ok instance_ => return instance_ :: (← discoverFrom modules family excluded make es)
          | .error _ =>
            Traced.report .error s!"Failed to instantiate {family.label} {e.name}"
            discoverFrom modules family excluded make es

/-- One instance for every entry of a family that takes part by itself and is not excluded. -/
def ServiceTable.discover {ι : Type} (t : ServiceTable) (modules : ModuleTable) (family : Family)
    (excluded : List ClassRef) (make : Implementation → Traced ι) : Traced (List ι) :=
  discoverFrom modules family excluded make (t.entries family)

/-- The names of some classes, as a list in a report. -/
def listedNames (classes : List ClassRef) : String :=
  Text.joinWith ", " (classes.map (·.name))

/-- The composite of a repository and the detectors that a table discovers. -/
def defaultDetector (w : World) (cls : ClassRef) (repository : Repository) (t : ServiceTable)
    (excluded : List ClassRef) : Traced Detector := do
  let found ← t.discover w.modules .detectors excluded Implementation.newDetector
  let detectors := Detector.repository Detector.repositoryClass repository :: found
  Traced.report .debug (s!"DefaultDetector assembled {detectors.length} detector(s): " ++
    listedNames (detectors.map (·.cls)))
  Detector.compose cls repository.registry detectors excluded

/-- A composite of the parsers that are not excluded. -/
def composeParser (cls : ClassRef) (registry : Registry) (parsers : List Parser)
    (excluded : List ClassRef) (fallback : Parser) : Traced Parser := do
  let kept := parsers.filter fun p => !p.isExcluded excluded
  if kept.length ≠ parsers.length then
    Traced.report .debug
      s!"{cls.name} dropped {parsers.length - kept.length} excluded parser(s)"
  return .composite cls none registry kept excluded fallback

/-- The composite keeps the parsers that are not excluded. -/
theorem result_composeParser (cls : ClassRef) (registry : Registry) (parsers : List Parser)
    (excluded : List ClassRef) (fallback : Parser) :
    (composeParser cls registry parsers excluded fallback).result
      = .ok (.composite cls none registry (parsers.filter fun p => !p.isExcluded excluded) excluded
          fallback) := by
  unfold composeParser
  dsimp only
  split <;> rfl

/-- The composite of the parsers that a table discovers. -/
def defaultParser (w : World) (cls : ClassRef) (registry : Registry) (t : ServiceTable)
    (excluded : List ClassRef) : Traced Parser := do
  let found ← t.discover w.modules .parsers excluded (Implementation.newParser w)
  Traced.report .debug (Parser.assembledReport found)
  composeParser cls registry found excluded Parser.nothing

/-- The chooser among the translators that a table discovers. -/
def defaultTranslator (w : World) (cls : ClassRef) (t : ServiceTable) : Traced Translator := do
  let found ← t.discover w.modules .translators [] Implementation.newTranslator
  Traced.report .debug s!"DefaultTranslator found {found.length} candidate(s)"
  return .chooser cls found

end MediaGraph
