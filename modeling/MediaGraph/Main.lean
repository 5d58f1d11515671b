import MediaGraph.CommandLine.Reach
import MediaGraph.Service.Names

/-!
# The program

Reads the files that a command line may look at, runs it, and prints what comes of it.
-/

namespace MediaGraph

/-- What stands at a path, if anything does. -/
def readEntry? (path : Path) : IO (Option (FileEntry Bytes)) := do
  let place := (← IO.currentDir) / path.text
  if ← place.isDir then return some .directory
  else if ← place.pathExists then return some (.file (← IO.FS.readBinFile place).toList)
  else return none

/-- A tree with what stands at some paths. -/
def readTree (workingDirectory : List String) (paths : List Path) : IO (FileTree Bytes) := do
  let entries ← paths.filterMapM fun path => do
    let entry ← readEntry? path
    return entry.map fun e => (FileTree.placeOf workingDirectory path, e)
  return ⟨workingDirectory, ⟨entries⟩⟩

/-- The variables of a command line that are set. -/
def readVariables : IO (List (String × String)) :=
  CommandLine.variableNames.filterMapM fun name => do
    return (← IO.getEnv name).map fun value => (name, value)

/-- All that a command line may depend on. -/
def readHost (argv : List String) : IO CommandLine.Host := do
  let readers := Readers.own
  let modules := Packaged.modules readers.codecs Packaged.otherNames
  let settings ← readVariables
  let here := (Path.ofText (← IO.currentDir).toString).parts
  let named := CommandLine.namedPaths argv settings
  let documents ← readTree here named
  let files ← readTree here (named ++ CommandLine.resourcePaths readers.codecs documents)
  return ⟨readers, modules, files, settings, ← (← IO.getStdout).isTty⟩

end MediaGraph

/-- Runs the command line. -/
def main (argv : List String) : IO UInt32 := do
  let host ← MediaGraph.readHost argv
  let outcome := MediaGraph.CommandLine.run host argv
  IO.print outcome.output
  IO.eprint outcome.errors
  for f in outcome.uncaught do
    IO.eprintln f.entry
  return outcome.exitCode.toUInt32
