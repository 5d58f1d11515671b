import MediaGraph.CommandLine.Commands

namespace MediaGraph.CommandLine

/-!
# What a command line may look at

A command line is run on the files that it may name, directly or through a variable or a document,
and on the values of a few variables.

* `namedPaths` — the paths that arguments and variables may name.
* `resourcePaths` — the paths of repositories that documents name.
-/

/-- The variables that a command line may depend on. -/
def variableNames : List String :=
  [Config.Environment.locationVariable, Config.Environment.searchVariable,
   Config.Environment.manifestVariable, Logging.levelVariable, "FORCE_COLOR", "NO_COLOR"]

/-- The paths that an argument may name: the whole of it, and what follows an equals sign. -/
def argumentPaths (argument : String) : List Path :=
  let value := (Text.cutFirst? '=' argument.toList).map fun (_, value) => String.ofList value
  .ofText argument :: (value.map Path.ofText).toList

/-- The paths to which a location may lead. -/
def locationPaths (e : Config.Environment) (location : String) : List Path :=
  let path := Path.ofText location
  path :: (e.searchPaths.map path.below ++ (Url.reach location).toOption.toList)

/-- The paths that arguments and variables may name. -/
def namedPaths (argv : List String) (settings : List (String × String)) : List Path :=
  let e := Config.Environment.ofVariables settings
  argv.flatMap argumentPaths ++ e.manifests ++
    (e.location.map (locationPaths e)).getD []

/-- The paths that a document below a directory may name as its repository. -/
def documentPaths (directory : Path) (root : Xml.Element) : List Path :=
  (root.children "mimeTypeRepository").flatMap fun e =>
    let path := Path.ofText (Text.trim ((e.attribute? "resource").getD ""))
    [path, path.below directory]

/-- The paths that the files of a tree name as their repositories; a file that holds no document
    names none. -/
def resourcePaths (codecs : Codecs) (files : FileTree Bytes) : List Path :=
  files.entries.entries.flatMap fun (place, entry) =>
    match entry with
    | .directory => []
    | .file bytes =>
      match Xml.ofBytes codecs bytes with
      | .ok root => documentPaths ⟨.top, place.dropLast⟩ root
      | .error _ => []

end MediaGraph.CommandLine
