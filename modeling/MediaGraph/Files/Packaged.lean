import MediaGraph.Files.Tree
import MediaGraph.Service.Contents

namespace MediaGraph.Packaged

/-!
# Packaged files

The files that come with the library can be named like other files, by a path that starts in
their own directory.
-/

/-- What a packaged file holds. -/
inductive File where
  | repository
  | manifest
  | configuration
  /-- The text of a module: neither markup nor tables. -/
  | moduleText
  deriving Repr, DecidableEq

/-- The directory of the packaged repository. -/
def repositoryDirectory : List String := ["mediaconf", "mime"]

/-- The directory of the packaged configuration. -/
def configurationDirectory : List String := ["mediaconf", "config"]

/-- The directory of the packaged service manifest. -/
def manifestDirectory : List String := ["mediaconf", "services"]

/-- The place of the text of a module: that of a package stands inside the package. -/
def placeOfModule (path : String) : List String :=
  let names := Text.splitAt '.' path
  if (packages.lookup path).isSome then names ++ ["__init__.py"]
  else names.dropLast ++ [names.getLastD "" ++ ".py"]

/-- The packaged files. -/
def files : Assoc (List String) (FileEntry File) :=
  ⟨[(repositoryDirectory ++ ["mediaconf-types.toml"], .file .repository),
    (configurationDirectory ++ ["mediaconf-config.xml"], .file .configuration),
    (manifestDirectory ++ ["mediaconf-services.toml"], .file .manifest)] ++
    modulePaths.map fun path => (placeOfModule path, .file .moduleText)⟩

/-- The packaged file that a path names, from a directory on. -/
def file? (directory : List String) (p : Path) : Except Failure (Option File) :=
  if p.isAbsolute then .ok none
  else
    ((FileTree.mk directory files).lookUp p).map fun
      | some (.file file) => some file
      | _ => none

end MediaGraph.Packaged
