import MediaGraph.Assoc
import MediaGraph.Failure.Basic
import MediaGraph.Files.Path
import MediaGraph.Stream.Basic
import MediaGraph.Xml.Character

namespace MediaGraph

/-!
# A tree of files

A tree holds files and directories under the lists of names that lead to them from the top, and
says which directory is the working directory.

* `FileTree.locate?` — where a path leads; every step goes through a directory.
* `FileTree.isFile`, `FileTree.isThere` — whether a path leads to a file, or anywhere.  A name that
  is too long cannot even be looked up.
* `FileTree.read` — the content of the file at a path.
* `FileTree.readText` — its text.
-/

/-- What stands at a place in a tree of files. -/
inductive FileEntry (α : Type) where
  | directory
  | file (content : α)
  deriving Repr, DecidableEq

/-- Files and directories by their places. -/
structure FileTree (α : Type) where
  workingDirectory : List String
  entries : Assoc (List String) (FileEntry α)

namespace FileTree

variable {α : Type}

/-- The tree without files. -/
def empty : FileTree α := ⟨[], .empty⟩

/-- A tree of files below a working directory. -/
def ofFiles (workingDirectory : Path) (files : List (Path × FileEntry α)) : FileTree α :=
  ⟨workingDirectory.parts,
    ⟨files.map fun (path, entry) => ((path.below workingDirectory).parts, entry)⟩⟩

/-- The place that a path names by its letters alone, below a working directory: two dots take back
    the name in front of them. -/
def placeOf (workingDirectory : List String) (p : Path) : List String :=
  p.parts.foldl (fun place name => if name = ".." then place.dropLast else place ++ [name])
    (if p.isAbsolute then [] else workingDirectory)

/-- What stands at a place: what leads to another place is a directory. -/
def entry? (t : FileTree α) (place : List String) : Option (FileEntry α) :=
  match t.entries.get? place with
  | some e => some e
  | none =>
    if place.isPrefixOf t.workingDirectory || t.entries.keys.any (place.isPrefixOf ·) then
      some .directory
    else none

/-- Whether a directory stands at a place. -/
def isDirectoryAt (t : FileTree α) (place : List String) : Bool :=
  match t.entry? place with
  | some .directory => true
  | _ => false

/-- The place that names lead to, from a place on; two dots lead back. -/
def walk (t : FileTree α) (place : List String) : List String → Option (List String)
  | [] => if (t.entry? place).isSome then some place else none
  | name :: rest =>
    if t.isDirectoryAt place then
      walk t (if name = ".." then place.dropLast else place ++ [name]) rest
    else none

/-- The place that a path leads to. -/
def locate? (t : FileTree α) (p : Path) : Option (List String) :=
  t.walk (if p.isAbsolute then [] else t.workingDirectory) p.parts

/-- What stands where a path leads. -/
def at? (t : FileTree α) (p : Path) : Option (FileEntry α) := (t.locate? p).bind t.entry?

/-! ### Looking up -/

/-- The number of bytes that a name may have. -/
def nameLimit : Nat := 255

/-- The number of bytes that a path has less than. -/
def pathLimit : Nat := 4096

/-- Whether names lead, from a place on, to a directory in which the next name is too long. -/
def meetsLongName (t : FileTree α) (place : List String) : List String → Bool
  | [] => false
  | name :: rest =>
    t.isDirectoryAt place &&
      (nameLimit < name.utf8ByteSize ||
        meetsLongName t (if name = ".." then place.dropLast else place ++ [name]) rest)

/-- Whether a path is too long to be looked up, or meets a name that is. -/
def isTooLong (t : FileTree α) (p : Path) : Bool :=
  pathLimit ≤ p.text.utf8ByteSize ||
    t.meetsLongName (if p.isAbsolute then [] else t.workingDirectory) p.parts

/-- What stands where a path leads, if it can be looked up.  A name never holds the zero character,
    so a path that does leads nowhere. -/
def lookUp (t : FileTree α) (p : Path) : Except Failure (Option (FileEntry α)) :=
  if p.text.toList.contains '\x00' then .ok none
  else if t.isTooLong p then .error .inaccessible
  else .ok (t.at? p)

/-- Whether a path leads anywhere. -/
def isThere (t : FileTree α) (p : Path) : Except Failure Bool := (t.lookUp p).map (·.isSome)

/-- Whether a path leads to a file. -/
def isFile (t : FileTree α) (p : Path) : Except Failure Bool :=
  (t.lookUp p).map fun
    | some (.file _) => true
    | _ => false

/-- The first path that leads to a file. -/
def firstFile? (t : FileTree α) : List Path → Except Failure (Option Path)
  | [] => .ok none
  | p :: ps => do if ← t.isFile p then return some p else t.firstFile? ps

/-- Whether a path leads to a directory. -/
def isDirectory (t : FileTree α) (p : Path) : Bool :=
  match t.at? p with
  | some .directory => true
  | _ => false

/-- The content of the file at a path. -/
def read (t : FileTree α) (p : Path) : Except Failure α :=
  if p.text.toList.contains '\x00' then .error (.invalidValue .zeroInPath)
  else
    match t.at? p with
    | some (.file content) => .ok content
    | _ => .error .inaccessible

/-- The directory that holds the file at a path. -/
def directoryOf (t : FileTree α) (p : Path) : Path :=
  ⟨.top, ((t.locate? p).getD []).dropLast⟩

/-- The text of some bytes, with every line end written as a line feed. -/
def textOf (bytes : Bytes) : Except Failure String :=
  match Text.Utf8.decodeStrict? bytes with
  | some s => .ok (String.ofList (Xml.plainLineEnds s.toList))
  | none => .error .undecodable

/-- The text of the file at a path. -/
def readText (t : FileTree Bytes) (p : Path) : Except Failure String := do
  textOf (← t.read p)

end FileTree

end MediaGraph
