import MediaGraph.Config.Document
import MediaGraph.Config.Model
import MediaGraph.Config.Translator
import MediaGraph.Files.Packaged
import MediaGraph.Service.Manifest

namespace MediaGraph.Config

/-!
# Assembling a configuration

A document is turned into a configuration in one order: the repository, the detector, the parser,
the translator.

* `load` — the configuration of a document; `loadText`, `loadBytes`, `loadFile`, `loadUrl` — the
  configuration of a document that is read first.
* `loadManifests` — the packaged service table with the entries of further manifests.
-/

/-! ### The repository -/

/-- A failure to read the file of a resource, as a problem of the configuration. -/
def ofRepositoryFile (resource : String) (f : Failure) : Failure :=
  match f with
  | .inaccessible => .configuration (.repositoryUnreadable resource) (some f)
  | .undecodable => .configuration (.repositoryUnreadable resource) (some f)
  | other => other

/-- The repository in the file at a path. -/
def loadRepositoryFile (reader : TableReader) (files : FileTree Bytes) (resource : String)
    (path : Path) (source : String) : Traced Repository :=
  let read : Traced Repository := do
    Repository.readText reader (← Traced.ofExcept (files.readText path)) source
  read.mapFailure (ofRepositoryFile resource)

/-- The repository in a packaged file. -/
def loadPackagedRepository (file : Packaged.File) (resource : String) : Traced Repository :=
  match file with
  | .repository => Repository.Packaged.load resource
  | .manifest => Repository.ofTable [] resource
  | _ => Traced.fail (.configuration (.repositoryMalformed resource) (some .malformedTables))

/-- Where the file of a resource is looked for: at an absolute path; else below the base directory
    and then below the working directory. -/
def resourcePaths (path : Path) (baseDirectory : Option Path) : List Path :=
  if path.isAbsolute then [path] else (baseDirectory.map path.below).toList ++ [path]

/-- The repository that a resource names: a packaged one, else the one in the first file that is
    there.  The source is named as the resource when that is an absolute path. -/
def loadResource (reader : TableReader) (files : FileTree Bytes) (resource : String)
    (baseDirectory : Option Path) : Traced Repository := do
  let path := Path.ofText resource
  let look {α : Type} (x : Except Failure α) : Traced α :=
    Traced.ofExcept (x.mapError (ofRepositoryFile resource))
  match ← look (Packaged.file? Packaged.repositoryDirectory path) with
  | some file => loadPackagedRepository file resource
  | none =>
    match ← look (files.firstFile? (resourcePaths path baseDirectory)) with
    | some found =>
      loadRepositoryFile reader files resource found
        (if path.isAbsolute then resource else found.text)
    | none => Traced.fail (.configuration (.repositoryMissing resource) none)

/-- The repository that a document names, else the packaged one. -/
def loadRepository (reader : TableReader) (files : FileTree Bytes) (root : Xml.Element)
    (baseDirectory : Option Path) : Traced Repository :=
  match root.firstChild? "mimeTypeRepository" with
  | none => return Repository.Packaged.repository
  | some e =>
    let resource := Text.trim ((e.attribute? "resource").getD "")
    if resource.isEmpty then Traced.fail (.configuration .resourceMissing none)
    else loadResource reader files resource baseDirectory

/-! ### The configuration -/

/-- The configuration of a document. -/
def load (w : World) (files : FileTree Bytes) (services : ServiceTable) (root : Xml.Element)
    (baseDirectory : Option Path) (source : String) : Traced MediaConfig := do
  Traced.report .debug s!"Assembling configuration from {source}"
  let repository ← loadRepository w.readers.tables files root baseDirectory
  let detector ← loadOverall (Capability.detectors w repository services) w services root
  let parser ← loadOverall (Capability.parsers w repository services) w services root
  let translator ← loadTranslator w services root
  Traced.report .trace s!"Detector: {detector.shown}"
  Traced.report .trace s!"Parser: {parser.shown}"
  Traced.report .trace s!"Translator: {translator.shown}"
  return ⟨repository, detector, parser, translator, source⟩

/-- The configuration of a document given as text. -/
def loadText (w : World) (files : FileTree Bytes) (services : ServiceTable) (text : String)
    (baseDirectory : Option Path) (source : String) : Traced MediaConfig := do
  let root ← Traced.ofExcept (Document.ofText text source)
  load w files services root baseDirectory source

/-- The configuration of a document given as bytes. -/
def loadBytes (w : World) (files : FileTree Bytes) (services : ServiceTable) (bytes : Bytes)
    (baseDirectory : Option Path) (source : String) : Traced MediaConfig := do
  let root ← Traced.ofExcept (Document.ofBytes w.readers.codecs bytes source)
  load w files services root baseDirectory source

/-- The configuration of the document in a file; its resources are looked up next to it first. -/
def loadFile (w : World) (files : FileTree Bytes) (services : ServiceTable) (path : Path) :
    Traced MediaConfig := do
  let root ← Document.ofFile w.readers.codecs files path
  load w files services root (some (files.directoryOf path)) path.text

/-- The configuration of the document at a URL. -/
def loadUrl (w : World) (files : FileTree Bytes) (services : ServiceTable) (url : String) :
    Traced MediaConfig := do
  let root ← Document.ofUrl w.readers.codecs files url
  load w files services root none url

/-! ### Service tables -/

/-- The text of a manifest file. -/
def readManifestText (files : FileTree Bytes) (path : Path) : Except Failure String :=
  (files.readText path).mapError fun
    | .inaccessible => .configuration (.manifestUnreadable path.text) (some .inaccessible)
    | other => other

/-- A table with the entries of some manifest files. -/
def addManifests (reader : TableReader) (files : FileTree Bytes) (t : ServiceTable) :
    List Path → Traced ServiceTable
  | [] => return t
  | path :: paths => do
    let text ← Traced.ofExcept (readManifestText files path)
    let progress := t.readManifest reader text path.text
    progress.outcome
    addManifests reader files progress.table paths

/-- The packaged service table with the entries of further manifests, and with what installed
    extensions announce, unless that is not wanted. -/
def loadManifests (reader : TableReader) (files : FileTree Bytes) (paths : List Path)
    (announced : Option (List ServiceTable.EntryPoint)) : Traced ServiceTable := do
  let t ← addManifests reader files Packaged.services paths
  match announced with
  | none => return t
  | some points => t.loadEntryPoints (some points)

end MediaGraph.Config
