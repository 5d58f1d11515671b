import MediaGraph.Config.Assembly

namespace MediaGraph.Config

/-!
# The environment

An environment says where the default configuration comes from: a location, the directories in
which it is searched, and further service manifests.

* `Environment.ofVariables` — the environment that variables describe.
* `Environment.load` — the configuration of an environment.
* `Environment.surroundings` — what building an instance may depend on in an environment.
-/

/-- Where the default configuration comes from. -/
structure Environment where
  location : Option String
  searchPaths : List Path
  manifests : List Path
  /-- What installed extensions announce, unless it is not to be read. -/
  announced : Option (List ServiceTable.EntryPoint)

namespace Environment

/-- The variable that holds the location. -/
def locationVariable : String := "MEDIACONF_CONFIG"

/-- The variable that holds the search paths. -/
def searchVariable : String := "MEDIACONF_PATH"

/-- The variable that holds the manifests. -/
def manifestVariable : String := "MEDIACONF_SERVICES"

/-- The value of a variable; an unset one is empty. -/
def valueOf (settings : List (String × String)) (name : String) : String :=
  (settings.lookup name).getD ""

/-- The environment that variables describe, with nothing announced by extensions. -/
def ofVariables (settings : List (String × String)) : Environment where
  location :=
    let value := Text.trim (valueOf settings locationVariable)
    if value.isEmpty then none else some value
  searchPaths := Path.listOfText (valueOf settings searchVariable)
  manifests := Path.listOfText (valueOf settings manifestVariable)
  announced := some []

/-- The service table of an environment. -/
def services (e : Environment) (reader : TableReader) (files : FileTree Bytes) :
    Traced ServiceTable :=
  loadManifests reader files e.manifests e.announced

/-- The schemes of URLs that are fetched. -/
def urlSchemes : List String := ["http", "https", "file", "ftp"]

/-- Whether a location is a URL that is fetched. -/
def isUrl (location : String) : Except Failure Bool :=
  ((Url.split location).mapError Failure.invalidValue).map fun (scheme, _) =>
    urlSchemes.contains scheme

/-- The root of the packaged configuration: the defaults, spelled out. -/
def packagedRoot : Xml.Element where
  tag := "properties"
  attributes := []
  content :=
    [.element "mimeTypeRepository" [("resource", Repository.Packaged.resourceName)] [],
     .element "detectors" [] [.element "detector" [("class", Detector.defaultClass.name)] []],
     .element "parsers" [] [.element "parser" [("class", Parser.defaultClass.name)] []],
     .element "translator" [("class", Translator.defaultClass.name)] []]

/-- The configuration in a packaged file. -/
def loadPackaged (w : World) (files : FileTree Bytes) (services : ServiceTable)
    (file : Packaged.File) (location : String) : Traced MediaConfig :=
  match file with
  | .configuration => Config.load w files services packagedRoot none location
  | _ =>
    Traced.fail (.configuration (.documentMalformed location) (some .malformedMarkup))

/-- The configuration at a location: an existing file, else a URL, else a file below one of the
    search paths, else a packaged file. -/
def loadAt (e : Environment) (w : World) (files : FileTree Bytes) (services : ServiceTable)
    (location : String) : Traced MediaConfig := do
  let path := Path.ofText location
  if ← Traced.ofExcept (files.isFile path) then loadFile w files services path
  else if ← Traced.ofExcept (isUrl location) then loadUrl w files services location
  else
    match ← Traced.ofExcept (files.firstFile? (e.searchPaths.map path.below)) with
    | some found =>
      Traced.report .debug s!"Found {location} on the search path: {found}"
      loadFile w files services found
    | none =>
      match ← Traced.ofExcept (Packaged.file? Packaged.configurationDirectory path) with
      | some file =>
        Traced.report .debug s!"Using packaged configuration {location}"
        loadPackaged w files services file location
      | none => Traced.fail (.configuration (.locationMissing location) none)

/-- The configuration of an environment: the packaged one when no location is given. -/
def load (e : Environment) (w : World) (files : FileTree Bytes) : Traced MediaConfig := do
  let services ← e.services w.readers.tables files
  match e.location with
  | none =>
    Traced.report .debug noLocationReport
    MediaConfig.builtin w services
  | some location => e.loadAt w files services location

/-- The surroundings with some readers and modules, in which a configuration that is not named is
    that of an environment.  Such a configuration cannot be a part of itself. -/
def surroundings (e : Environment) (readers : Readers) (modules : ModuleTable)
    (files : FileTree Bytes) : World :=
  ⟨readers, modules,
    MediaConfig.autoParts <$> e.load ⟨readers, modules, Traced.fail .wrongType⟩ files⟩

end Environment

end MediaGraph.Config
