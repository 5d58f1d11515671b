import MediaGraph.Files.Tree
import MediaGraph.Text.CaseMapping
import MediaGraph.Traced
import MediaGraph.Url.Fetching
import MediaGraph.Xml.Reader

namespace MediaGraph.Config

/-!
# Configuration documents

A configuration document is a markup document, read from a text, from bytes, from a file or from a
URL.  Whatever the source, ill-formed markup is a problem of the configuration.

* `Document.ofText`, `Document.ofBytes`, `Document.ofFile`, `Document.ofUrl` — the root element.
-/

namespace Document

/-- A failure to read markup, as a problem of the document from `source`. -/
def ofMarkup (source : String) (f : Failure) : Failure :=
  match f with
  | .malformedMarkup => .configuration (.documentMalformed source) (some .malformedMarkup)
  | other => other

/-- The root of a document given as text. -/
def ofText (text source : String) : Except Failure Xml.Element :=
  (Xml.ofText text).mapError (ofMarkup source)

/-- The root of a document given as bytes. -/
def ofBytes (codecs : Codecs) (bytes : Bytes) (source : String) : Except Failure Xml.Element :=
  (Xml.ofBytes codecs bytes).mapError (ofMarkup source)

/-- A failure to open a file, as a problem of the configuration at `path`. -/
def ofOpening (path : String) (f : Failure) : Failure :=
  match f with
  | .inaccessible => .configuration (.fileUnreadable path) (some .inaccessible)
  | other => other

/-- The root of the document in a file. -/
def ofFile (codecs : Codecs) (files : FileTree Bytes) (path : Path) : Traced Xml.Element := do
  Traced.report .debug s!"Reading configuration file {path}"
  Traced.ofExcept do
    let bytes ← (files.read path).mapError (ofOpening path.text)
    ofBytes codecs bytes path.text

/-! ### Documents at a URL -/

/-- A failure at a URL, as a problem of the configuration. -/
def ofFetching (url : String) (f : Failure) : Failure :=
  if f.isValueFault then .configuration (.urlUnreadable url) (some f)
  else
    match f with
    | .inaccessible => .configuration (.urlUnreadable url) (some f)
    | other => other

/-- The root of the document at a URL. -/
def ofUrl (codecs : Codecs) (files : FileTree Bytes) (url : String) : Traced Xml.Element := do
  Traced.report .debug s!"Fetching configuration from {url}"
  Traced.ofExcept <| Except.mapError (ofFetching url) do
    let bytes ← files.read (← Url.reach url)
    ofBytes codecs bytes url

end Document

end MediaGraph.Config
