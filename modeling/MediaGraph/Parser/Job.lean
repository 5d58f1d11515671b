import MediaGraph.Metadata
import MediaGraph.Stream.Basic
import MediaGraph.Traced
import MediaGraph.Xml.Reader

namespace MediaGraph

/-!
# What a leaf parser does

A job advertises types and takes the text out of the bytes of a document, which it decodes with the
codecs that it is given.  A job may add to the metadata of the document; what it adds stays, whether
it succeeds or not.
-/

/-- The text of a document, and its metadata at the end. -/
structure Content where
  text : String
  metadata : Metadata
  deriving Repr, DecidableEq

/-- What comes of parsing a document: the content or a failure, and the metadata afterwards. -/
structure Parsed where
  content : Traced Content
  metadata : Metadata

/-- What a leaf parser does. -/
inductive Job where
  /-- Supports no type and takes out nothing. -/
  | nothing
  /-- Decodes plain text. -/
  | plainText (codecs : Codecs)
  /-- Takes out the texts of a markup document. -/
  | markup (codecs : Codecs)
  /-- An implementation's own way. -/
  | custom (types : TypeSet) (run : Bytes → Metadata → Except Failure Content × Metadata)

namespace Job

/-- The job that takes the same text out of every document. -/
def fixed (text : String) (types : List MediaType) : Job :=
  .custom (TypeSet.ofList types) fun _ m => (.ok ⟨text, m⟩, m)

/-- The types that a job advertises. -/
def types : Job → TypeSet
  | .nothing => []
  | .plainText _ => [.textPlain]
  | .markup _ => [.applicationXml]
  | .custom types _ => types

/-- The character set that the declared type names; UTF-8 when it names none. -/
def charsetName (m : Metadata) : String :=
  let declared := (MediaType.readOptional? (m.get? contentTypeKey)).bind (·.parameter? "charset")
  (declared.filter (!·.isEmpty)).getD "utf-8"

/-- The text of some bytes in a named character set; without bytes the name is not looked up.  Only
    a name that is not found is told to be unknown. -/
def decodeNamed (codecs : Codecs) (name : String) (bytes : Bytes) : Except Failure String :=
  if name.toList.contains '\x00' then .error (.invalidValue (.custom "embedded null character"))
  else if bytes.isEmpty then .ok ""
  else
    match codecs.decode name bytes with
    | .ok cs => .ok (String.ofList cs)
    | .error f =>
      if f.isLookupFault then .error (.unparsable (.unknownCharset name) (some f)) else .error f

/-- The texts of a markup document, each trimmed, blank ones dropped, one to a line. -/
def markupText (codecs : Codecs) (bytes : Bytes) : Except Failure String :=
  match Xml.ofBytes codecs bytes with
  | .ok root =>
    .ok (Text.joinWith "\n" ((root.texts.map Text.trim).filter fun s => !s.isEmpty))
  | .error .malformedMarkup => .error (.unparsable .malformedMarkup (some .malformedMarkup))
  | .error f => .error f

/-- The content with a declared type filled in, or the failure and the metadata as they were. -/
def declaring (t : MediaType) (m : Metadata) :
    Except Failure String → Except Failure Content × Metadata
  | .error f => (.error f, m)
  | .ok text =>
    let m' := m.putNew contentTypeKey t.render
    (.ok ⟨text, m'⟩, m')

/-- Does a job on the bytes of a document.  Without a document, a job that needs one fails. -/
def run : Job → Option Bytes → Metadata → Except Failure Content × Metadata
  | .nothing, _, m => (.ok ⟨"", m⟩, m)
  | .plainText _, none, m => (.error .missingAttribute, m)
  | .plainText codecs, some bytes, m =>
    declaring .textPlain m (decodeNamed codecs (charsetName m) bytes)
  | .markup _, none, m => (.error .wrongType, m)
  | .markup codecs, some bytes, m => declaring .applicationXml m (markupText codecs bytes)
  | .custom _ run, bytes, m => run (bytes.getD []) m

end Job

end MediaGraph
