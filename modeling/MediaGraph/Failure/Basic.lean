import MediaGraph.MediaType.Reader
import MediaGraph.Registry.Draft
import MediaGraph.Service.Family

namespace MediaGraph

/-!
# What can go wrong

A failure is a cause, never a text: `Failure.message` holds the wording.  A failure that was met
while another one was being handled keeps that one, and `Failure.chain` lists them from the
outermost inwards.
-/

/-- Why a configuration could not be loaded. -/
inductive ConfigProblem where
  /-- The document from `source` is no well-formed markup. -/
  | documentMalformed (source : String)
  | fileUnreadable (path : String)
  | urlUnreadable (url : String)
  /-- An element without a class name. -/
  | classMissing (tag : String)
  /-- A repository element without a resource. -/
  | resourceMissing
  /-- A container element that occurs more than once. -/
  | containerRepeated (tag : String)
  /-- A class name that is not registered. -/
  | classUnknown (item name : String)
  /-- A class name whose target cannot be used. -/
  | classUnusable (item name : String)
  /-- A class that could not be built. -/
  | classUnbuildable (item name : String)
  /-- The auto-detecting parser, where it may not be declared. -/
  | autoDetectDeclared (item name : String)
  /-- A text that should be a media type. -/
  | typeInvalid (text : String)
  | repositoryMalformed (source : String)
  | repositoryNotArray (source : String)
  | repositoryEntryNotTable (source : String) (index : Nat)
  /-- An entry that could not be read; its name in quoted form. -/
  | repositoryEntryInvalid (source shown : String)
  | repositoryUnreadable (resource : String)
  | repositoryMissing (resource : String)
  | manifestMalformed (origin : String)
  | manifestNotArray (origin : String) (family : Family)
  | manifestIncomplete (origin : String) (family : Family)
  | manifestUnreadable (path : String)
  /-- A location at which nothing was found. -/
  | locationMissing (location : String)
  /-- An implementation's own reason. -/
  | refused (text : String)
  deriving Repr, DecidableEq

/-- The message of a configuration problem. -/
def ConfigProblem.message : ConfigProblem → String
  | .documentMalformed source => s!"Configuration document has syntax errors: {source}"
  | .fileUnreadable path => s!"Unable to read configuration file: {path}"
  | .urlUnreadable url => s!"Unable to read configuration URL: {url}"
  | .classMissing tag => s!"Missing class attribute in <{tag}> element"
  | .resourceMissing => "Missing resource attribute in <mimeTypeRepository> element"
  | .containerRepeated tag => s!"Properties may not contain multiple {tag} entries"
  | .classUnknown item name => s!"Unable to find a {item} class: {name}"
  | .classUnusable item name => s!"Unable to access a {item} class: {name}"
  | .classUnbuildable item name => s!"Unable to create a {item} class: {name}"
  | .autoDetectDeclared item name =>
    s!"AutoDetectParser not supported in a <{item}> configuration element: {name}"
  | .typeInvalid text => s!"Invalid media type name: {text}"
  | .repositoryMalformed source => s!"Media type repository has syntax errors: {source}"
  | .repositoryNotArray source => s!"Media type repository {source}: 'types' must be an array"
  | .repositoryEntryNotTable source index =>
    s!"Media type repository {source}: entry {index} is not a table"
  | .repositoryEntryInvalid source shown =>
    s!"Media type repository {source}: invalid entry {shown}"
  | .repositoryUnreadable resource => s!"Unable to read media type repository: {resource}"
  | .repositoryMissing resource => s!"Media type repository not found: {resource}"
  | .manifestMalformed origin => s!"Service manifest has syntax errors: {origin}"
  | .manifestNotArray origin family =>
    s!"Service manifest {origin}: '{family.plural}' must be an array"
  | .manifestIncomplete origin family =>
    s!"Service manifest {origin}: each {family.label} needs 'name' and 'target'"
  | .manifestUnreadable path => s!"Unable to read service manifest: {path}"
  | .locationMissing location => s!"Specified configuration not found: {location}"
  | .refused text => text

/-- A value that an operation does not accept. -/
inductive ValueFault where
  | aliasTaken (e : AliasTaken)
  /-- Detection on a stream that cannot go back. -/
  | unseekableStream
  | negativeSeek (offset : Int)
  | nameTaken (family : Family) (name : String)
  | emptyModuleName
  | zeroInPath
  | unknownUrlType (url : String)
  /-- An opening bracket in the authority of a URL without a closing one, or the reverse. -/
  | bracketsUnmatched
  | futureAddressInvalid
  | shortAddressBracketed
  /-- A text in brackets that is no numeric address. -/
  | addressInvalid (address : String)
  /-- An authority with characters that stand for separators. -/
  | authorityDisguised (authority : String)
  /-- An encoding with more than one byte to a character. -/
  | multiByteEncoding
  /-- A text, in quoted form, of digits that are no decimal digits. -/
  | notDecimal (shown : String)
  /-- A number with more digits than are read. -/
  | tooManyDigits (count : Nat)
  | shapeUnsupported (binding : String) (shape : Shape)
  /-- An implementation's own reason. -/
  | custom (text : String)
  deriving Repr, DecidableEq

/-- The message of a value fault. -/
def ValueFault.message : ValueFault → String
  | .aliasTaken e => e.message
  | .unseekableStream =>
    "Detection requires a seekable stream; wrap it with ensure_seekable()"
  | .negativeSeek offset => s!"negative seek value {offset}"
  | .nameTaken family name => s!"{family.label} '{name}' is already registered"
  | .emptyModuleName => "Empty module name"
  | .zeroInPath => "embedded null byte"
  | .unknownUrlType url => s!"unknown url type: {Text.quoted url}"
  | .bracketsUnmatched => "Invalid IPv6 URL"
  | .futureAddressInvalid => "IPvFuture address is invalid"
  | .shortAddressBracketed => "An IPv4 address cannot be in brackets"
  | .addressInvalid address =>
    s!"{Text.quoted address} does not appear to be an IPv4 or IPv6 address"
  | .authorityDisguised authority =>
    s!"netloc '{authority}' contains invalid characters under NFKC normalization"
  | .multiByteEncoding => "multi-byte encodings are not supported"
  | .notDecimal shown => s!"invalid literal for int() with base 10: {shown}"
  | .tooManyDigits count =>
    "Exceeds the limit (4300 digits) for integer string conversion: value has " ++
      s!"{count} digits; use sys.set_int_max_str_digits() to increase the limit"
  | .shapeUnsupported binding shape => s!"{binding} cannot build shape {shape.name}"
  | .custom text => text

/-- Why a document could not be parsed. -/
inductive ContentFault where
  | unknownCharset (name : String)
  | malformedMarkup
  /-- An implementation's own reason. -/
  | custom (text : String)
  deriving Repr, DecidableEq

/-- The message of a content fault. -/
def ContentFault.message : ContentFault → String
  | .unknownCharset name => s!"Unknown charset: {name}"
  | .malformedMarkup => "Malformed XML"
  | .custom text => text

/-- Why a registered name cannot be used. -/
inductive ServiceFault where
  /-- Its target, in quoted form, cannot be imported. -/
  | notImportable (shownTarget : String)
  /-- Its target is no class of the family. -/
  | notImplementation
  deriving Repr, DecidableEq

/-- Everything that can go wrong. -/
inductive Failure where
  | configuration (problem : ConfigProblem) (cause : Option Failure)
  | mediaType (problem : MediaType.Problem)
  /-- A name that no entry, or more than one entry, answers to. -/
  | unknownService (family : Family) (name : String) (candidates : List String)
  | unavailableService (family : Family) (name : String) (fault : ServiceFault)
      (cause : Option Failure)
  | translatorUnavailable (text : String)
  | unparsable (fault : ContentFault) (cause : Option Failure)
  | invalidValue (fault : ValueFault)
  | runtime (text : String) (context : Option Failure)
  | missingKey (key : String)
  /-- A number beyond what is representable. -/
  | outOfRange
  /-- A text for which there is no room. -/
  | outOfMemory
  | wrongType
  | missingAttribute
  | missingModule
  | unknownEncoding
  | undecodable
  | unencodable
  /-- A text whose form is refused as a whole: the name of a server that cannot be looked up, or
      bytes in a character set that reads nothing. -/
  | unnameable
  /-- The address of a server, or a path on it, that cannot be sent. -/
  | invalidAddress
  | malformedMarkup
  | malformedTables
  /-- Values that lie too deep in one another to be read. -/
  | tooDeep
  | inaccessible
  deriving Repr

namespace Failure

/-- The name of the kind of a failure, as it is shown in front of a message. -/
def kindName : Failure → String
  | .configuration .. => "ConfigurationError"
  | .mediaType .. => "MediaTypeError"
  | .unknownService .. => "UnknownServiceError"
  | .unavailableService .. => "ServiceUnavailableError"
  | .translatorUnavailable .. => "TranslatorUnavailableError"
  | .unparsable .. => "ParseFailure"
  | .invalidValue .. => "ValueError"
  | .runtime .. => "RuntimeError"
  | .missingKey .. => "KeyError"
  | .outOfRange => "OverflowError"
  | .outOfMemory => "MemoryError"
  | .wrongType => "TypeError"
  | .missingAttribute => "AttributeError"
  | .missingModule => "ImportError"
  | .unknownEncoding => "LookupError"
  | .undecodable => "UnicodeDecodeError"
  | .unencodable => "UnicodeEncodeError"
  | .unnameable => "UnicodeError"
  | .invalidAddress => "InvalidURL"
  | .malformedMarkup => "XmlParseError"
  | .malformedTables => "TomlParseError"
  | .tooDeep => "RecursionError"
  | .inaccessible => "OSError"

/-- The message of a failure; empty where only the kind is known. -/
def message : Failure → String
  | .configuration problem _ => problem.message
  | .mediaType problem => problem.message
  | .unknownService family name [] => s!"Unknown {family.label} name: {Text.quoted name}"
  | .unknownService family name candidates =>
    s!"Ambiguous {family.label} name {Text.quoted name}: " ++ Text.joinWith ", " candidates
  | .unavailableService family _ (.notImportable shown) _ =>
    s!"Unable to import {family.label} target {shown}"
  | .unavailableService family name .notImplementation _ =>
    s!"{Text.quoted name} is not a {family.baseName} implementation"
  | .translatorUnavailable text => text
  | .unparsable fault _ => fault.message
  | .invalidValue fault => fault.message
  | .runtime text _ => text
  | .missingKey key => Text.quoted key
  | _ => ""

/-- Whether nothing but the kind of a failure is known: it has no message of its own. -/
def isBare : Failure → Bool
  | .outOfRange | .outOfMemory | .wrongType | .missingAttribute | .missingModule
  | .unknownEncoding | .undecodable | .unencodable | .unnameable | .invalidAddress
  | .malformedMarkup | .malformedTables | .tooDeep | .inaccessible => true
  | _ => false

/-- A failure and the failures behind it, outermost first. -/
def chain : Failure → List Failure
  | f@(.configuration _ (some c)) => f :: c.chain
  | f@(.unavailableService _ _ _ (some c)) => f :: c.chain
  | f@(.unparsable _ (some c)) => f :: c.chain
  | f@(.runtime _ (some c)) => f :: c.chain
  | f => [f]

/-- The message, or the kind of a failure without one. -/
def text (f : Failure) : String := if f.message.isEmpty then f.kindName else f.message

/-- A failure as an entry of a chain: kind and text. -/
def entry (f : Failure) : String := s!"{f.kindName}: {f.text}"

/-- The texts of a chain: the first one bare, the others with their kinds. -/
def causeChain (f : Failure) : List String :=
  match f.chain with
  | [] => []
  | first :: rest => first.text :: rest.map entry

/-- A failure to look something up by its name. -/
def isLookupFault : Failure → Bool
  | .missingKey _ | .unknownEncoding => true
  | _ => false

/-- Whether a failure can come from outside: it is no fault of markup, and none of those that are
    raised here only. -/
def isForeign : Failure → Bool
  | .configuration .. | .mediaType _ | .unknownService .. | .unavailableService ..
  | .translatorUnavailable _ | .unparsable .. | .malformedMarkup => false
  | _ => true

/-- A failure that is reported as a fault of a value. -/
def isValueFault : Failure → Bool
  | .invalidValue _ => true
  | .mediaType _ => true
  | .undecodable => true
  | .unencodable => true
  | .unnameable => true
  | _ => false

end Failure

end MediaGraph
