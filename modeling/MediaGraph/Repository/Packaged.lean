import MediaGraph.Repository.Reading

namespace MediaGraph.Repository.Packaged

/-!
# The packaged repository

The types that are known without any configuration: plain text and its relatives, markup,
archives, documents and images.
-/

/-- The canonical types. -/
def types : TypeSet :=
  [⟨"application", "gzip", []⟩,
   ⟨"application", "json", []⟩,
   ⟨"application", "octet-stream", []⟩,
   ⟨"application", "pdf", []⟩,
   ⟨"application", "vnd.openxmlformats-officedocument.wordprocessingml.document", []⟩,
   ⟨"application", "x-empty", []⟩,
   ⟨"application", "xhtml+xml", []⟩,
   ⟨"application", "xml", []⟩,
   ⟨"application", "zip", []⟩,
   ⟨"image", "gif", []⟩,
   ⟨"image", "jpeg", []⟩,
   ⟨"image", "png", []⟩,
   ⟨"image", "svg+xml", []⟩,
   ⟨"text", "csv", []⟩,
   ⟨"text", "html", []⟩,
   ⟨"text", "markdown", []⟩,
   ⟨"text", "plain", []⟩]

/-- The other names, in the order of their entries. -/
def aliases : Assoc MediaType MediaType :=
  ⟨[(⟨"text", "x-plain", []⟩, ⟨"text", "plain", []⟩),
    (⟨"text", "x-markdown", []⟩, ⟨"text", "markdown", []⟩),
    (⟨"text", "xml", []⟩, ⟨"application", "xml", []⟩),
    (⟨"application", "x-xml", []⟩, ⟨"application", "xml", []⟩),
    (⟨"application", "x-pdf", []⟩, ⟨"application", "pdf", []⟩),
    (⟨"application", "x-zip-compressed", []⟩, ⟨"application", "zip", []⟩),
    (⟨"application", "x-gzip", []⟩, ⟨"application", "gzip", []⟩)]⟩

/-- The recorded supertypes. -/
def links : Assoc MediaType MediaType :=
  ⟨[(⟨"application", "vnd.openxmlformats-officedocument.wordprocessingml.document", []⟩,
      ⟨"application", "zip", []⟩)]⟩

/-- The rules, in the order of their entries. -/
def rules : List TypeRules :=
  [⟨⟨"application", "octet-stream", []⟩,
      "Unknown binary data", [],
      []⟩,
   ⟨⟨"application", "x-empty", []⟩,
      "Empty document", [],
      []⟩,
   ⟨⟨"text", "plain", []⟩,
      "Plain text", ["*.txt", "*.text", "*.log"],
      []⟩,
   ⟨⟨"text", "csv", []⟩,
      "Comma-separated values", ["*.csv"],
      []⟩,
   ⟨⟨"text", "markdown", []⟩,
      "Markdown document", ["*.md", "*.markdown"],
      []⟩,
   ⟨⟨"text", "html", []⟩,
      "HyperText Markup Language", ["*.html", "*.htm"],
      [Text.Utf8.encode "<!DOCTYPE html",
       Text.Utf8.encode "<!doctype html",
       Text.Utf8.encode "<html"]⟩,
   ⟨⟨"application", "xml", []⟩,
      "Extensible Markup Language", ["*.xml", "*.xsd"],
      [Text.Utf8.encode "<?xml"]⟩,
   ⟨⟨"image", "svg+xml", []⟩,
      "Scalable Vector Graphics", ["*.svg"],
      [Text.Utf8.encode "<svg"]⟩,
   ⟨⟨"application", "xhtml+xml", []⟩,
      "XHTML document", ["*.xhtml"],
      []⟩,
   ⟨⟨"application", "json", []⟩,
      "JavaScript Object Notation", ["*.json"],
      []⟩,
   ⟨⟨"application", "pdf", []⟩,
      "Portable Document Format", ["*.pdf"],
      [Text.Utf8.encode "%PDF-"]⟩,
   ⟨⟨"application", "zip", []⟩,
      "ZIP archive", ["*.zip"],
      [[0x50, 0x4B, 0x03, 0x04]]⟩,
   ⟨⟨"application", "vnd.openxmlformats-officedocument.wordprocessingml.document", []⟩,
      "Office Open XML document", ["*.docx"],
      []⟩,
   ⟨⟨"application", "gzip", []⟩,
      "Gzip compressed data", ["*.gz"],
      [[0x1F, 0x8B]]⟩,
   ⟨⟨"image", "png", []⟩,
      "Portable Network Graphics", ["*.png"],
      [[0x89, 0x50, 0x4E, 0x47, 0x0D, 0x0A, 0x1A, 0x0A]]⟩,
   ⟨⟨"image", "jpeg", []⟩,
      "JPEG image", ["*.jpg", "*.jpeg"],
      [[0xFF, 0xD8, 0xFF]]⟩,
   ⟨⟨"image", "gif", []⟩,
      "Graphics Interchange Format", ["*.gif"],
      [Text.Utf8.encode "GIF87a",
       Text.Utf8.encode "GIF89a"]⟩]

/-- The name under which the repository is packaged. -/
def resourceName : String := "mediaconf-types.toml"

/-- The packaged repository. -/
def repository : Repository :=
  ⟨⟨types, aliases, links⟩, ⟨rules.map fun rule => (rule.mediaType, rule)⟩, resourceName⟩

/-- The packaged repository as it is read anew, with `source` as the name it was asked for. -/
def load (source : String) : Traced Repository := do
  Traced.report .debug s!"Loaded {rules.length} media types from {source}"
  Traced.reportAll [repository.registry.thaw.freezeRecord]
  return { repository with source }

end MediaGraph.Repository.Packaged
