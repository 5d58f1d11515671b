import MediaGraph.Assoc
import MediaGraph.Class
import MediaGraph.CommandLine.Arguments
import MediaGraph.CommandLine.Commands
import MediaGraph.CommandLine.Options
import MediaGraph.CommandLine.Reach
import MediaGraph.CommandLine.Style
import MediaGraph.Config.Assembly
import MediaGraph.Config.Capability
import MediaGraph.Config.Document
import MediaGraph.Config.Environment
import MediaGraph.Config.Loading
import MediaGraph.Config.Model
import MediaGraph.Config.Translator
import MediaGraph.Description
import MediaGraph.Detector.Basic
import MediaGraph.Detector.Packaged
import MediaGraph.Failure.Basic
import MediaGraph.Failure.Graph
import MediaGraph.Files.Packaged
import MediaGraph.Files.Path
import MediaGraph.Files.Tree
import MediaGraph.Json.Printer
import MediaGraph.Logging.Level
import MediaGraph.Logging.Line
import MediaGraph.Logging.Template
import MediaGraph.Main
import MediaGraph.MediaType.Basic
import MediaGraph.MediaType.Printer
import MediaGraph.MediaType.Reader
import MediaGraph.Metadata
import MediaGraph.Number.Binary
import MediaGraph.Number.Shortest
import MediaGraph.Parser.Basic
import MediaGraph.Parser.Context
import MediaGraph.Parser.Dispatch
import MediaGraph.Parser.Job
import MediaGraph.Parser.Packaged
import MediaGraph.Readers
import MediaGraph.Record
import MediaGraph.Registry.Basic
import MediaGraph.Registry.Draft
import MediaGraph.Registry.Session
import MediaGraph.Repository.Basic
import MediaGraph.Repository.Detection
import MediaGraph.Repository.Packaged
import MediaGraph.Repository.Reading
import MediaGraph.Service.Calls
import MediaGraph.Service.Contents
import MediaGraph.Service.Discovery
import MediaGraph.Service.Family
import MediaGraph.Service.Implementation
import MediaGraph.Service.Manifest
import MediaGraph.Service.Module
import MediaGraph.Service.Names
import MediaGraph.Service.Packaged
import MediaGraph.Service.Table
import MediaGraph.Sorted
import MediaGraph.Stream.Basic
import MediaGraph.Stream.Look
import MediaGraph.Text.Blank
import MediaGraph.Text.ByteSet
import MediaGraph.Text.CaseMapping
import MediaGraph.Text.CaseTable
import MediaGraph.Text.Charset
import MediaGraph.Text.Codecs
import MediaGraph.Text.Digit
import MediaGraph.Text.Glob
import MediaGraph.Text.Numeral
import MediaGraph.Text.PrintableTable
import MediaGraph.Text.Quoted
import MediaGraph.Text.Scan
import MediaGraph.Text.Utf8
import MediaGraph.Toml.Document
import MediaGraph.Toml.Moment
import MediaGraph.Toml.Number
import MediaGraph.Toml.Pieces
import MediaGraph.Toml.Statement
import MediaGraph.Toml.Token
import MediaGraph.Toml.Value
import MediaGraph.Traced
import MediaGraph.Translator.Basic
import MediaGraph.Translator.Packaged
import MediaGraph.Url.Authority
import MediaGraph.Url.Fetching
import MediaGraph.Xml.Character
import MediaGraph.Xml.Doctype
import MediaGraph.Xml.Element
import MediaGraph.Xml.Encoding
import MediaGraph.Xml.Entity
import MediaGraph.Xml.NameTable
import MediaGraph.Xml.Namespace
import MediaGraph.Xml.Reader
import MediaGraph.Xml.Token
import MediaGraph.Xml.Word
import MediaGraph.Proofs.Parser.Lookup
import MediaGraph.Proofs.Parser.Alias
import MediaGraph.Proofs.Parser.Exclusion
import MediaGraph.Proofs.Traced
import MediaGraph.Proofs.Config.Document
import MediaGraph.Proofs.Repository.Reading
import MediaGraph.Proofs.Service.Resolving
import MediaGraph.Proofs.Config.Items
import MediaGraph.Proofs.Config.Faults
import MediaGraph.Proofs.Config.Containment
import MediaGraph.Proofs.Xml.Below
import MediaGraph.Proofs.Config.Loaded
import MediaGraph.Proofs.Config.Names
import MediaGraph.Proofs.Config.Structure
import MediaGraph.Proofs.Config.TypeFilter
import MediaGraph.Proofs.Registry.Canonical
import MediaGraph.Proofs.Registry.Order
import MediaGraph.Proofs.Parser.Wrapping
import MediaGraph.Proofs.Xml.Nesting
import MediaGraph.Proofs.Config.AutoDetection
import MediaGraph.Proofs.Config.Multiplicity
import MediaGraph.Proofs.Text.LowerCase
import MediaGraph.Proofs.MediaType.Normal
import MediaGraph.Proofs.MediaType.Grammar
import MediaGraph.Proofs.MediaType.RoundTrip
import MediaGraph.Proofs.MediaType.WrittenForm
import MediaGraph.Proofs.Registry.Building
import MediaGraph.Proofs.Registry.Climb
import MediaGraph.Proofs.Registry.Normalization
import MediaGraph.Proofs.Detector.Looking
import MediaGraph.Proofs.Detector.MostSpecific
import MediaGraph.Proofs.Detector.Refinement
import MediaGraph.Proofs.Service.Changes
import MediaGraph.Proofs.Service.History
import MediaGraph.Proofs.Service.Naming
import MediaGraph.Proofs.Service.Discovery
import MediaGraph.Proofs.Xml.Insertion
import MediaGraph.Proofs.Config.Undeclared
import MediaGraph.Proofs.Config.UnrelatedMarkup
import MediaGraph.Proofs.Detector.Window
import MediaGraph.Proofs.Parser.PackagedTree
import MediaGraph.Proofs.Parser.Stumbling
import MediaGraph.Proofs.Repository.Declarations
import MediaGraph.Proofs.Parser.RemainingBytes
import MediaGraph.Proofs.Config.FilteredExclusion
import MediaGraph.Proofs.Repository.Refining
import MediaGraph.Proofs.Text.GlobSet
import MediaGraph.Proofs.Text.Glob
import MediaGraph.Proofs.Repository.Longest
import MediaGraph.Proofs.Text.Utf8
import MediaGraph.Proofs.Detector.Textual
import MediaGraph.Proofs.Service.Selecting
import MediaGraph.Proofs.Repository.EntryOrder
import MediaGraph.Proofs.Registry.Aliases
import MediaGraph.Proofs.MediaType.Merging
import MediaGraph.Proofs.Service.FailedManifest
import MediaGraph.Proofs.Config.Tower
import MediaGraph.Proofs.Config.Translator
import MediaGraph.Proofs.Description
import MediaGraph.Proofs.Logging.Level
import MediaGraph.Proofs.Failure.Chain
