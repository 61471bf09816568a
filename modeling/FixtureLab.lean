import FixtureLab.Catalog.Model
import FixtureLab.Catalog.Scenarios
import FixtureLab.Command.Arguments
import FixtureLab.Command.Failure
import FixtureLab.Command.Run
import FixtureLab.Command.Session
import FixtureLab.Decimal.Binary64
import FixtureLab.Decimal.Literal
import FixtureLab.Decimal.Shortest
import FixtureLab.Glob.Match
import FixtureLab.Glob.Pattern
import FixtureLab.Graph.Export
import FixtureLab.Graph.Page
import FixtureLab.Graph.Record
import FixtureLab.Graph.Store
import FixtureLab.Json.Basic
import FixtureLab.Json.Fields
import FixtureLab.Json.Printer
import FixtureLab.Json.Raw
import FixtureLab.Json.Token
import FixtureLab.Main
import FixtureLab.Registry.Basic
import FixtureLab.Registry.Build
import FixtureLab.Registry.Error
import FixtureLab.Schema.Basic
import FixtureLab.Schema.Document
import FixtureLab.Schema.Error
import FixtureLab.Schema.Files
import FixtureLab.Schema.Infer
import FixtureLab.Schema.Source
import FixtureLab.Table
import FixtureLab.Text.Alphanumeric
import FixtureLab.Text.Case
import FixtureLab.Text.CharRange
import FixtureLab.Text.Normalize
import FixtureLab.Text.Printable
import FixtureLab.Text.Replace
import FixtureLab.Text.StringLiteral
import FixtureLab.Text.Words
import FixtureLab.Tree.Expand
import FixtureLab.Tree.FileSystem
import FixtureLab.Tree.FileTree
import FixtureLab.Tree.Path
import FixtureLab.Tree.Walk
import FixtureLab.Yaml.BlockScalar
import FixtureLab.Yaml.Document
import FixtureLab.Yaml.FlowScalar
import FixtureLab.Yaml.Node
import FixtureLab.Yaml.Printer
import FixtureLab.Yaml.Property
import FixtureLab.Yaml.Scalar
import FixtureLab.Yaml.Source
import FixtureLab.Yaml.Token
import FixtureLab.Proofs.Catalog.Order
import FixtureLab.Proofs.Catalog.RoundTrip
import FixtureLab.Proofs.Command.Session
import FixtureLab.Proofs.Command.TypeTasks
import FixtureLab.Proofs.Command.TypesDocument
import FixtureLab.Proofs.Decimal.Literal
import FixtureLab.Proofs.Glob.Matching
import FixtureLab.Proofs.Glob.Reading
import FixtureLab.Proofs.Graph.Embedding
import FixtureLab.Proofs.Graph.Page
import FixtureLab.Proofs.Graph.ReadBack
import FixtureLab.Proofs.Graph.Script
import FixtureLab.Proofs.Graph.Store
import FixtureLab.Proofs.Json.Compact
import FixtureLab.Proofs.Json.Fields
import FixtureLab.Proofs.Json.Keys
import FixtureLab.Proofs.Json.Reading
import FixtureLab.Proofs.Json.Scanning
import FixtureLab.Proofs.Json.Spelling
import FixtureLab.Proofs.Registry.Acyclic
import FixtureLab.Proofs.Registry.Book
import FixtureLab.Proofs.Registry.Chain
import FixtureLab.Proofs.Registry.Commute
import FixtureLab.Proofs.Registry.Family
import FixtureLab.Proofs.Registry.Fetch
import FixtureLab.Proofs.Registry.Frames
import FixtureLab.Proofs.Registry.Fresh
import FixtureLab.Proofs.Registry.History
import FixtureLab.Proofs.Registry.Invariant
import FixtureLab.Proofs.Registry.Machine
import FixtureLab.Proofs.Registry.Memo
import FixtureLab.Proofs.Registry.Moment
import FixtureLab.Proofs.Registry.Operation
import FixtureLab.Proofs.Registry.Recipe
import FixtureLab.Proofs.Registry.Registration
import FixtureLab.Proofs.Registry.Rollback
import FixtureLab.Proofs.Registry.Room
import FixtureLab.Proofs.Registry.Run
import FixtureLab.Proofs.Registry.Shared
import FixtureLab.Proofs.Registry.Termination
import FixtureLab.Proofs.Registry.Trace
import FixtureLab.Proofs.Registry.Yield
import FixtureLab.Proofs.Schema.Acceptance
import FixtureLab.Proofs.Schema.Agreement
import FixtureLab.Proofs.Schema.ByValue
import FixtureLab.Proofs.Schema.ClosedForm
import FixtureLab.Proofs.Schema.Comparable
import FixtureLab.Proofs.Schema.Document
import FixtureLab.Proofs.Schema.Faults
import FixtureLab.Proofs.Schema.FieldIdents
import FixtureLab.Proofs.Schema.Files
import FixtureLab.Proofs.Schema.Inference
import FixtureLab.Proofs.Schema.LeafPaths
import FixtureLab.Proofs.Schema.LegalIdents
import FixtureLab.Proofs.Schema.Merge
import FixtureLab.Proofs.Schema.Objects
import FixtureLab.Proofs.Schema.Reading
import FixtureLab.Proofs.Schema.Rejection
import FixtureLab.Proofs.Schema.Rendering
import FixtureLab.Proofs.Schema.SampleOrder
import FixtureLab.Proofs.Schema.Sampling
import FixtureLab.Proofs.Schema.Struct
import FixtureLab.Proofs.Schema.StructNames
import FixtureLab.Proofs.Schema.Trails
import FixtureLab.Proofs.Schema.TypeOrder
import FixtureLab.Proofs.Schema.TypeTable
import FixtureLab.Proofs.Schema.Walk
import FixtureLab.Proofs.Schema.WellFormed
import FixtureLab.Proofs.Schema.WireNames
import FixtureLab.Proofs.Table
import FixtureLab.Proofs.Text.Ascii
import FixtureLab.Proofs.Text.ByteOrder
import FixtureLab.Proofs.Text.CamelCase
import FixtureLab.Proofs.Text.Literal
import FixtureLab.Proofs.Text.Normalize
import FixtureLab.Proofs.Text.Replace
import FixtureLab.Proofs.Text.Words
import FixtureLab.Proofs.Tree.Expansion
import FixtureLab.Proofs.Tree.Making
import FixtureLab.Proofs.Tree.RelativePath
import FixtureLab.Proofs.Tree.Walking
import FixtureLab.Proofs.Tree.Writing
import FixtureLab.Proofs.Yaml.BlockTokens
import FixtureLab.Proofs.Yaml.Decoding
import FixtureLab.Proofs.Yaml.LiteralText
import FixtureLab.Proofs.Yaml.Marks
import FixtureLab.Proofs.Yaml.Place
import FixtureLab.Proofs.Yaml.PlainText
import FixtureLab.Proofs.Yaml.PrintedText
import FixtureLab.Proofs.Yaml.QuotedText
import FixtureLab.Proofs.Yaml.Reading
import FixtureLab.Proofs.Yaml.TextTokens
import FixtureLab.Proofs.Yaml.ValueNodes
