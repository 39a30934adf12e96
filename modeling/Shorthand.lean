import Shorthand.Binary64
import Shorthand.Calendar
import Shorthand.Catalogue
import Shorthand.Catalogue.File
import Shorthand.Decimal.Layout
import Shorthand.Decimal.Shortest
import Shorthand.Definition
import Shorthand.EnvFile
import Shorthand.Files
import Shorthand.Journal
import Shorthand.Json.Failure
import Shorthand.Json.Lexeme
import Shorthand.Json.Reader
import Shorthand.Json.Writer
import Shorthand.Numeral
import Shorthand.Operand
import Shorthand.Path
import Shorthand.Reading
import Shorthand.Reference
import Shorthand.Reference.Memo
import Shorthand.Registry
import Shorthand.Resolution
import Shorthand.Schema.Detail
import Shorthand.Schema.Model
import Shorthand.Schema.Rule
import Shorthand.Service
import Shorthand.Service.Answer
import Shorthand.Service.Host
import Shorthand.Service.Request
import Shorthand.Service.Route
import Shorthand.Settings
import Shorthand.Settings.CommandLine
import Shorthand.Settings.Lookup
import Shorthand.Text.Blank
import Shorthand.Text.Casing
import Shorthand.Text.CharRanges
import Shorthand.Text.Charset
import Shorthand.Text.CodePage
import Shorthand.Text.Encoding
import Shorthand.Text.Hex
import Shorthand.Text.Lead
import Shorthand.Text.Printable
import Shorthand.Text.Quoted
import Shorthand.Text.Utf8
import Shorthand.Text.Wide
import Shorthand.Text.Word
import Shorthand.Toml.Document
import Shorthand.Toml.Flaw
import Shorthand.Toml.Lexeme
import Shorthand.Toml.Reader
import Shorthand.Toml.Scalar
import Shorthand.Value
import Shorthand.Value.Agreement
import Shorthand.Value.Literal
import Shorthand.Value.Portable
import Shorthand.Variables
import Shorthand.Proofs.Reference.Longest
import Shorthand.Proofs.FirstOccurrences
import Shorthand.Proofs.Reference.Pieces
import Shorthand.Proofs.Resolution.Pieces
import Shorthand.Proofs.Resolution.Scan
import Shorthand.Proofs.Registry.Put
import Shorthand.Proofs.Registry.History
import Shorthand.Proofs.Reference.Splice
import Shorthand.Proofs.Resolution.Agreement
import Shorthand.Proofs.Service.Detection
import Shorthand.Proofs.Schema.Checks
import Shorthand.Proofs.Service.Paired
import Shorthand.Proofs.Service.Storing
import Shorthand.Proofs.Service.Run
import Shorthand.Proofs.Reference.Admissible
import Shorthand.Proofs.Value.Entries
import Shorthand.Proofs.Value.Literal
import Shorthand.Proofs.Value.Equality
import Shorthand.Proofs.Value.Parts
import Shorthand.Proofs.Registry.RawTable
import Shorthand.Proofs.Schema.Details
import Shorthand.Proofs.Service.Bulk
import Shorthand.Proofs.Service.ReadBack
import Shorthand.Proofs.Resolution.Occurrence
import Shorthand.Proofs.Reference.Locality
import Shorthand.Proofs.Resolution.Cut
import Shorthand.Proofs.Registry.Reversal
import Shorthand.Proofs.Registry.Frame
import Shorthand.Proofs.Reference.Memo
import Shorthand.Proofs.Reference.Canonical
import Shorthand.Proofs.Registry.Order
import Shorthand.Proofs.Catalogue.Load
import Shorthand.Proofs.Service.Start
import Shorthand.Proofs.Reading.Limits
import Shorthand.Proofs.Reading.Numeral
import Shorthand.Proofs.Json.Limits
import Shorthand.Proofs.Toml.Pieces
import Shorthand.Proofs.Toml.Limits
import Shorthand.Proofs.Catalogue.Told
import Shorthand.Proofs.Registry.Session
import Shorthand.Proofs.Registry.Reseeding
import Shorthand.Proofs.Catalogue.Content
import Shorthand.Proofs.Catalogue.Shapes
import Shorthand.Proofs.Definition.Coercion
import Shorthand.Proofs.Reference.Boundary
import Shorthand.Proofs.Json.Kinds
import Shorthand.Proofs.Service.Created
import Shorthand.Proofs.Json.Quoted
import Shorthand.Proofs.Reading.Integer
import Shorthand.Proofs.Json.Written
import Shorthand.Proofs.Catalogue.Written
import Shorthand.Proofs.Registry.Chronicle
