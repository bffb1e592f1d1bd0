import RecordFlow.Bitmask.Config
import RecordFlow.Bitmask.Decision
import RecordFlow.Bitmask.Router
import RecordFlow.Bitmask.Rules
import RecordFlow.Bulk.Client
import RecordFlow.Bulk.Config
import RecordFlow.Bulk.Endpoint
import RecordFlow.Bulk.Operation
import RecordFlow.Bulk.Payload
import RecordFlow.Bulk.Reply
import RecordFlow.Bulk.Writer
import RecordFlow.Charset
import RecordFlow.Charset.Big5
import RecordFlow.Charset.Chinese
import RecordFlow.Charset.EucKr
import RecordFlow.Charset.Gb18030
import RecordFlow.Charset.Index
import RecordFlow.Charset.Japanese
import RecordFlow.Charset.Jis0208
import RecordFlow.Charset.Jis0212
import RecordFlow.Charset.SingleByte
import RecordFlow.Charset.Utf16
import RecordFlow.Configuration
import RecordFlow.Decimal.Integer
import RecordFlow.Decimal.Shortest
import RecordFlow.Dictionary
import RecordFlow.Fault
import RecordFlow.Http.Base64
import RecordFlow.Http.Reply
import RecordFlow.Http.Request
import RecordFlow.Idna.Label
import RecordFlow.Idna.Mapping
import RecordFlow.Idna.MappingTable
import RecordFlow.Idna.Properties
import RecordFlow.Idna.Punycode
import RecordFlow.Json.Basic
import RecordFlow.Json.Decode
import RecordFlow.Json.Document
import RecordFlow.Json.Fields
import RecordFlow.Json.Literal
import RecordFlow.Json.Printer
import RecordFlow.Json.Token
import RecordFlow.Main
import RecordFlow.Output
import RecordFlow.Plugin
import RecordFlow.Processor
import RecordFlow.Record
import RecordFlow.Run
import RecordFlow.Runner.CommandLine
import RecordFlow.Runner.Config
import RecordFlow.Runner.Fault
import RecordFlow.Runner.FileTree
import RecordFlow.Runner.Job
import RecordFlow.Runner.Records
import RecordFlow.Session
import RecordFlow.Shipped
import RecordFlow.Template
import RecordFlow.Terminator
import RecordFlow.Text.Blank
import RecordFlow.Text.CodeRanges
import RecordFlow.Text.Composition
import RecordFlow.Text.CompositionTable
import RecordFlow.Text.ControlSequence
import RecordFlow.Text.Hexadecimal
import RecordFlow.Text.LineBreaks
import RecordFlow.Text.Printable
import RecordFlow.Text.Quoted
import RecordFlow.Text.Utf8
import RecordFlow.Toml.Basic
import RecordFlow.Toml.Datetime
import RecordFlow.Toml.Decode
import RecordFlow.Toml.Document
import RecordFlow.Toml.Number
import RecordFlow.Toml.Quoted
import RecordFlow.Toml.Table
import RecordFlow.Url.Authority
import RecordFlow.Url.Basic
import RecordFlow.Url.Domain
import RecordFlow.Url.Fault
import RecordFlow.Url.Form
import RecordFlow.Url.Ipv4
import RecordFlow.Url.Ipv6
import RecordFlow.Url.LocalFile
import RecordFlow.Url.Parser
import RecordFlow.Url.Path
import RecordFlow.Url.Percent
import RecordFlow.Url.Scheme
import RecordFlow.Proofs.Json.Printed
import RecordFlow.Proofs.Json.RoundTrip
import RecordFlow.Proofs.Bulk.Request
import RecordFlow.Proofs.Bulk.Exclusion
import RecordFlow.Proofs.Bulk.Framing
import RecordFlow.Proofs.Bulk.Reconciliation
import RecordFlow.Proofs.Bulk.Batch
import RecordFlow.Proofs.Run
import RecordFlow.Proofs.Bulk.Pairing
import RecordFlow.Proofs.Bulk.Conservation
import RecordFlow.Proofs.Decimal
import RecordFlow.Proofs.Dictionary
import RecordFlow.Proofs.Template
import RecordFlow.Proofs.Bitmask.Decision
import RecordFlow.Proofs.Bitmask.Routing
import RecordFlow.Proofs.Bitmask.Outputs
import RecordFlow.Proofs.Json.Fields
import RecordFlow.Proofs.Runner.Records
import RecordFlow.Proofs.Bulk.BatchSize
import RecordFlow.Proofs.Json.Layout
import RecordFlow.Proofs.Json.Nesting
import RecordFlow.Proofs.Json.Envelope
import RecordFlow.Proofs.Bulk.Documents
import RecordFlow.Proofs.Run.Splitting
import RecordFlow.Proofs.Bulk.Marks
import RecordFlow.Proofs.Bulk.Resubmission
import RecordFlow.Proofs.Bitmask.Registration
import RecordFlow.Proofs.Runner.RouterSettings
import RecordFlow.Proofs.Bitmask.Registry
import RecordFlow.Proofs.Bitmask.Clearing
import RecordFlow.Proofs.Run.Progress
import RecordFlow.Proofs.Bulk.BackOff
import RecordFlow.Proofs.Shipped
import RecordFlow.Proofs.Bitmask.Feedback
import RecordFlow.Proofs.Bulk.Items
import RecordFlow.Proofs.Bulk.Validation
import RecordFlow.Proofs.Runner.Lines
import RecordFlow.Proofs.Bulk.Content
import RecordFlow.Proofs.Text.SingleLine
import RecordFlow.Proofs.Text.WellFormed
import RecordFlow.Proofs.Session.Custody
import RecordFlow.Proofs.Url.Form
import RecordFlow.Proofs.Bulk.Endpoint
