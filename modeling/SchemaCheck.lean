import SchemaCheck.Base64
import SchemaCheck.Calendar.Civil
import SchemaCheck.Calendar.Instant
import SchemaCheck.Calendar.Internet
import SchemaCheck.Calendar.Layout
import SchemaCheck.Calendar.Mail
import SchemaCheck.Calendar.Text
import SchemaCheck.Coercion.Basic
import SchemaCheck.Coercion.Container
import SchemaCheck.Coercion.Scalar
import SchemaCheck.Coercion.Semantic
import SchemaCheck.CommandLine.Grammar
import SchemaCheck.CommandLine.Matching
import SchemaCheck.CommandLine.Request
import SchemaCheck.Commands.Coerce
import SchemaCheck.Commands.Load
import SchemaCheck.Commands.Program
import SchemaCheck.Commands.Validate
import SchemaCheck.Document
import SchemaCheck.Duration
import SchemaCheck.Failure
import SchemaCheck.Fields
import SchemaCheck.Files
import SchemaCheck.Json.Printer
import SchemaCheck.Json.Reader
import SchemaCheck.Json.Shaped
import SchemaCheck.Json.Skip
import SchemaCheck.Json.Value
import SchemaCheck.Logging
import SchemaCheck.Main
import SchemaCheck.Net.Domain
import SchemaCheck.Net.Email
import SchemaCheck.Net.Host
import SchemaCheck.Net.Hostname
import SchemaCheck.Net.Ip
import SchemaCheck.Net.Percent
import SchemaCheck.Net.Punycode
import SchemaCheck.Net.Url
import SchemaCheck.Number.Arithmetic
import SchemaCheck.Number.Binary64
import SchemaCheck.Number.Decimal
import SchemaCheck.Number.Power
import SchemaCheck.Output
import SchemaCheck.Pattern.Basic
import SchemaCheck.Pattern.Class
import SchemaCheck.Pattern.Matching
import SchemaCheck.Pattern.Parser
import SchemaCheck.Proofs.Coercion.Document
import SchemaCheck.Proofs.Yaml.Block
import SchemaCheck.Proofs.Yaml.Collections
import SchemaCheck.Proofs.Yaml.Cursor
import SchemaCheck.Proofs.Yaml.Layout
import SchemaCheck.Proofs.Yaml.Nodes
import SchemaCheck.Proofs.Yaml.Plain
import SchemaCheck.Proofs.Yaml.Quoted
import SchemaCheck.Proofs.Yaml.Scalars
import SchemaCheck.Proofs.Yaml.Tokens
import SchemaCheck.Proofs.Commands.Report
import SchemaCheck.Proofs.Commands.Validate
import SchemaCheck.Proofs.Fields
import SchemaCheck.Proofs.Json.Spacing
import SchemaCheck.Proofs.Json.Exact
import SchemaCheck.Proofs.Json.Number
import SchemaCheck.Proofs.Json.Quoted
import SchemaCheck.Proofs.Json.Value
import SchemaCheck.Proofs.Number.Rounding
import SchemaCheck.Proofs.Number.Shortest
import SchemaCheck.Proofs.Schema.Decode
import SchemaCheck.Proofs.Schema.Basic
import SchemaCheck.Proofs.Schema.RoundTrip
import SchemaCheck.Proofs.Text.Digits
import SchemaCheck.Proofs.Validation.Conformance
import SchemaCheck.Proofs.Validation.Depth
import SchemaCheck.Proofs.Validation.Descent
import SchemaCheck.Proofs.Validation.Engine
import SchemaCheck.Proofs.Validation.Findings
import SchemaCheck.Proofs.Validation.Inputs
import SchemaCheck.Proofs.Validation.Leniency
import SchemaCheck.Proofs.Validation.PatternCache
import SchemaCheck.Proofs.Validation.Pool
import SchemaCheck.Proofs.Validation.Relaxation
import SchemaCheck.Proofs.Validation.Relevance
import SchemaCheck.Proofs.Validation.Requests
import SchemaCheck.Proofs.Validation.Scratch
import SchemaCheck.Proofs.Validation.Session
import SchemaCheck.Proofs.Validation.Traversal
import SchemaCheck.Proofs.Validation.Visit
import SchemaCheck.Registry
import SchemaCheck.Report
import SchemaCheck.Schema.Basic
import SchemaCheck.Schema.Decode
import SchemaCheck.Schema.Encode
import SchemaCheck.Schema.Kind
import SchemaCheck.Schema.Load
import SchemaCheck.Schema.Yaml
import SchemaCheck.Settings
import SchemaCheck.Shape
import SchemaCheck.Text.Ascii
import SchemaCheck.Text.Blank
import SchemaCheck.Text.Digits
import SchemaCheck.Text.Paint
import SchemaCheck.Text.Quoted
import SchemaCheck.Text.Scan
import SchemaCheck.Unicode.CaseFolding
import SchemaCheck.Unicode.Category
import SchemaCheck.Unicode.CharSet
import SchemaCheck.Unicode.Composition
import SchemaCheck.Unicode.Direction
import SchemaCheck.Unicode.DomainMapping
import SchemaCheck.Unicode.Joining
import SchemaCheck.Unicode.Lowercase
import SchemaCheck.Unicode.Name
import SchemaCheck.Unicode.Property
import SchemaCheck.Unicode.PropertyTable
import SchemaCheck.Unicode.Ranges
import SchemaCheck.Unicode.Script
import SchemaCheck.Uuid
import SchemaCheck.Validation.Input
import SchemaCheck.Validation.Location
import SchemaCheck.Validation.Optimized
import SchemaCheck.Validation.PatternCache
import SchemaCheck.Validation.Reference
import SchemaCheck.Validation.Result
import SchemaCheck.Validation.ResultText
import SchemaCheck.Validation.Scratch
import SchemaCheck.Validation.Settings
import SchemaCheck.Validation.TextFormat
import SchemaCheck.Validation.Validator
import SchemaCheck.Validation.Violation
import SchemaCheck.Yaml.Cursor
import SchemaCheck.Yaml.Mark
import SchemaCheck.Yaml.Node
import SchemaCheck.Yaml.Node.Document
import SchemaCheck.Yaml.Node.Reader
import SchemaCheck.Yaml.Printer
import SchemaCheck.Yaml.Scalar
import SchemaCheck.Yaml.Shaped
import SchemaCheck.Yaml.Token
import SchemaCheck.Yaml.Token.Name
import SchemaCheck.Yaml.Token.Scalar
import SchemaCheck.Yaml.Token.Stream
import SchemaCheck.Proofs.Coercion.Idempotence
import SchemaCheck.Proofs.Validation.Registration
import SchemaCheck.Proofs.Calendar.Civil
import SchemaCheck.Proofs.Coercion.Places
import SchemaCheck.Proofs.Text.Scan
import SchemaCheck.Proofs.Calendar.Timestamp
import SchemaCheck.Proofs.Calendar.LeapSecond
import SchemaCheck.Proofs.Calendar.SignedYear
import SchemaCheck.Proofs.Coercion.DateTime
import SchemaCheck.Proofs.Base64
import SchemaCheck.Proofs.Coercion.Bytes
import SchemaCheck.Proofs.Calendar.Seconds
import SchemaCheck.Proofs.Calendar.DateText
import SchemaCheck.Proofs.Coercion.Date
import SchemaCheck.Proofs.Duration.Amounts
import SchemaCheck.Proofs.Duration.Rendering
import SchemaCheck.Proofs.Duration.Layouts
import SchemaCheck.Proofs.Coercion.Duration
import SchemaCheck.Proofs.Text.Run
import SchemaCheck.Proofs.Text.Hex
import SchemaCheck.Proofs.Net.Ip
import SchemaCheck.Proofs.Net.Hostname
import SchemaCheck.Proofs.Net.Email
import SchemaCheck.Proofs.Net.Url
import SchemaCheck.Proofs.Uuid
import SchemaCheck.Proofs.Coercion.Ip
import SchemaCheck.Proofs.Coercion.Email
import SchemaCheck.Proofs.Coercion.Uuid
import SchemaCheck.Proofs.Coercion.Url
import SchemaCheck.Proofs.Number.Nearest
import SchemaCheck.Proofs.Validation.Bounds
import SchemaCheck.Proofs.Coercion.Numeral
import SchemaCheck.Proofs.Json.Plain
import SchemaCheck.Proofs.Json.Extent
import SchemaCheck.Proofs.Coercion.Json
import SchemaCheck.Proofs.Unicode.CharSet
import SchemaCheck.Proofs.Pattern.Matching
import SchemaCheck.Proofs.Pattern.Spelling
import SchemaCheck.Proofs.Validation.Format
import SchemaCheck.Proofs.Validation.Uri
import SchemaCheck.Proofs.Number.Distance
import SchemaCheck.Proofs.Coercion.Kind
import SchemaCheck.Proofs.Coercion.NumberText
import SchemaCheck.Proofs.Json.Shape
import SchemaCheck.Proofs.Json.Behind
import SchemaCheck.Proofs.Json.Word
import SchemaCheck.Proofs.Net.JsonText
import SchemaCheck.Proofs.Duration.JsonText
import SchemaCheck.Proofs.Coercion.JsonText
import SchemaCheck.Proofs.Validation.Path
import SchemaCheck.Proofs.Validation.DateTime
import SchemaCheck.Proofs.Validation.ErrorPlace
import SchemaCheck.Proofs.Commands.Coerce
import SchemaCheck.Proofs.Validation.Restoration
