import SpanTelemetry.AttributeKey
import SpanTelemetry.Binary64.Basic
import SpanTelemetry.Binary64.Reading
import SpanTelemetry.Binary64.Shortest
import SpanTelemetry.Configuration
import SpanTelemetry.ConnectionString
import SpanTelemetry.Dependency
import SpanTelemetry.Exporter
import SpanTelemetry.Item.Attributes
import SpanTelemetry.Item.Basic
import SpanTelemetry.Item.Data
import SpanTelemetry.Item.Defaults
import SpanTelemetry.Item.Edit
import SpanTelemetry.Item.Envelope
import SpanTelemetry.Item.Operation
import SpanTelemetry.Item.TagKey
import SpanTelemetry.Json
import SpanTelemetry.Log
import SpanTelemetry.Mapper.Basic
import SpanTelemetry.Mapper.Delivery
import SpanTelemetry.Mapper.Dependency
import SpanTelemetry.Mapper.Event
import SpanTelemetry.Mapper.Metric
import SpanTelemetry.Mapper.Request
import SpanTelemetry.Mapping
import SpanTelemetry.PrefixTrie
import SpanTelemetry.Proofs.Attributes.Alike
import SpanTelemetry.Proofs.Attributes.Mistyped
import SpanTelemetry.Proofs.Binary64.Overflow
import SpanTelemetry.Proofs.Binary64.Rounding
import SpanTelemetry.Proofs.ConnectionString
import SpanTelemetry.Proofs.Export.Agreement
import SpanTelemetry.Proofs.Export.Batch
import SpanTelemetry.Proofs.Export.Initialization
import SpanTelemetry.Proofs.Export.Items
import SpanTelemetry.Proofs.Export.Recovery
import SpanTelemetry.Proofs.Export.Run
import SpanTelemetry.Proofs.Item.Attributes
import SpanTelemetry.Proofs.Item.Completion
import SpanTelemetry.Proofs.Item.Decoder
import SpanTelemetry.Proofs.Item.Edit
import SpanTelemetry.Proofs.Item.Envelope
import SpanTelemetry.Proofs.Json.Reader
import SpanTelemetry.Proofs.Json.Strings
import SpanTelemetry.Proofs.Json.Within
import SpanTelemetry.Proofs.Mapper.Alike
import SpanTelemetry.Proofs.Mapper.Builders
import SpanTelemetry.Proofs.Mapper.Correlation
import SpanTelemetry.Proofs.Mapper.Defaults
import SpanTelemetry.Proofs.Mapper.Delivery
import SpanTelemetry.Proofs.Mapper.Descriptions
import SpanTelemetry.Proofs.Mapper.Dimensions
import SpanTelemetry.Proofs.Mapper.Events
import SpanTelemetry.Proofs.Mapper.Initializers
import SpanTelemetry.Proofs.Mapper.Links
import SpanTelemetry.Proofs.Mapper.Measurement
import SpanTelemetry.Proofs.Mapper.Metric
import SpanTelemetry.Proofs.Mapper.Properties
import SpanTelemetry.Proofs.Mapper.Totality
import SpanTelemetry.Proofs.Mapper.TraceTree
import SpanTelemetry.Proofs.Mapping
import SpanTelemetry.Proofs.PrefixTrie
import SpanTelemetry.Proofs.Protocol.EmptyTarget
import SpanTelemetry.Proofs.Protocol.Family
import SpanTelemetry.Proofs.Protocol.HttpServer
import SpanTelemetry.Proofs.Protocol.Independence
import SpanTelemetry.Proofs.Protocol.Target
import SpanTelemetry.Proofs.Protocol.Written
import SpanTelemetry.Proofs.Role
import SpanTelemetry.Proofs.Sampling
import SpanTelemetry.Proofs.Sampling.Warnings
import SpanTelemetry.Proofs.Sink
import SpanTelemetry.Proofs.StackTrace.Line
import SpanTelemetry.Proofs.StackTrace.Reading
import SpanTelemetry.Proofs.StackTrace.Summary
import SpanTelemetry.Proofs.StackTrace.Traceback
import SpanTelemetry.Proofs.Table
import SpanTelemetry.Proofs.Text.Cut
import SpanTelemetry.Proofs.Text.FixedWidth
import SpanTelemetry.Proofs.Text.Lines
import SpanTelemetry.Proofs.Text.Numeral
import SpanTelemetry.Proofs.Text.Trim
import SpanTelemetry.Proofs.Time.Calendar
import SpanTelemetry.Proofs.Time.Clock
import SpanTelemetry.Proofs.Time.Duration
import SpanTelemetry.Proofs.Time.Timestamp
import SpanTelemetry.Proofs.Traversal
import SpanTelemetry.Proofs.Url.Disclosure
import SpanTelemetry.Proofs.Url.Endpoint
import SpanTelemetry.Proofs.Url.Spelling
import SpanTelemetry.Proofs.Url.Split
import SpanTelemetry.Proofs.Value.Text
import SpanTelemetry.Protocol.Database
import SpanTelemetry.Protocol.Http
import SpanTelemetry.Protocol.Messaging
import SpanTelemetry.Protocol.Peer
import SpanTelemetry.Quantity
import SpanTelemetry.Role
import SpanTelemetry.Sampling
import SpanTelemetry.Sink
import SpanTelemetry.Span
import SpanTelemetry.StackTrace
import SpanTelemetry.Table
import SpanTelemetry.Text.Basic
import SpanTelemetry.Text.Blank
import SpanTelemetry.Text.Case
import SpanTelemetry.Text.Case.Table
import SpanTelemetry.Text.Cut
import SpanTelemetry.Text.Digit
import SpanTelemetry.Text.Lines
import SpanTelemetry.Text.Numeral
import SpanTelemetry.Text.Printable
import SpanTelemetry.Text.Runs
import SpanTelemetry.Time.Calendar
import SpanTelemetry.Time.Duration
import SpanTelemetry.Time.Timestamp
import SpanTelemetry.Url.Basic
import SpanTelemetry.Url.Endpoint
import SpanTelemetry.Url.Host
import SpanTelemetry.Value.Basic
import SpanTelemetry.Value.Display
import SpanTelemetry.Value.Frozen
import SpanTelemetry.View
