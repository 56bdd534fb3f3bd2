import MailGateway.App
import MailGateway.Binary64.Basic
import MailGateway.Binary64.Numeral
import MailGateway.Binary64.Shortest
import MailGateway.Client
import MailGateway.CommandLine.Completion
import MailGateway.CommandLine.Help
import MailGateway.CommandLine.Parse
import MailGateway.CommandLine.Spec
import MailGateway.CommandLine.UsageError
import MailGateway.Config.Layer
import MailGateway.Config.Load
import MailGateway.Config.Path
import MailGateway.Config.Settings
import MailGateway.Config.Value
import MailGateway.Curve.Edwards
import MailGateway.Curve.Repeat
import MailGateway.Curve.Weierstrass
import MailGateway.Duration.Basic
import MailGateway.Duration.Text
import MailGateway.Duration.Units
import MailGateway.Files.Tree
import MailGateway.Grpc.Call
import MailGateway.Grpc.Code
import MailGateway.Grpc.Frame
import MailGateway.Hash.Sha512
import MailGateway.Hash.Shake
import MailGateway.Http.Header
import MailGateway.Http.MediaType
import MailGateway.Http.Message
import MailGateway.Http.Percent
import MailGateway.Http.Target
import MailGateway.Http.Uri
import MailGateway.Json.Document
import MailGateway.Json.Fault
import MailGateway.Json.Number
import MailGateway.Json.Quote
import MailGateway.Json.Record
import MailGateway.Json.Skip
import MailGateway.Lattice.Packing
import MailGateway.Lattice.Ring
import MailGateway.Lattice.Signing
import MailGateway.Log.Event
import MailGateway.Log.Filter
import MailGateway.Log.Line
import MailGateway.Log.Pattern
import MailGateway.Mail.Message
import MailGateway.Main
import MailGateway.Metrics.Exposition
import MailGateway.Metrics.Recorder
import MailGateway.Metrics.Registry
import MailGateway.Metrics.Series
import MailGateway.Metrics.Slot
import MailGateway.Net.Address
import MailGateway.Net.Lookup
import MailGateway.Net.Resolve
import MailGateway.Numbers
import MailGateway.Program
import MailGateway.Proofs.App.Conservation
import MailGateway.Proofs.App.Dispatch
import MailGateway.Proofs.App.Echo
import MailGateway.Proofs.App.Headers
import MailGateway.Proofs.App.Observers
import MailGateway.Proofs.App.Page
import MailGateway.Proofs.App.Step
import MailGateway.Proofs.App.Verdict
import MailGateway.Proofs.App.Versions
import MailGateway.Proofs.Client.Conversation
import MailGateway.Proofs.Client.Encryption
import MailGateway.Proofs.Config.Environment
import MailGateway.Proofs.Config.Fields
import MailGateway.Proofs.Config.Layers
import MailGateway.Proofs.Config.Precedence
import MailGateway.Proofs.Files.Steps
import MailGateway.Proofs.Grpc.Frames
import MailGateway.Proofs.Grpc.Status
import MailGateway.Proofs.Http.MediaTypes
import MailGateway.Proofs.Json.Lines
import MailGateway.Proofs.Json.RoundTrip
import MailGateway.Proofs.Metrics.Counts
import MailGateway.Proofs.Metrics.Samples
import MailGateway.Proofs.Outcome
import MailGateway.Proofs.Program.Replies
import MailGateway.Proofs.Protobuf.Canonical
import MailGateway.Proofs.Server.Stages
import MailGateway.Proofs.Text.Separator
import MailGateway.Proofs.Text.Utf8
import MailGateway.Protobuf.Record
import MailGateway.Protobuf.Varint
import MailGateway.Rest.Assets
import MailGateway.Rest.Gateway
import MailGateway.Rest.OpenApi
import MailGateway.Rest.Routes
import MailGateway.Server.Startup
import MailGateway.Telemetry
import MailGateway.Text.Alphanumeric
import MailGateway.Text.Base64
import MailGateway.Text.Cased
import MailGateway.Text.Hidden
import MailGateway.Text.Lower
import MailGateway.Text.Numeral
import MailGateway.Text.Octets
import MailGateway.Text.Quoted
import MailGateway.Text.Ranges
import MailGateway.Text.Slice
import MailGateway.Text.Space
import MailGateway.Text.Utf8
import MailGateway.Tls.Certificate
import MailGateway.Tls.Der
import MailGateway.Tls.Key
import MailGateway.Tls.KeyPair
import MailGateway.Tls.Pem
import MailGateway.Tls.ServerName
import MailGateway.Trace.Context
import MailGateway.Trace.Span
import MailGateway.Yaml.Cursor
import MailGateway.Yaml.Event
import MailGateway.Yaml.Node
import MailGateway.Yaml.Scalar
import MailGateway.Yaml.Token
import MailGateway.Yaml.Tokens
import MailGateway.Proofs.Metrics.WellFormed
import MailGateway.Proofs.Json.Grammar
import MailGateway.Proofs.Json.Tokens
import MailGateway.Proofs.Json.Strings
import MailGateway.Proofs.Json.Skipping
import MailGateway.Proofs.Json.Records
import MailGateway.Proofs.Text.Hexadecimal
import MailGateway.Proofs.Trace.Parent
import MailGateway.Proofs.App.Traces
import MailGateway.Proofs.Config.Override
import MailGateway.Proofs.App.Posts
import MailGateway.Proofs.Http.Targets
import MailGateway.Proofs.App.Naming
import MailGateway.Proofs.App.Routing
import MailGateway.Proofs.Duration.Counts
import MailGateway.Proofs.Config.GracePeriod
import MailGateway.Proofs.CommandLine.Options
import MailGateway.Proofs.CommandLine.Orders
import MailGateway.Proofs.Yaml.Words
import MailGateway.Proofs.Yaml.OneSetting
import MailGateway.Proofs.Trace.Observations
import MailGateway.Proofs.Text.Numerals
import MailGateway.Proofs.Config.Variable
import MailGateway.Proofs.CommandLine.Ports
import MailGateway.Proofs.Protobuf.Grammar
import MailGateway.Proofs.App.Payloads
import MailGateway.Proofs.Net.Quads
import MailGateway.Proofs.Net.Groups
import MailGateway.Proofs.Net.Sockets
import MailGateway.Proofs.Server.Listening
import MailGateway.Proofs.Trace.Statuses
import MailGateway.Proofs.Config.Switches
import MailGateway.Proofs.App.Heads
import MailGateway.Proofs.Metrics.Process
import MailGateway.Proofs.Binary64.Texts
import MailGateway.Proofs.Metrics.Lines
import MailGateway.Proofs.Metrics.Values
