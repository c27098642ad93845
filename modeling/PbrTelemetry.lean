import PbrTelemetry.Binary64
import PbrTelemetry.Binary64.Layout
import PbrTelemetry.Binary64.Scaling
import PbrTelemetry.Binary64.Shortest
import PbrTelemetry.Call
import PbrTelemetry.Cli.Arguments
import PbrTelemetry.Cli.LogFilter
import PbrTelemetry.Cli.Record
import PbrTelemetry.Cli.Run
import PbrTelemetry.Config
import PbrTelemetry.Config.File
import PbrTelemetry.Config.Reader
import PbrTelemetry.Config.Setting
import PbrTelemetry.Config.Writer
import PbrTelemetry.Connection
import PbrTelemetry.Connection.Address
import PbrTelemetry.Counter
import PbrTelemetry.Decode.Error
import PbrTelemetry.Decode.Flatten
import PbrTelemetry.Decode.Notification
import PbrTelemetry.Decode.Update
import PbrTelemetry.Duration
import PbrTelemetry.Json
import PbrTelemetry.Json.Parser
import PbrTelemetry.Json.Printer
import PbrTelemetry.Main
import PbrTelemetry.Message.Enumeration
import PbrTelemetry.Message.Notification
import PbrTelemetry.Message.Request
import PbrTelemetry.Message.Value
import PbrTelemetry.Path
import PbrTelemetry.Path.Text
import PbrTelemetry.Request
import PbrTelemetry.Session.Client
import PbrTelemetry.Session.Outcome
import PbrTelemetry.Session.Queue
import PbrTelemetry.Session.Receive
import PbrTelemetry.Session.State
import PbrTelemetry.Session.Step
import PbrTelemetry.Simulation
import PbrTelemetry.Status
import PbrTelemetry.Text.Alphanumeric
import PbrTelemetry.Text.Blank
import PbrTelemetry.Text.Cut
import PbrTelemetry.Text.Quoted
import PbrTelemetry.Text.Reader
import PbrTelemetry.Text.Shapeless
import PbrTelemetry.TextMap
import PbrTelemetry.Timestamp
import PbrTelemetry.Toml.Parser
import PbrTelemetry.Toml.Printer
import PbrTelemetry.Toml.Quote
import PbrTelemetry.Toml.Scalar
import PbrTelemetry.Toml.Tree
import PbrTelemetry.Toml.Value
import PbrTelemetry.Wire.Decode
import PbrTelemetry.Wire.Encode
import PbrTelemetry.Wire.Field
import PbrTelemetry.Wire.Merge
import PbrTelemetry.Wire.Varint
import PbrTelemetry.Proofs.Config.Saved
import PbrTelemetry.Proofs.Decode.Arrangement
import PbrTelemetry.Proofs.Decode.Encodings
import PbrTelemetry.Proofs.Decode.Exact
import PbrTelemetry.Proofs.Decode.Identity
import PbrTelemetry.Proofs.Decode.Leaves
import PbrTelemetry.Proofs.Decode.Listing
import PbrTelemetry.Proofs.Decode.Outcome
import PbrTelemetry.Proofs.Decode.Pointer
import PbrTelemetry.Proofs.Decode.Regular
import PbrTelemetry.Proofs.Decode.Scalars
import PbrTelemetry.Proofs.Json.Canonical
import PbrTelemetry.Proofs.Json.Number
import PbrTelemetry.Proofs.Path.Canonical
import PbrTelemetry.Proofs.Path.Delimited
import PbrTelemetry.Proofs.Path.Grammar
import PbrTelemetry.Proofs.Path.NormalForm
import PbrTelemetry.Proofs.Path.Segments
import PbrTelemetry.Proofs.Request.Configured
import PbrTelemetry.Proofs.Request.Subscriptions
import PbrTelemetry.Proofs.Session.After
import PbrTelemetry.Proofs.Session.Barrier
import PbrTelemetry.Proofs.Session.Calls
import PbrTelemetry.Proofs.Session.Checks
import PbrTelemetry.Proofs.Session.Effect
import PbrTelemetry.Proofs.Session.Failures
import PbrTelemetry.Proofs.Session.Frame
import PbrTelemetry.Proofs.Session.Inversion
import PbrTelemetry.Proofs.Session.Lock
import PbrTelemetry.Proofs.Session.Orderly
import PbrTelemetry.Proofs.Session.Outward
import PbrTelemetry.Proofs.Session.Progress
import PbrTelemetry.Proofs.Session.Quiet
import PbrTelemetry.Proofs.Session.Records
import PbrTelemetry.Proofs.Session.Refusals
import PbrTelemetry.Proofs.Session.Reopened
import PbrTelemetry.Proofs.Session.Requests
import PbrTelemetry.Proofs.Session.Run
import PbrTelemetry.Proofs.Session.Single
import PbrTelemetry.Proofs.Session.Slot
import PbrTelemetry.Proofs.Session.Superseded
import PbrTelemetry.Proofs.Session.TornDown
import PbrTelemetry.Proofs.Simulation.Run
import PbrTelemetry.Proofs.Simulation.Settled
import PbrTelemetry.Proofs.Text.Cut
import PbrTelemetry.Proofs.Text.Number
import PbrTelemetry.Proofs.Text.Utf8
import PbrTelemetry.Proofs.TextMap.Lookup
import PbrTelemetry.Proofs.Toml.Line
import PbrTelemetry.Proofs.Toml.Quote
import PbrTelemetry.Proofs.Toml.Scalar
import PbrTelemetry.Proofs.Toml.Tree
import PbrTelemetry.Proofs.Wire.Field
import PbrTelemetry.Proofs.Wire.Grammar
import PbrTelemetry.Proofs.Wire.Kinds
import PbrTelemetry.Proofs.Wire.Merge
import PbrTelemetry.Proofs.Wire.Path
import PbrTelemetry.Proofs.Wire.Request
import PbrTelemetry.Proofs.Wire.Response
import PbrTelemetry.Proofs.Wire.RoundTrip
import PbrTelemetry.Proofs.Wire.Undeclared
import PbrTelemetry.Proofs.Wire.Value
import PbrTelemetry.Proofs.Wire.Varint
