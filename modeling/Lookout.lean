import Lookout.Agent.Cancellation
import Lookout.Agent.Channel
import Lookout.Agent.EventSource
import Lookout.Agent.Hub
import Lookout.Agent.Outbox
import Lookout.Agent.Session
import Lookout.Agent.Socket
import Lookout.Agent.Task
import Lookout.Agent.World
import Lookout.Config.Arguments
import Lookout.Config.Basic
import Lookout.Container.Event
import Lookout.Container.Framing
import Lookout.Container.Id
import Lookout.Container.Log
import Lookout.Container.Stats
import Lookout.Failure
import Lookout.Host.Metrics
import Lookout.Host.Temperature
import Lookout.Http.Api
import Lookout.Http.Authorization
import Lookout.Http.Message
import Lookout.Json.Decoder
import Lookout.Json.Fault
import Lookout.Json.Printer
import Lookout.Json.Reader
import Lookout.Json.Record
import Lookout.Json.Tree
import Lookout.Json.Value
import Lookout.Limits
import Lookout.Main
import Lookout.Net.SocketAddress
import Lookout.Number.Binary
import Lookout.Number.Decimal
import Lookout.Number.Shortest
import Lookout.Protocol.Envelope
import Lookout.Protocol.Message
import Lookout.Protocol.Stream
import Lookout.Rehearsal.Dialogue
import Lookout.Rehearsal.Listening
import Lookout.Rehearsal.Run
import Lookout.Rehearsal.Script
import Lookout.Rehearsal.Seen
import Lookout.Rehearsal.Stage
import Lookout.Task.Basic
import Lookout.Task.Clock
import Lookout.Task.LogFollower
import Lookout.Task.MetricsSampler
import Lookout.Task.StatsFeed
import Lookout.Task.StatsReader
import Lookout.Task.Ticker
import Lookout.Text.Blank
import Lookout.Text.Quoted
import Lookout.Text.Search
import Lookout.Text.Unprintable
import Lookout.Text.Utf8
import Lookout.Proofs.Framing.Portions
import Lookout.Proofs.Framing.Wire
import Lookout.Proofs.Agent.Change
import Lookout.Proofs.Agent.Steps
import Lookout.Proofs.Agent.Books
import Lookout.Proofs.Agent.Sound
import Lookout.Proofs.Agent.Ownership
import Lookout.Proofs.Agent.Registrations
import Lookout.Proofs.Agent.Caps
import Lookout.Proofs.Agent.Push
import Lookout.Proofs.Agent.Turn
import Lookout.Proofs.Agent.Journal
import Lookout.Proofs.Agent.Effect
import Lookout.Proofs.Agent.Closing
import Lookout.Proofs.Agent.Isolation
import Lookout.Proofs.Text.Utf8
import Lookout.Proofs.Json.Value
import Lookout.Proofs.Json.Record
import Lookout.Proofs.Json.Scalar
import Lookout.Proofs.Json.Text
import Lookout.Proofs.Json.Tree
import Lookout.Proofs.Json.Members
import Lookout.Proofs.Protocol.Envelope
import Lookout.Proofs.Protocol.Wire
import Lookout.Proofs.Protocol.Payload
import Lookout.Proofs.Agent.Reply
import Lookout.Proofs.Agent.Incident
import Lookout.Proofs.Agent.TaskTurn
import Lookout.Proofs.Agent.Course
import Lookout.Proofs.Task.Chronicle
import Lookout.Proofs.Task.Freshness
import Lookout.Proofs.Task.Feeding
import Lookout.Proofs.Framing.Parted
import Lookout.Proofs.Agent.Progress
import Lookout.Proofs.Task.Following
import Lookout.Proofs.Task.Faithful
import Lookout.Proofs.Task.Delivery
import Lookout.Proofs.Http.Refusal
import Lookout.Proofs.Agent.FanOut
import Lookout.Proofs.Agent.Channel
import Lookout.Proofs.Agent.Listening
import Lookout.Proofs.Agent.Reading
import Lookout.Proofs.Agent.Admission
import Lookout.Proofs.Framing.Ledger
import Lookout.Proofs.Agent.Conversation
import Lookout.Proofs.Agent.Undo
import Lookout.Proofs.Task.Lines
import Lookout.Proofs.Task.Sampling
import Lookout.Proofs.Task.Samples
import Lookout.Proofs.Text.Parts
import Lookout.Proofs.Http.Credential
import Lookout.Proofs.Framing.Line
import Lookout.Proofs.Json.Grammar
import Lookout.Proofs.Json.Parsing
import Lookout.Proofs.Json.Accepted
import Lookout.Proofs.Protocol.Rearranged
import Lookout.Proofs.Host.Temperature
import Lookout.Proofs.Container.Name
import Lookout.Proofs.Container.Event
import Lookout.Proofs.Protocol.Stream
import Lookout.Proofs.Text.Decoding
import Lookout.Proofs.Json.Spelling
import Lookout.Proofs.Container.Reference
import Lookout.Proofs.Task.Logbook
import Lookout.Proofs.Task.Snapshots
import Lookout.Proofs.Task.Periods
import Lookout.Proofs.Json.Lookup
import Lookout.Proofs.Json.Size
import Lookout.Proofs.Json.Kind
import Lookout.Proofs.Container.Sample
