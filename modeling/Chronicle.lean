import Chronicle.Binary64.Basic
import Chronicle.Binary64.Shortest
import Chronicle.Binary64.Text
import Chronicle.Client.State
import Chronicle.Codec.Failure
import Chronicle.Codec.Read
import Chronicle.Core.Aggregate
import Chronicle.Core.Duration
import Chronicle.Core.Error
import Chronicle.Core.IdSource
import Chronicle.Core.Keyed
import Chronicle.Event.Envelope
import Chronicle.Event.Kind
import Chronicle.Event.Message
import Chronicle.Event.Meta
import Chronicle.Event.Subscribers
import Chronicle.Journal.Entry
import Chronicle.Journal.Store
import Chronicle.Json.Parse
import Chronicle.Json.Render
import Chronicle.Json.Value
import Chronicle.Listing.Basic
import Chronicle.Main
import Chronicle.Node
import Chronicle.Proofs.Core.FreshIds
import Chronicle.Proofs.Codec.Entries
import Chronicle.Proofs.Codec.Records
import Chronicle.Proofs.Text.Calendar
import Chronicle.Proofs.Text.Timestamp
import Chronicle.Proofs.Text.Uuid
import Chronicle.Record.Basic
import Chronicle.Record.Command
import Chronicle.Record.Envelope
import Chronicle.Record.Rules
import Chronicle.Session.Alias
import Chronicle.Session.Answer
import Chronicle.Session.Console
import Chronicle.Session.Decisions
import Chronicle.Session.Documents
import Chronicle.Session.Misc
import Chronicle.Session.Request
import Chronicle.Session.Shapes
import Chronicle.Session.System
import Chronicle.Session.Units
import Chronicle.Text.Blank
import Chronicle.Text.GraphemeExtend
import Chronicle.Text.Printable
import Chronicle.Text.Timestamp
import Chronicle.Text.Uuid
import Chronicle.Unit.Config
import Chronicle.Unit.Core
import Chronicle.Unit.Stash
import Chronicle.User.Permission
import Chronicle.User.State
import Chronicle.World.Accumulator
import Chronicle.World.Entity
import Chronicle.World.Keeper
import Chronicle.World.Listing
import Chronicle.World.Message
import Chronicle.World.Registry
import Chronicle.World.Schedule
import Chronicle.World.State
import Chronicle.World.Supervisor
import Chronicle.Proofs.Journal.Log
import Chronicle.Proofs.Unit.Replay
import Chronicle.Proofs.Unit.Kinds
import Chronicle.Proofs.Unit.Life
import Chronicle.Proofs.Unit.Conflict
import Chronicle.Proofs.Record.Lifecycle
import Chronicle.Proofs.World.Frame
import Chronicle.Proofs.World.Pipeline
import Chronicle.Proofs.World.SharedLog
import Chronicle.Proofs.World.SupervisorFrame
import Chronicle.Proofs.World.Registration
import Chronicle.Proofs.World.SupervisorSteps
import Chronicle.Proofs.World.Routing
import Chronicle.Proofs.World.Reboot
import Chronicle.Proofs.Listing.Convergence
import Chronicle.Proofs.Unit.Foreign
import Chronicle.Proofs.World.AccumulatorSteps
import Chronicle.Proofs.World.Accumulator
import Chronicle.Proofs.World.Discovery
import Chronicle.Proofs.Journal.Calls
import Chronicle.Proofs.Unit.Snapshots
import Chronicle.Proofs.World.Parking
import Chronicle.Proofs.Codec.Envelopes
import Chronicle.Proofs.Event.Subscribers
import Chronicle.Proofs.Record.Deleted
import Chronicle.Proofs.World.ArrivalOrder
import Chronicle.Proofs.World.ListQueue
import Chronicle.Proofs.Unit.Backoff
