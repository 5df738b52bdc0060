import OutboxRelay.Action.Json
import OutboxRelay.Config
import OutboxRelay.Downstream.Remote
import OutboxRelay.Http.Scripted
import OutboxRelay.Simulation.Script
import OutboxRelay.Simulation.Service
import OutboxRelay.Proofs.Outbox.Shared
import OutboxRelay.Proofs.Program
import OutboxRelay.Proofs.Dispatch.Course
import OutboxRelay.Proofs.Dispatch.Fleet
import OutboxRelay.Proofs.Dispatch.Accounts
import OutboxRelay.Proofs.Dispatch.Delivery
import OutboxRelay.Proofs.Dispatch.Exclusion
import OutboxRelay.Proofs.Dispatch.Smooth
import OutboxRelay.Proofs.Dispatch.Sharing
import OutboxRelay.Proofs.Downstream.Registry
import OutboxRelay.Proofs.Replay.Effect
import OutboxRelay.Proofs.Replay.Clean
import OutboxRelay.Proofs.Dispatch.Convergence
import OutboxRelay.Proofs.Dispatch.Attendance
import OutboxRelay.Proofs.Dispatch.Solitary
import OutboxRelay.Proofs.Store.Database
import OutboxRelay.Proofs.Dispatch.Traffic
import OutboxRelay.Proofs.Dispatch.CommitOrder
import OutboxRelay.Proofs.Json.Grammar
import OutboxRelay.Proofs.Text.Utf8
import OutboxRelay.Proofs.Json.Quotation
import OutboxRelay.Proofs.Json.Literal
import OutboxRelay.Proofs.Json.Skip
import OutboxRelay.Proofs.Json.Denotation
import OutboxRelay.Proofs.Json.Row
import OutboxRelay.Proofs.Json.Record
import OutboxRelay.Proofs.Json.Decimal
import OutboxRelay.Proofs.Json.Escaping
import OutboxRelay.Proofs.Json.Print
import OutboxRelay.Proofs.Event.Payload
import OutboxRelay.Proofs.Json.Value
import OutboxRelay.Proofs.Json.Members
import OutboxRelay.Proofs.Json.Normal
import OutboxRelay.Proofs.Number.Binary64
import OutboxRelay.Proofs.Number.Shortest
import OutboxRelay.Proofs.Json.Lexeme
import OutboxRelay.Proofs.Json.Sound
import OutboxRelay.Proofs.Json.Skipped
import OutboxRelay.Proofs.Json.Accepted
import OutboxRelay.Proofs.Json.Place
import OutboxRelay.Proofs.Admin.Request
import OutboxRelay.Proofs.Event.Normal
import OutboxRelay.Proofs.Replay.Readable
import OutboxRelay.Proofs.Store.Publish
import OutboxRelay.Proofs.Admin.Append
import OutboxRelay.Proofs.Dispatch.Limit
import OutboxRelay.Proofs.Dispatch.Compaction
import OutboxRelay.Proofs.Dispatch.Reconciliation
import OutboxRelay.Proofs.History
import OutboxRelay.Proofs.Broker
import OutboxRelay.Proofs.Dispatch.Wake
import OutboxRelay.Proofs.Dispatch.Watch
import OutboxRelay.Proofs.Dispatch.Signal
import OutboxRelay.Proofs.Dispatch.Probe
import OutboxRelay.Proofs.Dispatch.Rate
import OutboxRelay.Proofs.Dispatch.Window
import OutboxRelay.Proofs.Store.Steady
import OutboxRelay.Proofs.Store.Chronicle
import OutboxRelay.Proofs.Store.Locks
import OutboxRelay.Proofs.Admin.Ledger
import OutboxRelay.Proofs.Text.Percent
import OutboxRelay.Proofs.Url.Segment
import OutboxRelay.Proofs.Url.Web
import OutboxRelay.Proofs.Downstream.Endpoint
import OutboxRelay.Proofs.Conversation
import OutboxRelay.Proofs.Replay.Conduct
import OutboxRelay.Proofs.Replay.Batch
import OutboxRelay.Proofs.Http.Redirection
import OutboxRelay.Proofs.Downstream.Acceptance
import OutboxRelay.Proofs.Replay.Removal
import OutboxRelay.Proofs.Downstream.Sending
import OutboxRelay.Proofs.Downstream.Authority
import OutboxRelay.Proofs.Text.Form
import OutboxRelay.Proofs.Downstream.Arguments
import OutboxRelay.Proofs.Json.Presentation
import OutboxRelay.Proofs.Event.Presentation
import OutboxRelay.Proofs.Dispatch.Performance
import OutboxRelay.Proofs.Dispatch.Shutdown
import OutboxRelay.Proofs.Number.Digits
import OutboxRelay.Proofs.Number.Integer
import OutboxRelay.Proofs.Config.Requirement
import OutboxRelay.Proofs.Config.Reading
