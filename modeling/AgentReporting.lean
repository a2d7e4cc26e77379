import AgentReporting.Address
import AgentReporting.Console
import AgentReporting.Kit.Drivers
import AgentReporting.Record.Driving
import AgentReporting.Record.Faults
import AgentReporting.Record.Writing
import AgentReporting.Scripted.Links
import AgentReporting.Scripted.Posting
import AgentReporting.Scripted.Record
import AgentReporting.Value.Marked
import AgentReporting.Proofs.Entries
import AgentReporting.Proofs.Json.Encoding
import AgentReporting.Proofs.Json.Tokens
import AgentReporting.Proofs.Json.Fractions
import AgentReporting.Proofs.Json.RoundTrip
import AgentReporting.Proofs.Json.Sorting
import AgentReporting.Proofs.Recorder.Moment
import AgentReporting.Proofs.Recorder.Inquiry
import AgentReporting.Proofs.Recorder.Book
import AgentReporting.Proofs.Recorder.Shown
import AgentReporting.Proofs.Recorder.Filing
import AgentReporting.Proofs.Recorder.History
import AgentReporting.Proofs.Recorder.Unseen
import AgentReporting.Proofs.Recorder.Masking
import AgentReporting.Proofs.Recorder.LastAttempts
import AgentReporting.Proofs.Recorder.Periods
import AgentReporting.Proofs.Recorder.Journal
import AgentReporting.Proofs.Recorder.Switching
import AgentReporting.Proofs.Recorder.Quitting
import AgentReporting.Proofs.Recorder.Boundaries
import AgentReporting.Proofs.Recorder.Requitting
import AgentReporting.Proofs.Recorder.Direct
import AgentReporting.Proofs.Recorder.Outcome
import AgentReporting.Proofs.Recorder.Secrecy
import AgentReporting.Proofs.Recorder.Keys
import AgentReporting.Proofs.Recorder.Sparing
import AgentReporting.Proofs.Outbox.Posting
import AgentReporting.Proofs.Outbox.Shift
import AgentReporting.Proofs.Outbox.Order
import AgentReporting.Proofs.Outbox.GivingUp
import AgentReporting.Proofs.Outbox.Batching
import AgentReporting.Proofs.Outbox.Enduring
import AgentReporting.Proofs.Outbox.Ledger
import AgentReporting.Proofs.Outbox.Accepting
import AgentReporting.Proofs.Kit.Keeping
import AgentReporting.Proofs.Kit.Renewal
import AgentReporting.Proofs.Kit.Demands
import AgentReporting.Proofs.Kit.Identity
import AgentReporting.Proofs.Kit.Requests
import AgentReporting.Proofs.Kit.Connection
import AgentReporting.Proofs.Kit.Hooks
import AgentReporting.Proofs.Kit.Departing
import AgentReporting.Proofs.Kit.Escaping
import AgentReporting.Proofs.Kit.Handshake
import AgentReporting.Proofs.Kit.Taxonomy
import AgentReporting.Proofs.Kit.Continuing
import AgentReporting.Proofs.Kit.Peering
import AgentReporting.Proofs.Connection.Calls
import AgentReporting.Proofs.Connection.Orders
import AgentReporting.Proofs.Connection.Traffic
import AgentReporting.Proofs.Responses.Passing
import AgentReporting.Proofs.Responses.Bodies
import AgentReporting.Proofs.Text.Cuts
import AgentReporting.Proofs.Naming.NodeIds
import AgentReporting.Proofs.Naming.GivenNames
import AgentReporting.Proofs.Naming.HiddenFrames
import AgentReporting.Proofs.Kit.Sessions
import AgentReporting.Proofs.Kit.Reuse
import AgentReporting.Proofs.Addon.Outputs
import AgentReporting.Proofs.Addon.Failing
import AgentReporting.Proofs.Shutdown
import AgentReporting.Proofs.Versions
