import ScriptBench.Cancel.Token
import ScriptBench.Host.Party
import ScriptBench.Host.Session
import ScriptBench.Http.Client
import ScriptBench.Proofs.Call.Grammar
import ScriptBench.Proofs.Host.Failure
import ScriptBench.Proofs.Host.Replay
import ScriptBench.Proofs.Host.Separation
import ScriptBench.Proofs.Run.Statuses
import ScriptBench.Proofs.Shared.StoredForm
import ScriptBench.Run.Commands
import ScriptBench.Run.Rehearsal
import ScriptBench.Script.Declarations
import ScriptBench.Shared.Clients
import ScriptBench.Proofs.Host.Cancellation
import ScriptBench.Proofs.Json.Typed
import ScriptBench.Proofs.Report.Nesting
import ScriptBench.Proofs.Text.Moments
import ScriptBench.Proofs.Report.ReadBack
import ScriptBench.Proofs.Host.Growth
import ScriptBench.Proofs.Run.Chains
import ScriptBench.Proofs.Script.Endings
import ScriptBench.Proofs.Run.FirstFailure
import ScriptBench.Proofs.Report.Balanced
import ScriptBench.Proofs.Script.Stages
import ScriptBench.Proofs.Script.Parking
import ScriptBench.Proofs.Script.Brackets
import ScriptBench.Proofs.Host.Channels
import ScriptBench.Proofs.Report.Diagnostics
import ScriptBench.Proofs.Report.Openings
import ScriptBench.Proofs.Run.Gathering
import ScriptBench.Proofs.Run.Progress
import ScriptBench.Proofs.Run.Reports
import ScriptBench.Proofs.Run.Events
import ScriptBench.Proofs.Host.Environment
import ScriptBench.Proofs.Json.Canonical
import ScriptBench.Proofs.Http.Responses
import ScriptBench.Proofs.Host.Sleeping
import ScriptBench.Proofs.Script.Unset
import ScriptBench.Proofs.Run.OwnErrors
import ScriptBench.Proofs.Shared.Abandonment
import ScriptBench.Proofs.Shared.Locality
import ScriptBench.Proofs.Host.Assertions
import ScriptBench.Proofs.Host.Bookkeeping
import ScriptBench.Proofs.Cancel.Waiters
import ScriptBench.Proofs.Url.Queries
import ScriptBench.Proofs.Run.CancelledWaits
import ScriptBench.Proofs.Shared.Doubles
import ScriptBench.Proofs.Http.Sending
import ScriptBench.Proofs.Script.Bindings
