import Manifest.Governor.Gate
import Manifest.Governor.Spend
import Manifest.Governor.Trail
import Manifest.Governor.Redaction
import Manifest.Governor.Retries
import Manifest.Parity.Verdicts
import Manifest.Approvals
import Manifest.Runtime.Service
import Manifest.Runtime.Roles
import Manifest.Runtime.Continuation
import Manifest.Runtime.Dispatch
import Manifest.Runtime.Finality
import Manifest.Ledger.Verifier
import Manifest.Storage.FalseAlarm
import Manifest.Storage.Integrity
import Manifest.Storage.Rollback
import Manifest.Ledger.Usability
import Manifest.Ledger.Contention
import Manifest.Governor.Once
import Manifest.Runtime.Refusals
import Manifest.Runtime.GuidedJourney
import Manifest.Governor.Binding
import Manifest.Projections.Dashboard
import Manifest.Ledger.AppendOnly
import Manifest.Ledger.ReplayProtection
import Manifest.Ledger.Tampering
import Manifest.Storage.ApprovalReplays
import Manifest.Storage.FailClosed
import Manifest.Storage.Stores
import Manifest.Storage.RoundTrip
import Manifest.Api.Gates
import Manifest.Storage.Rehash
import Manifest.Runtime.Growth
