import Nayasetu.Credential.Conflicts
import Nayasetu.Credential.Reported
import Nayasetu.Credential.Authority
import Nayasetu.Access
import Nayasetu.Credential.Revalidation
import Nayasetu.Engagement.Discipline
import Nayasetu.Engagement.Safety
import Nayasetu.Values.Calendar
import Nayasetu.Ledger.Verification
import Nayasetu.Intake.WorkerVisibility
import Nayasetu.Engagement.Contention
import Nayasetu.Engagement.Replay
import Nayasetu.Credential.TierLaws
import Nayasetu.Credential.PolicyAgreement
import Nayasetu.Intake.Routing
import Nayasetu.Settlement.BreakdownCheck
import Nayasetu.RowLock.Recording
import Nayasetu.Engagement.DutyRuns
import Nayasetu.Engagement.Evenness
import Nayasetu.Intake.RotationRuns
import Nayasetu.Scheduling.Triggers
import Nayasetu.Engagement.StateGraph
import Nayasetu.Engagement.ReplayRuns
import Nayasetu.Connections
import Nayasetu.Settlement.Canonicalization
import Nayasetu.Identity.OAuthState
import Nayasetu.Values.JsonText
import Nayasetu.Configuration
import Nayasetu.Intake.Redaction
import Nayasetu.Identity.Attribution
import Nayasetu.Identity.Closing
import Nayasetu.Values.JsonWriter
import Nayasetu.Ledger.EvidenceSafety
