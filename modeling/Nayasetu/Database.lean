import Nayasetu.Collections.Table
import Nayasetu.Credential.Policy
import Nayasetu.Intake.Eligibility
import Nayasetu.Scheduling.BookingState
import Nayasetu.Settlement.QuoteMoney

/-!
# The database

The tables of the schema as lists of rows, oldest row first, with the columns the modelled code
reads or writes. Identifiers and identity columns are numbers drawn from one sequence; times are
microseconds; amounts of money are in hundredths. Checks the schema makes on a single row are
decidable predicates of the row.

## What a row keeps

A column that no modelled statement reads, writes or checks is left out, and so is a table of
which that is true of all columns. `NULL` is `none`. A state is an inductive type with the values
its check constraint allows, so that no row with another value can be written down; a column whose
values come from the configuration of a deployment stays a text.

## What a table is

Nothing here says that identifiers are distinct or that references lead somewhere: the keys are
looked up in the list, and that a committed database has them distinct is an invariant of the runs
and proved as one. The order of the rows is that of their insertion, which no query may rely on:
where a query has no `ORDER BY`, the model lets the environment choose.
-/

namespace Nayasetu

open Values Collections

/-- The roles an actor can have. -/
inductive Role where
  | citizen
  | provider
  | operator
  | institution
  | admin
  deriving DecidableEq, Repr

/-- A row of `role_grant`. -/
structure RoleGrant where
  userId : ℕ
  role : Role
  scope : String
  deriving DecidableEq, Repr

/-- A row of `provider`. -/
structure Provider where
  id : ℕ
  userId : ℕ
  providerType : String
  displayName : String
  district : String
  languages : List String
  serviceModes : List String
  status : String
  tier : VerificationTier
  tierDecidedAt : Option ℤ
  tierExpiresAt : Option ℤ
  deriving DecidableEq, Repr

/-- `provider_fully_verified_expiry_check`. -/
def Provider.FullyVerifiedExpiryCheck (provider : Provider) : Prop :=
  provider.tier ≠ .fullyVerified ∨
    ∃ decidedAt ∈ provider.tierDecidedAt, ∃ expiresAt ∈ provider.tierExpiresAt,
    decidedAt < expiresAt

/-- The states of a verification case. -/
inductive CaseStatus where
  | reviewRequired
  | decided
  | superseded
  deriving DecidableEq, Repr

/-- A row of `verification_case`. -/
structure VerificationCase where
  id : ℕ
  providerId : ℕ
  status : CaseStatus
  tierOutcome : Option VerificationTier
  submittedAt : ℤ
  decidedAt : Option ℤ
  decidedBy : Option ℕ
  policyVersion : Option String
  policySnapshot : Option Jsonb
  decisionReasons : List String
  tierExpiresAt : Option ℤ

/-- `verification_case_expiry_tier_check` and `verification_case_decision_shape_check`. -/
def VerificationCase.DecisionShapeCheck (c : VerificationCase) : Prop :=
  (c.tierExpiresAt = none ∨ c.tierOutcome = some .fullyVerified) ∧
  ((c.status ≠ .decided ∧ c.tierOutcome = none ∧ c.decidedAt = none ∧ c.decidedBy = none ∧
      c.policyVersion = none ∧ c.policySnapshot.isNone ∧ c.decisionReasons = [] ∧
      c.tierExpiresAt = none) ∨
    (c.status = .decided ∧ c.tierOutcome ≠ none ∧ c.decidedBy ≠ none ∧ c.policyVersion ≠ none ∧
      c.policySnapshot.isSome ∧ c.decisionReasons ≠ [] ∧
      ∃ decidedAt ∈ c.decidedAt,
        (c.tierOutcome = some .fullyVerified ∧ ∃ expiresAt ∈ c.tierExpiresAt,
          decidedAt < expiresAt) ∨
        (c.tierOutcome ≠ some .fullyVerified ∧ c.tierExpiresAt = none)))

/-- A row of `verification_check`. -/
structure VerificationCheck where
  id : ℕ
  caseId : ℕ
  checkType : String
  sourceId : String
  sourceMode : CredentialCapabilityMode
  result : VerificationResult
  matchedFields : List String
  sourceRef : Option String
  validUntil : Option ℤ
  demoOnly : Bool
  checkedAt : ℤ
  recordedSequence : ℤ
  deriving DecidableEq, Repr

/-- A row of `credential_policy`. -/
structure CredentialPolicyRow where
  providerType : String
  version : String
  policySnapshot : Jsonb
  active : Bool

/-- A row of `operator_delegation`. -/
structure OperatorDelegation where
  id : ℕ
  operatorUserId : ℕ
  citizenUserId : ℕ
  endedAt : Option ℤ
  deriving DecidableEq, Repr

/-- A row of `institutional_roster_grant`. -/
structure InstitutionalRosterGrant where
  institutionUserId : ℕ
  rosterId : ℕ
  scope : String
  expiresAt : ℤ
  revokedAt : Option ℤ
  deriving DecidableEq, Repr

/-- A row of `provider_service`. -/
structure ProviderService where
  providerId : ℕ
  taxonomyCode : String
  feeMin : ℤ
  feeMax : ℤ
  proBonoAvailable : Bool
  deriving DecidableEq, Repr

/-- A row of `need_request`. -/
structure NeedRequest where
  id : ℕ
  citizenUserId : ℕ
  operatorDelegationId : Option ℕ
  taxonomyCode : String
  district : String
  language : String
  modePref : String
  feeCeiling : Option ℤ
  urgency : String
  channel : String
  createdAt : ℤ
  directoryProviderType : Option String
  directoryMinimumTier : Option VerificationTier
  directoryGeneratedAt : Option ℤ
  deriving DecidableEq, Repr

/-- A row of `eligibility_decision`. -/
structure EligibilityDecision where
  needRequestId : ℕ
  section12Category : Option String
  selfDeclared : Bool
  route : EligibilityRoute
  decidedAt : ℤ
  deriving DecidableEq, Repr

/-- A row of `roster`. -/
structure Roster where
  id : ℕ
  district : String
  taxonomyCode : String
  providerType : String
  minimumTier : Option VerificationTier
  deriving DecidableEq, Repr

/-- A row of `roster_membership`. -/
structure RosterMembership where
  rosterId : ℕ
  providerId : ℕ
  status : String
  capacity : ℤ
  activeMatters : ℤ
  lastAssignedAt : Option ℤ
  conflictBlocked : Bool
  deriving DecidableEq, Repr

/-- The primary key of a membership. -/
def RosterMembership.key (member : RosterMembership) : ℕ × ℕ := (member.rosterId, member.providerId)

/-- The checks of `roster_membership` on its counter. -/
def RosterMembership.ActiveMattersCheck (member : RosterMembership) : Prop :=
  0 ≤ member.activeMatters ∧ member.activeMatters ≤ member.capacity

instance (member : RosterMembership) : Decidable member.ActiveMattersCheck :=
  inferInstanceAs (Decidable (_ ∧ _))

/-- How an allocation came about. -/
inductive AllocationMode where
  | citizenChoice
  | rotation
  deriving DecidableEq, Repr

/-- The states of an allocation. -/
inductive AllocationStatus where
  | assigned
  | declined
  | cancelled
  | completed
  deriving DecidableEq, Repr

/-- A row of `allocation`. -/
structure Allocation where
  id : ℕ
  needRequestId : ℕ
  providerId : ℕ
  mode : AllocationMode
  rosterId : Option ℕ
  seed : Option String
  position : Option ℕ
  decidedAt : ℤ
  decidedBy : ℕ
  status : AllocationStatus
  endedAt : Option ℤ
  declineReason : Option String
  deriving DecidableEq, Repr

/-- What a directory row keeps of the provider it shows. -/
structure DirectoryProviderRow where
  providerId : ℕ
  displayName : String
  tier : VerificationTier
  languages : List String
  feeMin : ℤ
  feeMax : ℤ
  deriving DecidableEq, Repr

/-- A row of `directory_surface`. -/
structure DirectorySurface where
  needRequestId : ℕ
  providerId : ℕ
  position : ℕ
  seed : String
  surfacedCountSnapshot : ℤ
  providerSnapshot : DirectoryProviderRow
  filterSnapshot : String × VerificationTier
  deriving DecidableEq, Repr

/-- A row of `provider_surface_counter`. -/
structure ProviderSurfaceCounter where
  providerId : ℕ
  surfacedCount : ℤ
  deriving DecidableEq, Repr

/-- A row of `booking`; `slot` is a half-open range. -/
structure Booking where
  id : ℕ
  needRequestId : ℕ
  allocationId : ℕ
  providerId : ℕ
  citizenUserId : ℕ
  slot : ℤ × ℤ
  status : BookingStatus
  createdAt : ℤ
  updatedAt : ℤ
  deriving DecidableEq, Repr

/-- The states of a matter. -/
inductive MatterStatus where
  | opened
  | closed
  deriving DecidableEq, Repr

/-- A row of `matter`. -/
structure Matter where
  id : ℕ
  allocationId : ℕ
  providerId : ℕ
  citizenUserId : ℕ
  status : MatterStatus
  openedAt : ℤ
  closedAt : Option ℤ
  closeReason : Option String
  deriving DecidableEq, Repr

/-- A row of `payment_quote`. -/
structure PaymentQuote where
  id : ℕ
  matterId : ℕ
  providerId : ℕ
  amount : ℤ
  currency : String
  feeBreakdown : QuoteFeeBreakdown
  expiresAt : ℤ
  createdAt : ℤ
  deriving DecidableEq, Repr

/-- A row of `conduct_signal`. -/
structure ConductSignal where
  id : ℕ
  providerId : ℕ
  signalType : String
  value : Jsonb
  recordedAt : ℤ

/-- A row of `audit_event`. -/
structure AuditEvent where
  actorType : Role
  actorId : ℕ
  onBehalfOfUserId : Option ℕ
  delegationId : Option ℕ
  action : String
  entityType : String
  entityId : String
  beforeSummary : Option Jsonb
  afterSummary : Option Jsonb
  reasonCode : Option String
  requestId : String

/-- The committed contents of all tables. -/
structure Database where
  roleGrants : List RoleGrant := []
  providers : List Provider := []
  cases : List VerificationCase := []
  checks : List VerificationCheck := []
  policies : List CredentialPolicyRow := []
  auditEvents : List AuditEvent := []
  delegations : List OperatorDelegation := []
  rosterGrants : List InstitutionalRosterGrant := []
  services : List ProviderService := []
  needs : List NeedRequest := []
  decisions : List EligibilityDecision := []
  rosters : List Roster := []
  memberships : List RosterMembership := []
  allocations : List Allocation := []
  surfaces : List DirectorySurface := []
  counters : List ProviderSurfaceCounter := []
  bookings : List Booking := []
  matters : List Matter := []
  quotes : List PaymentQuote := []
  signals : List ConductSignal := []

namespace Database

variable (db : Database)

/-- The provider with an identifier. -/
def provider (id : ℕ) : Option Provider := lookupBy (·.id) id db.providers

/-- The case with an identifier. -/
def case (id : ℕ) : Option VerificationCase := lookupBy (·.id) id db.cases

def checksOf (caseId : ℕ) : List VerificationCheck := db.checks.filter (·.caseId = caseId)

/-- The need with an identifier. -/
def need (id : ℕ) : Option NeedRequest := lookupBy (·.id) id db.needs

/-- The eligibility decision of a need. -/
def decision (needRequestId : ℕ) : Option EligibilityDecision :=
  lookupBy (·.needRequestId) needRequestId db.decisions

def membership (key : ℕ × ℕ) : Option RosterMembership := lookupBy (·.key) key db.memberships

/-- The allocation with an identifier. -/
def allocation (id : ℕ) : Option Allocation := lookupBy (·.id) id db.allocations

/-- The booking with an identifier. -/
def booking (id : ℕ) : Option Booking := lookupBy (·.id) id db.bookings

/-- The matter with an identifier. -/
def matter (id : ℕ) : Option Matter := lookupBy (·.id) id db.matters

end Database

end Nayasetu
