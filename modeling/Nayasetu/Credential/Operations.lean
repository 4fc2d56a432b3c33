import Nayasetu.Credential.FinalizeCorrect
import Nayasetu.Transaction

/-!
# The operations on verification cases

Every transaction that writes providers' tiers, verification cases, checks or policies, statement
by statement and with the locks each statement takes. `credentialProgram` is the program a request
runs.

## Statements

A program is a sequence of statements, and another session may run between any two of them. Each
definition follows the order of the source, so that the order in which locks are taken can be read
off. A statement that reads without a lock is a `snapshot` of what is committed by then.

## Time

`now` of a transaction is read once by the database, at its beginning; `new Date()` is read by the
process, whenever the code does so. The two are different reads here, and the second one may be
older than what other sessions have committed since.
-/

namespace Nayasetu

open Values RowLock Collections

/-! ## Tables

What a statement reads and what it writes, on the tables of this part.
-/

namespace Database

def activePolicy (db : Database) (providerType : String) : Option CredentialPolicyRow :=
  db.policies.find? fun row ↦ row.providerType = providerType && row.active

/-- `status = 'REVIEW_REQUIRED' AND decided_at IS NULL`. -/
def activeCases (db : Database) (providerId : ℕ) : List VerificationCase :=
  db.cases.filter fun c ↦ c.providerId = providerId && c.status = .reviewRequired &&
    c.decidedAt.isNone

/-- Replace the case with the same identifier. -/
def updateCase (row : VerificationCase) (db : Database) : Database :=
  { db with cases := replaceBy (·.id) row db.cases }

/-- Replace the provider with the same identifier. -/
def updateProvider (row : Provider) (db : Database) : Database :=
  { db with providers := replaceBy (·.id) row db.providers }

def insertCase (row : VerificationCase) (db : Database) : Database :=
  { db with cases := db.cases ++ [row] }

def insertCheck (row : VerificationCheck) (db : Database) : Database :=
  { db with checks := db.checks ++ [row] }

end Database

instance (provider : Provider) : Decidable provider.FullyVerifiedExpiryCheck :=
  inferInstanceAs (Decidable (_ ∨ _))

instance (c : VerificationCase) : Decidable c.DecisionShapeCheck :=
  inferInstanceAs (Decidable (_ ∧ _))

/-- `INSERT INTO verification_check`; the identifier of the new row. -/
def insertVerificationCheck (row : ℕ → ℤ → VerificationCheck) : Tx ℕ := do
  let id ← nextval
  let recordedSequence ← nextval
  let check := row id recordedSequence
  ensureText (check.checkType :: check.sourceId :: check.sourceRef.toList)
  write (Database.insertCheck check)
  return id

/-- `loadActiveCredentialPolicy`. -/
def loadActiveCredentialPolicy (providerType : String) : Tx CredentialTierPolicy := do
  match (← snapshot).activePolicy providerType with
  | none =>
    throw (.error ("Active credential policy is not configured for '" ++ providerType ++ "'"))
  | some row =>
    let policy ← fromExcept (parseCredentialTierPolicy row.policySnapshot)
    ensure (policy.providerType = providerType ∧ policy.version = row.version)
      (.error "Credential policy registry metadata does not match its immutable snapshot")
    return policy

/-- `SELECT … FROM verification_case WHERE id AND provider_id AND status = 'REVIEW_REQUIRED' AND
decided_at IS NULL FOR UPDATE`. -/
def selectActiveCase (caseId providerId : ℕ) : Tx (Option VerificationCase) :=
  selectForUpdate (.verificationCase caseId) fun db ↦ (db.case caseId).filter fun c ↦
    c.providerId = providerId && c.status = .reviewRequired && c.decidedAt.isNone

/-! ## Manual review

A reviewer adds a check from a source the policy declares as manual, to a case that is still open.
-/

/-- What a reviewer submits. Times are milliseconds. -/
structure ManualCredentialCheckInput where
  providerId : ℕ
  verificationCaseId : ℕ
  checkType : String
  sourceId : String
  result : VerificationResult
  reviewReference : String
  validUntil : Option ℤ
  reviewedAt : Option ℤ

/-- The text of a result. -/
def VerificationResult.text : VerificationResult → String
  | .pass => "PASS"
  | .mismatch => "MISMATCH"
  | .notFound => "NOT_FOUND"
  | .conflict => "CONFLICT"
  | .unavailable => "UNAVAILABLE"

/-- The policy lets a reviewer fill this leg from this source. -/
def CredentialTierPolicy.PermitsManualReview (policy : CredentialTierPolicy)
    (checkType sourceId : String) : Prop :=
  (policy.sources.find? (·.sourceId = sourceId)).map (·.evidenceKind) = some .manualDocument ∧
    ((policy.requiredDocumentLegs.find? fun leg ↦
        leg.checkType = checkType && sourceId ∈ leg.allowedSourceIds) ≠ none ∨
      (policy.identityConsistencyLeg.checkType = checkType ∧
        sourceId ∈ policy.identityConsistencyLeg.allowedSourceIds))

instance (policy : CredentialTierPolicy) (checkType sourceId : String) :
    Decidable (policy.PermitsManualReview checkType sourceId) :=
  inferInstanceAs (Decidable (_ ∧ _))

/-- The row of a review, with the numbers drawn for it. -/
def ManualCredentialCheckInput.row (input : ManualCredentialCheckInput) (reviewedAt : ℤ) (id : ℕ)
    (recordedSequence : ℤ) : VerificationCheck where
  id := id
  caseId := input.verificationCaseId
  checkType := input.checkType
  sourceId := input.sourceId
  sourceMode := .live
  result := input.result
  matchedFields := []
  sourceRef := some input.reviewReference
  validUntil := input.validUntil.map (1000 * ·)
  demoOnly := false
  checkedAt := 1000 * reviewedAt
  recordedSequence := recordedSequence

/-- The transaction of `recordManualCredentialCheck`. -/
def recordManualInTransaction (actor : ActorContext) (input : ManualCredentialCheckInput)
    (reviewedAt : ℤ) : Tx (ℕ × ℕ) := do
  match ← selectForUpdate (.provider input.providerId) (·.provider input.providerId) with
  | none => throw (.error "Provider was not found for manual review")
  | some provider =>
    let policy ← loadActiveCredentialPolicy provider.providerType
    ensure (policy.PermitsManualReview input.checkType input.sourceId)
      (.error "Credential policy does not permit manual review for this credential leg")
    match ← selectActiveCase input.verificationCaseId input.providerId with
    | none => throw (.error "Verification case was not found for provider")
    | some _ =>
      let checkId ← insertVerificationCheck (input.row reviewedAt)
      writeAudit actor
        { action := "verification.manual_review_recorded"
          entityType := "verification_check"
          entityId := uuidText checkId
          afterSummary := some (.object
            [("verificationCaseId", .string (uuidText input.verificationCaseId)),
              ("checkType", .string input.checkType), ("sourceId", .string input.sourceId),
              ("result", .string input.result.text), ("reviewReferenceRecorded", .bool true),
              ("policyVersion", .string policy.version)]) }
      return (checkId, input.verificationCaseId)

/-- `recordManualCredentialCheck`; the check and its case. -/
def recordManualCredentialCheck (actor : ActorContext) (input : ManualCredentialCheckInput) :
    Tx (ℕ × ℕ) := do
  ensure (actor.actorType = .admin) (.error "Manual credential review requires ADMIN")
  ensure ("credentials:review" ∈ actor.scopes)
    (.error "Manual credential review requires credentials:review scope")
  ensure (trim input.reviewReference ≠ "") (.error "Manual review reference is required")
  let reviewedAt ← match input.reviewedAt with
    | some reviewedAt => pure reviewedAt
    | none => dateNow
  withTransaction fun _ ↦ recordManualInTransaction actor input reviewedAt

/-! ## Unavailable sources

The outcome of a fetch from an issuer that is not live: a check that says so, in the provider's
open case or in a new one.
-/

/-- The sources that have no live adapter. -/
inductive UnavailableSource where
  | digiLocker
  | bar
  | aibe
  deriving DecidableEq, Repr

def UnavailableSource.sourceId : UnavailableSource → String
  | .digiLocker => "DIGILOCKER"
  | .bar => "BAR"
  | .aibe => "AIBE"

/-- A failed fetch; the source is switched off unless it is a mock. -/
structure RecordUnavailableSourceInput where
  providerId : ℕ
  checkType : String
  sourceId : UnavailableSource
  isMock : Bool

/-- The row of a failed fetch, with the numbers drawn for it. -/
def RecordUnavailableSourceInput.row (input : RecordUnavailableSourceInput) (timestamp : ℤ)
    (caseId id : ℕ) (recordedSequence : ℤ) : VerificationCheck where
  id := id
  caseId := caseId
  checkType := input.checkType
  sourceId := input.sourceId.sourceId
  sourceMode := if input.isMock then .mock else .off
  result := .unavailable
  matchedFields := []
  sourceRef := none
  validUntil := none
  demoOnly := input.isMock
  checkedAt := timestamp
  recordedSequence := recordedSequence

/-- `assertProviderWriteAuthority`. -/
def assertProviderWriteAuthority (actor : ActorContext) (providerId : ℕ) : Tx Unit := do
  ensure (actor.actorType = .provider ∨ actor.actorType = .admin)
    (.app 403 "FORBIDDEN" "Provider authority is required")
  match (← snapshot).provider providerId with
  | none => throw (.app 404 "PROVIDER_NOT_FOUND" "Provider profile was not found")
  | some provider =>
    ensure (¬ (actor.actorType = .provider ∧ provider.userId ≠ actor.actorId))
      (.app 403 "FORBIDDEN" "Provider profile belongs to another actor")

/-- `LIMIT 1 FOR UPDATE` over the rows of a snapshot: the first row that still qualifies once its
lock is held. -/
def lockFirstActiveCase (providerId : ℕ) : List VerificationCase → Tx (Option VerificationCase)
  | [] => return none
  | c :: cs => do
    let db ← lock (.verificationCase c.id)
    match (db.activeCases providerId).find? (·.id = c.id) with
    | some active => return some active
    | none => lockFirstActiveCase providerId cs

/-- The unique index refuses a second active case. -/
def activeReviewExists : Failure :=
  .database "23505"
    "duplicate key value violates unique constraint \"verification_case_one_active_review\""

def reviewRequiredCase (providerId : ℕ) (timestamp : ℤ) (id : ℕ) : VerificationCase where
  id := id
  providerId := providerId
  status := .reviewRequired
  tierOutcome := none
  submittedAt := timestamp
  decidedAt := none
  decidedBy := none
  policyVersion := none
  policySnapshot := none
  decisionReasons := []
  tierExpiresAt := none

/-- `findOrCreateReviewRequiredCase`; the case and whether it is new. -/
def findOrCreateReviewRequiredCase (timestamp : ℤ) (providerId : ℕ) : Tx (ℕ × Bool) := do
  let _ ← lock (.activeCaseOf providerId)
  let candidates := sortBy (fun a b ↦
    if a.submittedAt = b.submittedAt then (b.id : ℤ) - a.id else b.submittedAt - a.submittedAt)
    ((← snapshot).activeCases providerId)
  match ← lockFirstActiveCase providerId candidates with
  | some active => return (active.id, false)
  | none =>
    let id ← nextval
    let db ← lock (.oneActiveReview providerId)
    ensure (∀ c ∈ db.cases, ¬ (c.providerId = providerId ∧ c.status = .reviewRequired))
      activeReviewExists
    write (Database.insertCase (reviewRequiredCase providerId timestamp id))
    return (id, true)

/-- `recordUnavailableSourceCheck`; the case the check went to. -/
def recordUnavailableSourceCheck (actor : ActorContext) (input : RecordUnavailableSourceInput)
    (timestamp : ℤ) : Tx ℕ := do
  assertProviderWriteAuthority actor input.providerId
  let (caseId, created) ← findOrCreateReviewRequiredCase timestamp input.providerId
  let _ ← insertVerificationCheck (input.row timestamp caseId)
  writeAudit actor
    { action := "verification.source_checked"
      entityType := "verification_case"
      entityId := uuidText caseId
      afterSummary := some (.object
        [("source", .string input.sourceId.sourceId),
          ("mode", .string (if input.isMock then "MOCK" else "OFF")),
          ("result", .string "UNAVAILABLE"), ("reviewCaseCreated", .bool created)]) }
  return caseId

/-! ## The decision

The decision of the application, the function of the database that decides again and writes, and
the comparison of the two. A difference undoes the transaction.
-/

/-- The text of a tier. -/
def VerificationTier.text : VerificationTier → String
  | .selfDeclared => "SELF_DECLARED"
  | .documentVerified => "DOCUMENT_VERIFIED"
  | .fullyVerified => "FULLY_VERIFIED"

def timestampJson : Option ℤ → Jsonb
  | none => .null
  | some t => .number (.ofInt t)

def VerificationCase.withDecision (c : VerificationCase) (decision : PersistedTierDecision)
    (decidedAt : ℤ) (decidedBy : ℕ) (policy : CredentialPolicyRow) : VerificationCase :=
  { c with
    status := .decided
    tierOutcome := some decision.tier
    decidedAt := some decidedAt
    decidedBy := some decidedBy
    policyVersion := some policy.version
    policySnapshot := some policy.policySnapshot
    decisionReasons := decision.reasons
    tierExpiresAt := decision.tierExpiresAt }

def Provider.withDecision (provider : Provider) (decision : PersistedTierDecision) (decidedAt : ℤ) :
    Provider :=
  { provider with
    tier := decision.tier
    tierDecidedAt := some decidedAt
    tierExpiresAt := decision.tierExpiresAt }

@[simp] theorem VerificationCase.withDecision_id (c : VerificationCase)
    (decision : PersistedTierDecision) (decidedAt : ℤ) (decidedBy : ℕ)
    (policy : CredentialPolicyRow) :
    (c.withDecision decision decidedAt decidedBy policy).id = c.id := rfl

@[simp] theorem Provider.withDecision_id (provider : Provider) (decision : PersistedTierDecision)
    (decidedAt : ℤ) : (provider.withDecision decision decidedAt).id = provider.id := rfl

def decisionAudit (c : VerificationCase) (provider : Provider) (decision : PersistedTierDecision)
    (decidedBy : ℕ) (policyVersion requestId : String) : List AuditEvent :=
  let row (action entityType entityId : String) (before after : Jsonb) : AuditEvent :=
    { actorType := .admin
      actorId := decidedBy
      onBehalfOfUserId := none
      delegationId := none
      action
      entityType
      entityId
      beforeSummary := some before
      afterSummary := some after
      reasonCode := none
      requestId }
  let reasons := Jsonb.array (decision.reasons.map .string)
  [row "verification.tier_decided" "verification_case" (uuidText c.id)
      (.object [("status", .string "REVIEW_REQUIRED"), ("tierOutcome", .null)])
      (.object [("status", .string "DECIDED"), ("tier", .string decision.tier.text),
        ("policyVersion", .string policyVersion), ("reasons", reasons),
        ("tierExpiresAt", timestampJson decision.tierExpiresAt)]),
    row "provider.tier_updated" "provider" (uuidText provider.id)
      (.object [("tier", .string provider.tier.text),
        ("tierExpiresAt", timestampJson provider.tierExpiresAt)])
      (.object [("tier", .string decision.tier.text), ("policyVersion", .string policyVersion),
        ("reasons", reasons), ("tierExpiresAt", timestampJson decision.tierExpiresAt)])]

/-- `FOR SHARE` of the active policy: the row of the snapshot must still be active when the lock
is granted. The lock is not modelled further, so an owner may change policies at any time. -/
def selectActivePolicyForShare (providerType : String) : Tx (Option CredentialPolicyRow) := do
  match (← snapshot).activePolicy providerType with
  | none => return none
  | some row =>
    return (← snapshot).policies.find? fun newest ↦
      newest.providerType = row.providerType && newest.version = row.version && newest.active

/-- `finalize_verification_case`; the decision in microseconds. No check can be added to the case
between its queries, since they run under the lock on the case, so they read one snapshot. -/
def finalizeVerificationCase (timestamp : ℤ) (caseId providerId : ℕ)
    (expectedPolicyVersion : String)
    (decidedAt : ℤ) (decidedBy : ℕ) (requestId : String) : Tx PersistedTierDecision := do
  ensure (btrim requestId ≠ "")
    (.database "22023" "Decision time and request id are required")
  ensure (timestamp - 300000000 ≤ decidedAt ∧ decidedAt ≤ timestamp + 300000000)
    (.database "22023" "Credential decision time is outside the trusted request window")
  ensure (⟨decidedBy, .admin, "credentials:review"⟩ ∈ (← snapshot).roleGrants)
    (.database "42501" "Credential decision requires an ADMIN credentials:review grant")
  match ← selectForUpdate (.verificationCase caseId) (·.case caseId) with
  | none => throw (.database "P0002" "Verification case was not found for provider")
  | some c =>
    ensure (c.providerId = providerId)
      (.database "P0002" "Verification case was not found for provider")
    ensure (c.status = .reviewRequired ∧ c.tierOutcome = none)
      (.database "55000" "Verification case is not active")
    match ← selectForUpdate (.provider providerId) (·.provider providerId) with
    | none => throw (.database "P0002" "Provider was not found for credential decision")
    | some provider =>
      match ← selectActivePolicyForShare provider.providerType with
      | none => throw (.database "P0002" "No active credential policy exists for provider type")
      | some policy =>
        ensure (expectedPolicyVersion = policy.version)
          (.database "40001" "Active credential policy version changed")
        let freshness ← fromExcept (validatePolicySql policy.policySnapshot decidedAt)
        let decision := sqlDecision policy.policySnapshot ((← snapshot).checksOf caseId) decidedAt
          freshness
        let decided := c.withDecision decision decidedAt decidedBy policy
        ensure decided.DecisionShapeCheck
          (.database "23514" "new row for relation \"verification_case\" violates check constraint")
        write (Database.updateCase decided)
        let updated := provider.withDecision decision decidedAt
        ensure updated.FullyVerifiedExpiryCheck
          (.database "23514" "new row for relation \"provider\" violates check constraint")
        write (Database.updateProvider updated)
        write (Database.insertAudit
          (decisionAudit c provider decision decidedBy policy.version requestId))
        return decision

/-- The comparison of the stored decision, in microseconds, with the one of the application. -/
def decisionMatches (persisted decision : PersistedTierDecision) : Bool :=
  persisted.tierExpiresAt.map (· / 1000) = decision.tierExpiresAt &&
    persisted.tier = decision.tier && persisted.reasons = decision.reasons

/-- The error of a failed comparison. -/
def preflightMismatch : Failure :=
  .error "Database credential decision did not match application preflight"

/-- `finalizeCredentialDecisionInTransaction`. -/
def finalizeCredentialDecisionInTransaction (actor : ActorContext) (providerId caseId : ℕ)
    (decisionTime timestamp : ℤ) : Tx PersistedTierDecision := do
  match ← selectForUpdate (.provider providerId) (·.provider providerId) with
  | none => throw (.error "Provider was not found for credential decision")
  | some provider =>
    let policy ← loadActiveCredentialPolicy provider.providerType
    match ← selectActiveCase caseId providerId with
    | none => throw (.error "Active verification case was not found for provider")
    | some _ =>
      let checks := sortBy (fun a b ↦ a.recordedSequence - b.recordedSequence)
        ((← snapshot).checksOf caseId)
      let decision ← fromExcept (decideTierFromRecordedChecks provider.providerType
        (checks.map (·.toRecorded)) policy decisionTime)
      let persisted ← finalizeVerificationCase timestamp caseId providerId policy.version
        (1000 * decisionTime) actor.actorId actor.requestId
      ensure (decisionMatches persisted decision) preflightMismatch
      return { persisted with tierExpiresAt := persisted.tierExpiresAt.map (· / 1000) }

/-- `finalizeCredentialDecision`; without an explicit instant the decision is dated by the clock
at the call. -/
def finalizeCredentialDecision (actor : ActorContext) (providerId caseId : ℕ) (at? : Option ℤ) :
    Tx PersistedTierDecision := do
  let decisionTime ← match at? with
    | some decisionTime => pure decisionTime
    | none => dateNow
  ensure (actor.actorType = .admin) (.error "Credential tier decisions require ADMIN")
  ensure ("credentials:review" ∈ actor.scopes)
    (.error "Credential tier decisions require credentials:review scope")
  withTransaction fun timestamp ↦
    finalizeCredentialDecisionInTransaction actor providerId caseId decisionTime timestamp

/-! ## Expiry

The worker goes through the providers whose full tier has lapsed, skips those another session
holds, and takes each of the others back to `DOCUMENT_VERIFIED`. What a route reads as the tier of
a provider does not wait for it.
-/

/-- The full verification of the provider has lapsed, or never had bounds. -/
def Provider.isDue (provider : Provider) (timestamp : ℤ) : Bool :=
  provider.tier = .fullyVerified &&
    (provider.tierDecidedAt.isNone || provider.tierExpiresAt.isNone ||
      provider.tierExpiresAt.any (fun expiresAt ↦
        provider.tierDecidedAt.any fun decidedAt ↦ decide (expiresAt ≤ decidedAt)) ||
      provider.tierExpiresAt.any fun expiresAt ↦ decide (expiresAt ≤ timestamp))

/-- The provider without its full verification. -/
def Provider.degrade (provider : Provider) (timestamp : ℤ) : Provider :=
  { provider with
    tier := .documentVerified
    tierDecidedAt := some timestamp
    tierExpiresAt := none }

def degradationAudit (provider : Provider) (timestamp : ℤ) (actorId : ℕ) (requestId : String) :
    AuditEvent where
  actorType := .admin
  actorId := actorId
  onBehalfOfUserId := none
  delegationId := none
  action := "provider.reverification.due"
  entityType := "provider"
  entityId := uuidText provider.id
  beforeSummary := some (.object [("tier", .string "FULLY_VERIFIED"),
    ("tierDecidedAt", timestampJson provider.tierDecidedAt),
    ("tierExpiresAt", timestampJson provider.tierExpiresAt)])
  afterSummary := some (.object [("tier", .string "DOCUMENT_VERIFIED"),
    ("tierDecidedAt", timestampJson (some timestamp)), ("tierExpiresAt", .null)])
  reasonCode := some "CREDENTIAL_FRESHNESS_EXPIRED"
  requestId := requestId

/-- The loop over the due rows: skip the ones another transaction has locked and the ones that are
no longer due, and stop at the batch size. -/
def degradeRows (timestamp : ℤ) (actorId : ℕ) (requestId : String) :
    ℕ → List Provider → Tx (List ℕ)
  | 0, _ => return []
  | _ + 1, [] => return []
  | n + 1, provider :: providers => do
    match ← tryLock (.provider provider.id) with
    | none => degradeRows timestamp actorId requestId (n + 1) providers
    | some db =>
      match (db.provider provider.id).filter (·.isDue timestamp) with
      | none => degradeRows timestamp actorId requestId (n + 1) providers
      | some row =>
        write (Database.updateProvider (row.degrade timestamp))
        write (Database.insertAudit [degradationAudit row timestamp actorId requestId])
        let degraded ← degradeRows timestamp actorId requestId n providers
        return row.id :: degraded

/-- `degrade_expired_provider_tiers`. -/
def degradeExpiredProviderTiers (timestamp : ℤ) (actorId : ℕ) (batchSize : ℤ) (requestId : String) :
    Tx (List ℕ) := do
  ensure (btrim requestId ≠ "") (.database "22023" "Revalidation request id is required")
  ensure (1 ≤ batchSize ∧ batchSize ≤ 1000)
    (.database "22023" "Credential revalidation batch size is invalid")
  ensure (⟨actorId, .admin, "credentials:revalidate"⟩ ∈ (← snapshot).roleGrants)
    (.database "42501" "Credential revalidation requires an ADMIN credentials:revalidate grant")
  let due := sortBy (fun a b ↦ match a.tierExpiresAt, b.tierExpiresAt with
    | none, none => (a.id : ℤ) - b.id
    | none, some _ => -1
    | some _, none => 1
    | some s, some t => if s = t then (a.id : ℤ) - b.id else s - t)
    ((← snapshot).providers.filter (·.isDue timestamp))
  degradeRows timestamp actorId requestId batchSize.toNat due

/-- `runCredentialRevalidationBatch`: one statement in a transaction of its own. -/
def runCredentialRevalidationBatch (adminActorId : ℕ) (batchSize? : Option ℤ) : Tx (List ℕ) := do
  let batchSize := batchSize?.getD 100
  ensure (|batchSize| ≤ MAX_SAFE_INTEGER ∧ 0 < batchSize)
    (.error "Credential revalidation batch size must be a positive integer")
  let uuid ← nextval
  withTransaction fun timestamp ↦ degradeExpiredProviderTiers timestamp adminActorId batchSize
    ("worker:credential-revalidation:" ++ uuidText uuid)

/-- The tier the verification read reports at `t`. -/
def Provider.effectiveTier (provider : Provider) (t : ℤ) : VerificationTier :=
  if provider.tier = .fullyVerified ∧
    provider.tierExpiresAt.all (fun expiresAt ↦ decide (expiresAt ≤ t))
  then .documentVerified else provider.tier

/-! ## The owner of the policies

Policies are changed by their owner, in transactions of their own, within what the checks and the
indexes of the table allow.
-/

/-- What the owner does to the policy registry; a stored snapshot is never changed. -/
inductive PolicyChange where
  | insert (row : CredentialPolicyRow)
  | setActive (providerType version : String) (active : Bool)

/-- The provider type a change is about. -/
def PolicyChange.providerType : PolicyChange → String
  | .insert row => row.providerType
  | .setActive providerType _ _ => providerType

def CredentialPolicyRow.Checks (row : CredentialPolicyRow) : Prop :=
  btrim row.providerType ≠ "" ∧ btrim row.version ≠ "" ∧ row.policySnapshot.kind = .object ∧
    row.policySnapshot.kindAt "providerType" = some .string ∧
    row.policySnapshot.kindAt "version" = some .string ∧
    row.policySnapshot.textAt "providerType" = some row.providerType ∧
    row.policySnapshot.textAt "version" = some row.version

instance (row : CredentialPolicyRow) : Decidable row.Checks := inferInstanceAs (Decidable (_ ∧ _))

def PolicyChange.apply (change : PolicyChange) (db : Database) : Database :=
  match change with
  | .insert row => { db with policies := db.policies ++ [row] }
  | .setActive providerType version active =>
    { db with policies := db.policies.map fun row ↦
        if row.providerType = providerType ∧ row.version = version then { row with active }
        else row }

/-- The change keeps the primary key, the checks and the index on active policies. -/
def PolicyChange.Admissible (change : PolicyChange) (db : Database) : Prop :=
  match change with
  | .insert row => row.Checks ∧
      (∀ other ∈ db.policies,
        ¬ (other.providerType = row.providerType ∧ other.version = row.version)) ∧
      (row.active → ∀ other ∈ db.policies, ¬ (other.providerType = row.providerType ∧ other.active))
  | .setActive providerType version active => active →
      ∀ other ∈ db.policies, ¬ (other.providerType = providerType ∧ other.active ∧
        other.version ≠ version)

instance (change : PolicyChange) (db : Database) : Decidable (change.Admissible db) := by
  cases change
  · exact inferInstanceAs (Decidable (_ ∧ _))
  · exact inferInstanceAs (Decidable (_ → _))

/-- A transaction of the owner. -/
def changePolicies : List PolicyChange → Tx Unit
  | [] => return ()
  | change :: changes => do
    let db ← lock (.policiesOf change.providerType)
    ensure (change.Admissible db) (.database "23000" "Credential policy change is not admissible")
    write change.apply
    changePolicies changes

/-! ## Requests

Everything that can be asked of this part of the store, with the program it runs.
-/

/-- What a client can ask for. -/
inductive CredentialRequest where
  | recordManual (actor : ActorContext) (input : ManualCredentialCheckInput)
  | recordUnavailable (actor : ActorContext) (input : RecordUnavailableSourceInput)
  | finalize (actor : ActorContext) (providerId caseId : ℕ) (at? : Option ℤ)
  | revalidate (adminActorId : ℕ) (batchSize? : Option ℤ)
  | changePolicies (changes : List PolicyChange)
  | hold (keys : List LockKey)

/-- What a client gets. -/
inductive CredentialResponse where
  | recorded (checkId caseId : ℕ)
  | unavailable (caseId : ℕ)
  | decided (decision : PersistedTierDecision)
  | degraded (providerIds : List ℕ)
  | done

def credentialProgram : CredentialRequest → Tx CredentialResponse
  | .recordManual actor input => do
    let (checkId, caseId) ← recordManualCredentialCheck actor input
    return .recorded checkId caseId
  | .recordUnavailable actor input => do
    return .unavailable (← withTransaction (recordUnavailableSourceCheck actor input))
  | .finalize actor providerId caseId at? => do
    return .decided (← finalizeCredentialDecision actor providerId caseId at?)
  | .revalidate adminActorId batchSize? => do
    return .degraded (← runCredentialRevalidationBatch adminActorId batchSize?)
  | .changePolicies changes => do
    withTransaction fun _ ↦ changePolicies changes
    return .done
  | .hold keys => do
    holdLocks keys
    return .done

end Nayasetu
