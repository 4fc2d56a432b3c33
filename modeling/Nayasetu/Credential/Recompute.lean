import Nayasetu.Credential.Policy

/-!
# Recomputing a provider's tier

The application's decision over the recorded checks of one case: keep the last check of every leg
and source, look for an unresolved conflict, classify the checks under the policy and apply the
tier rules. A full verification also gets an expiry, the earliest of the bounds its newest evidence
carries. All times are milliseconds, the time values of `Date`s. The expiry is a sum, and may be no
such value: then the code makes an Invalid Date of it.

The steps are those of the source, with its maps, its sorts and its early returns. That they
amount to something simpler is proved elsewhere; here nothing is simplified.

## Instants

Instants are integers. The range of a `Date` matters in one place only: the comparison of the
expiry with the instant is made on `Date`s, and an Invalid Date is neither before nor after
anything. The check that the expiry lies in the future therefore lets such a date pass.
-/

namespace Nayasetu

open Collections

/-- The time values a `Date` can have. From any other number `new Date` makes an Invalid Date, which
compares with no date; that number stands for it here. -/
def IsTimeValue (t : ℤ) : Prop := t.natAbs ≤ 8640000000000000

instance (t : ℤ) : Decidable (IsTimeValue t) := inferInstanceAs (Decidable (_ ≤ _))

/-- A check as the application reads it. -/
structure RecordedCredentialCheck where
  recordedSequence : ℤ
  checkType : String
  sourceId : String
  sourceMode : CredentialCapabilityMode
  result : VerificationResult
  checkedAt : ℤ
  validUntil : Option ℤ
  deriving DecidableEq, Repr

/-- A decision and when it lapses. -/
structure PersistedTierDecision extends TierDecision where
  tierExpiresAt : Option ℤ
  deriving DecidableEq, Repr

/-- The map key of a check; stored texts contain no `NUL`. -/
def RecordedCredentialCheck.key (check : RecordedCredentialCheck) : String :=
  check.checkType ++ "\x00" ++ check.sourceId

/-- The last recorded check of every leg and source, in the order of recording. -/
def latestChecksByLegAndSource (checks : List RecordedCredentialCheck) :
    List RecordedCredentialCheck :=
  sortBy (fun left right ↦
      if left.recordedSequence < right.recordedSequence then -1
      else if right.recordedSequence < left.recordedSequence then 1 else 0)
    (OrderedMap.keepGreatest (·.key) (·.recordedSequence) checks).values

namespace CredentialTierPolicy

variable (policy : CredentialTierPolicy)

/-- The sources of every check type, collected over all legs. -/
def relevantSourcesByLeg : OrderedMap String (List String) :=
  policy.allLegs.foldl (fun relevant leg ↦
    relevant.set leg.checkType (((relevant.get leg.checkType).getD []) ++ leg.allowedSourceIds))
    .empty

/-- The allowed sources by check type. -/
def legMap (legs : List CredentialLegPolicy) : OrderedMap String (List String) :=
  .ofList (legs.map fun leg ↦ (leg.checkType, leg.allowedSourceIds))

/-- Classify a check under the policy. -/
def domainCheck (check : RecordedCredentialCheck) : CredentialCheck :=
  let configuredSource := policy.sourceMap.get check.sourceId
  { recordedSequence := check.recordedSequence
    sourceId := check.sourceId
    checkType := check.checkType
    sourceMode := check.sourceMode
    result := check.result
    checkedAt := check.checkedAt
    validUntil := check.validUntil
    isRequiredDocumentLeg := configuredSource.isSome &&
      ((legMap policy.requiredDocumentLegs).get check.checkType).any (check.sourceId ∈ ·)
    isIdentityConsistencyLeg := configuredSource.isSome &&
      check.checkType = policy.identityConsistencyLeg.checkType &&
      check.sourceId ∈ policy.identityConsistencyLeg.allowedSourceIds
    isCurrentAuthorityLeg := configuredSource.map (·.evidenceKind) = some .authority &&
      ((legMap policy.currentAuthorityLegs).get check.checkType).any (check.sourceId ∈ ·)
    isFormatOnly := configuredSource.isNone ||
      configuredSource.map (·.evidenceKind) = some .formatValidation
    isLlmDerived := configuredSource.map (·.evidenceKind) = some .llmAdvisory }

end CredentialTierPolicy

/-- The newest of the candidates; of two as old as each other, the one recorded later. -/
def newest (candidates : List CredentialCheck) : Option CredentialCheck :=
  (sortBy (fun left right ↦
    if right.checkedAt - left.checkedAt ≠ 0 then right.checkedAt - left.checkedAt
    else if left.recordedSequence < right.recordedSequence then 1 else -1) candidates).head?

/-- `Math.min`. -/
def mathMin (first : ℤ) (rest : List ℤ) : ℤ := rest.foldl min first

/-- The newest of the counting checks for every document leg. -/
def requiredEvidence (policy : CredentialTierPolicy) (contributing : List CredentialCheck) :
    List (Option CredentialCheck) :=
  policy.requiredDocumentLegs.map fun leg ↦ newest (contributing.filter fun check ↦
    check.checkType = leg.checkType && check.isRequiredDocumentLeg)

/-- The newest of the counting fresh checks for every authority leg. -/
def authorityEvidence (policy : CredentialTierPolicy) (contributing : List CredentialCheck)
    (now : ℤ) : List (Option CredentialCheck) :=
  policy.currentAuthorityLegs.map fun leg ↦ newest (contributing.filter fun check ↦
    check.checkType = leg.checkType && check.isCurrentAuthorityLeg &&
      decide (now < check.checkedAt + policy.currentAuthorityFreshnessMs))

/-- When a full verification lapses. -/
def tierExpiry (policy : CredentialTierPolicy) (contributing : List CredentialCheck) (now : ℤ) :
    Except Failure ℤ := do
  let freshness := policy.currentAuthorityFreshnessMs
  let requiredEvidence := requiredEvidence policy contributing
  let identityEvidence := newest (contributing.filter fun check ↦ check.isIdentityConsistencyLeg)
  let authorityEvidence := authorityEvidence policy contributing now
  match identityEvidence with
  | none => throw (.error "FULLY_VERIFIED decision is missing selected contributing evidence")
  | some identityCheck =>
    require (none ∉ requiredEvidence ∧ none ∉ authorityEvidence)
      (.error "FULLY_VERIFIED decision is missing selected contributing evidence")
    let selectedRequiredEvidence := requiredEvidence.filterMap id
    let selectedAuthorityEvidence := authorityEvidence.filterMap id
    let tierExpiresAt := mathMin (now + freshness)
      ((selectedRequiredEvidence ++ [identityCheck] ++ selectedAuthorityEvidence).filterMap
          (·.validUntil) ++
        selectedAuthorityEvidence.map fun check ↦ check.checkedAt + freshness)
    -- an Invalid Date is not `<= now`, and passes
    require (¬ (IsTimeValue tierExpiresAt ∧ tierExpiresAt ≤ now))
      (.error "FULLY_VERIFIED decision has no future expiry")
    return tierExpiresAt

/-- The tier the recorded checks support under the policy. -/
def decideTierFromRecordedChecks (providerType : String) (checks : List RecordedCredentialCheck)
    (policy : CredentialTierPolicy) (now : ℤ) : Except Failure PersistedTierDecision := do
  validateCredentialTierPolicy policy
  require (providerType = policy.providerType)
    (.error "Credential policy does not match the provider type")
  let latestChecks := latestChecksByLegAndSource
    (checks.filter fun check ↦ check.sourceMode = .live && check.checkedAt ≤ now)
  let relevantSourcesByLeg := policy.relevantSourcesByLeg
  let unresolvedConflict := latestChecks.any fun check ↦
    (check.result = .mismatch || check.result = .conflict) && check.sourceMode = .live &&
      check.checkedAt ≤ now && (relevantSourcesByLeg.get check.checkType).any (check.sourceId ∈ ·)
  if unresolvedConflict then
    return ⟨⟨.selfDeclared, ["UNRESOLVED_CREDENTIAL_CONFLICT"]⟩, none⟩
  let domainChecks := latestChecks.map policy.domainCheck
  let decision := decideVerificationTier
    { now
      requiredDocumentLegs := policy.requiredDocumentLegs.map (·.checkType)
      requiredCurrentAuthorityLegs := policy.currentAuthorityLegs.map (·.checkType)
      currentAuthorityFreshnessMs := some policy.currentAuthorityFreshnessMs
      checks := domainChecks }
  if decision.tier ≠ .fullyVerified then return ⟨decision, none⟩
  let contributing := domainChecks.filter fun check ↦ check.contributes now
  let tierExpiresAt ← tierExpiry policy contributing now
  return ⟨decision, some tierExpiresAt⟩

end Nayasetu
