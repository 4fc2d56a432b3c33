import Mathlib.Algebra.Order.Group.Int
import Nayasetu.Failure

/-!
# Verification tiers

The tier rules of the credential module, over checks that have already been classified: which legs
a check can stand for is decided by the caller.

A check counts only if it is live, passed, neither a format check nor the word of a model, dated
at or before the instant and not expired. A provider whose document legs all have such a check,
one of them for the consistency of the identity, is `DOCUMENT_VERIFIED`; if in addition every
authority leg has one that is fresh, the provider is `FULLY_VERIFIED`.

The reason codes of a decision are part of it: they are stored with the case and compared with
those of the database before anything is written.
-/

namespace Nayasetu

/-- The tiers, in ascending order. -/
inductive VerificationTier where
  | selfDeclared
  | documentVerified
  | fullyVerified
  deriving DecidableEq, Repr

def VerificationTier.rank : VerificationTier → ℕ
  | .selfDeclared => 0
  | .documentVerified => 1
  | .fullyVerified => 2

instance : LE VerificationTier := ⟨fun a b ↦ a.rank ≤ b.rank⟩

instance (a b : VerificationTier) : Decidable (a ≤ b) :=
  inferInstanceAs (Decidable (a.rank ≤ b.rank))

/-- What a check found. -/
inductive VerificationResult where
  | pass
  | mismatch
  | notFound
  | conflict
  | unavailable
  deriving DecidableEq, Repr

/-- Whether a source is asked at all, and whether it is real. -/
inductive CredentialCapabilityMode where
  | live
  | mock
  | off
  deriving DecidableEq, Repr

/-- A classified check. Times are milliseconds. -/
structure CredentialCheck where
  recordedSequence : ℤ
  sourceId : String
  checkType : String
  sourceMode : CredentialCapabilityMode
  result : VerificationResult
  checkedAt : ℤ
  validUntil : Option ℤ
  isRequiredDocumentLeg : Bool
  isIdentityConsistencyLeg : Bool
  isCurrentAuthorityLeg : Bool
  isFormatOnly : Bool
  isLlmDerived : Bool
  deriving DecidableEq, Repr

/-- What the tier rules look at. -/
structure TierDecisionInput where
  now : ℤ
  checks : List CredentialCheck
  requiredDocumentLegs : List String
  requiredCurrentAuthorityLegs : List String
  currentAuthorityFreshnessMs : Option ℤ

/-- A tier and why. -/
structure TierDecision where
  tier : VerificationTier
  reasons : List String
  deriving DecidableEq, Repr

/-- A live, passed, unexpired check of a source that can confer a tier. -/
def CredentialCheck.contributes (check : CredentialCheck) (now : ℤ) : Bool :=
  check.result = .pass && check.sourceMode = .live && !check.isFormatOnly && !check.isLlmDerived &&
    check.checkedAt ≤ now && check.validUntil.all fun validUntil ↦ decide (now < validUntil)

def decideVerificationTier (input : TierDecisionInput) : TierDecision :=
  let contributing := input.checks.filter fun check ↦ check.contributes input.now
  let passedLegs := (contributing.filter (·.isRequiredDocumentLeg)).map (·.checkType)
  let documentsComplete := input.requiredDocumentLegs.all (· ∈ passedLegs)
  if !documentsComplete then ⟨.selfDeclared, ["REQUIRED_EVIDENCE_INCOMPLETE"]⟩
  else if !contributing.any (·.isIdentityConsistencyLeg) then
    ⟨.selfDeclared, ["IDENTITY_CONSISTENCY_REQUIRED"]⟩
  else
    let currentAuthorityLegs := (contributing.filter fun check ↦
      check.sourceMode = .live && check.isCurrentAuthorityLeg &&
        input.currentAuthorityFreshnessMs.any fun freshness ↦
          decide (input.now - freshness < check.checkedAt)).map (·.checkType)
    let currentAuthorityComplete :=
      input.requiredCurrentAuthorityLegs.all (· ∈ currentAuthorityLegs)
    if !currentAuthorityComplete then ⟨.documentVerified, ["CURRENT_LIVE_AUTHORITY_REQUIRED"]⟩
    else ⟨.fullyVerified, ["CURRENT_LIVE_AUTHORITY_CONFIRMED"]⟩

end Nayasetu
