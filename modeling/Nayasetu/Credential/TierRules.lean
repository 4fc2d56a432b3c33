import Mathlib.Data.List.MinMax
import Mathlib.Data.Prod.Lex
import Mathlib.Order.Bounds.Basic
import Nayasetu.Credential.Recompute

/-!
# What a tier decision means

The tier rules as a relation between a policy, a history of checks, an instant and a decision.
Only the last live check of each check type and source counts, and only if it is dated at or before
the instant. `Decides` says which decision that evidence calls for and `Decides.unique` that it
calls for one only. The program of the application and the query of the database are both proved
to satisfy it.

A case keeps every check that was ever recorded for it. Which of them speak for the provider now
is decided in three steps: only live checks that are not from the future are seen, of those about
one leg and source only the last recorded one stands, and that one is evidence if it passed and
has not expired. A mismatch or conflict that stands takes precedence over all evidence.

The constructors of `Decides` are the outcomes, each with what excludes the ones before it. For
the last one the expiry is the least of the bounds `ExpiryBound` lists, so that nothing is said
about how it is computed.
-/

namespace Nayasetu

open Collections

/-- The leg and source a check is about. -/
def RecordedCredentialCheck.pair (check : RecordedCredentialCheck) : String × String :=
  (check.checkType, check.sourceId)

/-- The live checks dated at or before `now`. -/
def visibleChecks (checks : List RecordedCredentialCheck) (now : ℤ) :
    List RecordedCredentialCheck :=
  checks.filter fun check ↦ check.sourceMode = .live && check.checkedAt ≤ now

/-- The check is the last visible one of its leg and source. -/
def IsCurrent (checks : List RecordedCredentialCheck) (now : ℤ) :
    RecordedCredentialCheck → Prop :=
  IsLatest (·.pair) (·.recordedSequence) (visibleChecks checks now)

section Rules

variable (policy : CredentialTierPolicy) (checks : List RecordedCredentialCheck) (now : ℤ)

/-- Some leg and source last reported a conflict. -/
def Conflicted : Prop :=
  ∃ check, IsCurrent checks now check ∧ (check.result = .mismatch ∨ check.result = .conflict) ∧
    policy.Allows check.checkType check.sourceId

/-- The check is unexpired evidence for the leg. -/
structure Supports (leg : CredentialLegPolicy) (check : RecordedCredentialCheck) : Prop where
  current : IsCurrent checks now check
  pass : check.result = .pass
  unexpired : ∀ validUntil ∈ check.validUntil, now < validUntil
  checkType : check.checkType = leg.checkType
  source : check.sourceId ∈ leg.allowedSourceIds

/-- The check is evidence for the leg, and fresh. -/
structure SupportsFreshly (leg : CredentialLegPolicy) (check : RecordedCredentialCheck) : Prop
    extends Supports checks now leg check where
  fresh : now < check.checkedAt + policy.currentAuthorityFreshnessMs

structure IsNewest (P : RecordedCredentialCheck → Prop) (check : RecordedCredentialCheck) :
    Prop where
  mem : P check
  newest : ∀ other, P other → other.checkedAt < check.checkedAt ∨
    (other.checkedAt = check.checkedAt ∧ other.recordedSequence ≤ check.recordedSequence)

/-- The instants at which some of the evidence of a full verification lapses. -/
inductive ExpiryBound : ℤ → Prop where
  /-- A confirmation made now would lapse then. -/
  | decided : ExpiryBound (now + policy.currentAuthorityFreshnessMs)
  /-- A document or the identity evidence expires. -/
  | document {leg : CredentialLegPolicy} {check : RecordedCredentialCheck} {validUntil : ℤ}
      (hleg : leg ∈ policy.documentLegs) (hcheck : IsNewest (Supports checks now leg) check)
      (hvalid : check.validUntil = some validUntil) : ExpiryBound validUntil
  /-- A confirmation of an authority expires. -/
  | authority {leg : CredentialLegPolicy} {check : RecordedCredentialCheck} {validUntil : ℤ}
      (hleg : leg ∈ policy.currentAuthorityLegs)
      (hcheck : IsNewest (SupportsFreshly policy checks now leg) check)
      (hvalid : check.validUntil = some validUntil) : ExpiryBound validUntil
  /-- A confirmation of an authority is no longer fresh. -/
  | stale {leg : CredentialLegPolicy} {check : RecordedCredentialCheck}
      (hleg : leg ∈ policy.currentAuthorityLegs)
      (hcheck : IsNewest (SupportsFreshly policy checks now leg) check) :
      ExpiryBound (check.checkedAt + policy.currentAuthorityFreshnessMs)

/-- The decision the evidence calls for. -/
inductive Decides : PersistedTierDecision → Prop where
  | conflict (hconflict : Conflicted policy checks now) :
      Decides ⟨⟨.selfDeclared, ["UNRESOLVED_CREDENTIAL_CONFLICT"]⟩, none⟩
  | documents (hconflict : ¬ Conflicted policy checks now)
      (hdocuments : ¬ ∀ leg ∈ policy.requiredDocumentLegs, ∃ check, Supports checks now leg check) :
      Decides ⟨⟨.selfDeclared, ["REQUIRED_EVIDENCE_INCOMPLETE"]⟩, none⟩
  | identity (hconflict : ¬ Conflicted policy checks now)
      (hdocuments : ∀ leg ∈ policy.requiredDocumentLegs, ∃ check, Supports checks now leg check)
      (hidentity : ¬ ∃ check, Supports checks now policy.identityConsistencyLeg check) :
      Decides ⟨⟨.selfDeclared, ["IDENTITY_CONSISTENCY_REQUIRED"]⟩, none⟩
  | authority (hconflict : ¬ Conflicted policy checks now)
      (hdocuments : ∀ leg ∈ policy.requiredDocumentLegs, ∃ check, Supports checks now leg check)
      (hidentity : ∃ check, Supports checks now policy.identityConsistencyLeg check)
      (hauthority : ¬ ∀ leg ∈ policy.currentAuthorityLegs,
        ∃ check, SupportsFreshly policy checks now leg check) :
      Decides ⟨⟨.documentVerified, ["CURRENT_LIVE_AUTHORITY_REQUIRED"]⟩, none⟩
  | full {expiry : ℤ} (hconflict : ¬ Conflicted policy checks now)
      (hdocuments : ∀ leg ∈ policy.requiredDocumentLegs, ∃ check, Supports checks now leg check)
      (hidentity : ∃ check, Supports checks now policy.identityConsistencyLeg check)
      (hauthority : ∀ leg ∈ policy.currentAuthorityLegs,
        ∃ check, SupportsFreshly policy checks now leg check)
      (hexpiry : IsLeast {bound | ExpiryBound policy checks now bound} expiry) :
      Decides ⟨⟨.fullyVerified, ["CURRENT_LIVE_AUTHORITY_CONFIRMED"]⟩, some expiry⟩

variable {policy checks now}

theorem Decides.unique {d d' : PersistedTierDecision} (h : Decides policy checks now d)
    (h' : Decides policy checks now d') : d = d' := by
  cases h with
  | conflict hc =>
    cases h' with
    | conflict => rfl
    | documents hc' => exact absurd hc hc'
    | identity hc' => exact absurd hc hc'
    | authority hc' => exact absurd hc hc'
    | full hc' => exact absurd hc hc'
  | documents hc hd =>
    cases h' with
    | conflict hc' => exact absurd hc' hc
    | documents => rfl
    | identity _ hd' => exact absurd hd' hd
    | authority _ hd' => exact absurd hd' hd
    | full _ hd' => exact absurd hd' hd
  | identity hc hd hi =>
    cases h' with
    | conflict hc' => exact absurd hc' hc
    | documents _ hd' => exact absurd hd hd'
    | identity => rfl
    | authority _ _ hi' => exact absurd hi' hi
    | full _ _ hi' => exact absurd hi' hi
  | authority hc hd hi ha =>
    cases h' with
    | conflict hc' => exact absurd hc' hc
    | documents _ hd' => exact absurd hd hd'
    | identity _ _ hi' => exact absurd hi hi'
    | authority => rfl
    | full _ _ _ ha' => exact absurd ha' ha
  | full hc hd hi ha he =>
    cases h' with
    | conflict hc' => exact absurd hc' hc
    | documents _ hd' => exact absurd hd hd'
    | identity _ _ hi' => exact absurd hi hi'
    | authority _ _ _ ha' => exact absurd ha ha'
    | full _ _ _ _ he' => rw [he.unique he']

theorem IsCurrent.mem {check : RecordedCredentialCheck} (h : IsCurrent checks now check) :
    check ∈ checks ∧ check.sourceMode = .live ∧ check.checkedAt ≤ now := by
  simpa [visibleChecks] using IsLatest.mem h

theorem exists_isNewest {P : RecordedCredentialCheck → Prop}
    (hP : ∀ check, P check → check ∈ checks)
    (h : ∃ check, P check) : ∃ check, IsNewest P check := by
  classical
  obtain ⟨check₀, h₀⟩ := h
  set candidates := checks.filter fun check ↦ P check
  have hmem {check : RecordedCredentialCheck} : check ∈ candidates ↔ P check := by
    simpa [candidates] using hP check
  set age := fun check : RecordedCredentialCheck ↦ toLex (check.checkedAt, check.recordedSequence)
  cases hnewest : candidates.argmax age with
  | none =>
    rw [List.argmax_eq_none.mp hnewest] at hmem
    exact absurd (hmem.mpr h₀) List.not_mem_nil
  | some newest =>
    refine ⟨newest, hmem.mp (List.argmax_mem hnewest), fun other hother ↦ ?_⟩
    have hle : age other ≤ age newest := List.le_of_mem_argmax (hmem.mpr hother) hnewest
    rwa [Prod.Lex.le_iff] at hle

theorem IsNewest.unique {P : RecordedCredentialCheck → Prop}
    (hP : ∀ check, P check → check ∈ checks)
    (hseq : (checks.map (·.recordedSequence)).Nodup) {a b : RecordedCredentialCheck}
    (ha : IsNewest P a) (hb : IsNewest P b) : a = b := by
  have h₁ := ha.newest b hb.mem
  have h₂ := hb.newest a ha.mem
  exact List.inj_on_of_nodup_map hseq (hP a ha.mem) (hP b hb.mem) (by omega)

/-- The evidence for a leg has lapsed by the instant a bound names. -/
theorem ExpiryBound.lt (hfresh : 0 < policy.currentAuthorityFreshnessMs) {bound : ℤ}
    (h : ExpiryBound policy checks now bound) : now < bound := by
  cases h with
  | decided => omega
  | document _ hcheck hvalid => exact hcheck.mem.unexpired _ hvalid
  | authority _ hcheck hvalid => exact hcheck.mem.unexpired _ hvalid
  | stale _ hcheck => exact hcheck.mem.fresh

end Rules

end Nayasetu
