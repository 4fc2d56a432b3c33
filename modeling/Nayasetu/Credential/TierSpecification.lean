import Nayasetu.Credential.Operations

/-!
# The specification of a tier decision

`Decides` lists the decisions one by one. Here the same is said outcome by outcome, in terms of the
last visible live check of every leg and source: when a decision is `SELF_DECLARED`, when it is
`DOCUMENT_VERIFIED`, and when a full verification lapses. The instant itself bounds the expiry in
the code; that bound is never the earliest one, since the confirmation of an authority is no later
than the decision, so it is gone from the specification.

A full verification lapses at a date. The code computes its expiry as a number, and where all bounds
lie behind the last date there is, it returns an Invalid Date. Everywhere else it decides as
specified: `tier_decision_specified_iff`.

## What is left out

The order of the legs, of the sources and of the checks does not occur in the specification, and
neither does the way a newest check is found. What remains is a statement a reader can hold
against the documentation: which evidence gives which tier, and until when.
-/

namespace Nayasetu

open Collections

section Specification

variable (policy : CredentialTierPolicy) (checks : List RecordedCredentialCheck) (now : ℤ)

/-- Every document leg and the identity leg have unexpired evidence. -/
def Documented : Prop :=
  ∀ leg ∈ policy.documentLegs, ∃ check, Supports checks now leg check

/-- Every authority leg has unexpired and fresh evidence. -/
def Confirmed : Prop :=
  ∀ leg ∈ policy.currentAuthorityLegs, ∃ check, SupportsFreshly policy checks now leg check

/-- The instants at which the newest evidence of a leg lapses. -/
inductive EvidenceBound : ℤ → Prop where
  /-- The evidence of a document leg or of the identity leg expires. -/
  | document {leg : CredentialLegPolicy} {check : RecordedCredentialCheck} {validUntil : ℤ}
      (hleg : leg ∈ policy.documentLegs) (hcheck : IsNewest (Supports checks now leg) check)
      (hvalid : check.validUntil = some validUntil) : EvidenceBound validUntil
  /-- The confirmation of an authority expires. -/
  | authority {leg : CredentialLegPolicy} {check : RecordedCredentialCheck} {validUntil : ℤ}
      (hleg : leg ∈ policy.currentAuthorityLegs)
      (hcheck : IsNewest (SupportsFreshly policy checks now leg) check)
      (hvalid : check.validUntil = some validUntil) : EvidenceBound validUntil
  /-- The confirmation of an authority leaves the freshness window. -/
  | stale {leg : CredentialLegPolicy} {check : RecordedCredentialCheck}
      (hleg : leg ∈ policy.currentAuthorityLegs)
      (hcheck : IsNewest (SupportsFreshly policy checks now leg) check) :
      EvidenceBound (check.checkedAt + policy.currentAuthorityFreshnessMs)

/-- What a decision is, outcome by outcome. -/
structure TierSpecification (decision : PersistedTierDecision) : Prop where
  conflict : decision = ⟨⟨.selfDeclared, ["UNRESOLVED_CREDENTIAL_CONFLICT"]⟩, none⟩ ↔
    Conflicted policy checks now
  selfDeclared : ¬ Conflicted policy checks now →
    (decision.tier = .selfDeclared ↔ ¬ Documented policy checks now)
  documentVerified : ¬ Conflicted policy checks now → Documented policy checks now →
    (decision.tier = .documentVerified ↔ ¬ Confirmed policy checks now)
  fullyVerified : ¬ Conflicted policy checks now → Documented policy checks now →
    Confirmed policy checks now → decision.tier = .fullyVerified ∧
      ∃ expiry, decision.tierExpiresAt = some expiry ∧ IsTimeValue expiry ∧ now < expiry ∧
        IsLeast {bound | EvidenceBound policy checks now bound} expiry

variable {policy checks now}

theorem documented_iff : Documented policy checks now ↔
    (∀ leg ∈ policy.requiredDocumentLegs, ∃ check, Supports checks now leg check) ∧
      ∃ check, Supports checks now policy.identityConsistencyLeg check := by
  simp only [Documented, CredentialTierPolicy.documentLegs, List.mem_append, List.mem_singleton,
    or_imp, forall_and, forall_eq]

/-- A bound of the evidence is one of the code's, and the instant's own bound is not needed: the
newest confirmation of an authority leaves the window no later. -/
theorem isLeast_evidenceBound (hne : policy.currentAuthorityLegs ≠ [])
    (hconfirmed : Confirmed policy checks now) {expiry : ℤ}
    (h : IsLeast {bound | ExpiryBound policy checks now bound} expiry) :
    IsLeast {bound | EvidenceBound policy checks now bound} expiry := by
  have hle : ∀ bound, EvidenceBound policy checks now bound → expiry ≤ bound := by
    intro bound hbound
    cases hbound with
    | document hleg hcheck hvalid => exact h.2 (.document hleg hcheck hvalid)
    | authority hleg hcheck hvalid => exact h.2 (.authority hleg hcheck hvalid)
    | stale hleg hcheck => exact h.2 (.stale hleg hcheck)
  refine ⟨?_, hle⟩
  rcases h.1 with _ | ⟨hleg, hcheck, hvalid⟩ | ⟨hleg, hcheck, hvalid⟩ | ⟨hleg, hcheck⟩
  · obtain ⟨leg, hleg⟩ := List.exists_mem_of_ne_nil _ hne
    obtain ⟨check, hcheck⟩ := exists_isNewest (fun _ hs ↦ hs.current.mem.1) (hconfirmed leg hleg)
    have hdate : check.checkedAt ≤ now := hcheck.mem.current.mem.2.2
    have hexpiry := hle _ (.stale hleg hcheck)
    have heq : now + policy.currentAuthorityFreshnessMs =
        check.checkedAt + policy.currentAuthorityFreshnessMs := by omega
    rw [Set.mem_ofPred_eq, heq]
    exact .stale hleg hcheck
  · exact .document hleg hcheck hvalid
  · exact .authority hleg hcheck hvalid
  · exact .stale hleg hcheck

theorem Decides.conflict_iff {decision : PersistedTierDecision}
    (hd : Decides policy checks now decision) :
    decision = ⟨⟨.selfDeclared, ["UNRESOLVED_CREDENTIAL_CONFLICT"]⟩, none⟩ ↔
      Conflicted policy checks now := by
  cases hd with
  | conflict hc => exact iff_of_true rfl hc
  | documents hc | identity hc | authority hc | full hc => exact iff_of_false (by simp) hc

/-- The expiry of a full verification. -/
theorem Decides.expiry (hvalid : policy.Valid) {decision : PersistedTierDecision}
    (hd : Decides policy checks now decision) (hc : ¬ Conflicted policy checks now)
    (hdocumented : Documented policy checks now) (hconfirmed : Confirmed policy checks now) :
    decision.tier = .fullyVerified ∧ ∃ expiry, decision.tierExpiresAt = some expiry ∧ now < expiry ∧
      IsLeast {bound | EvidenceBound policy checks now bound} expiry := by
  obtain ⟨hdocuments, hidentity⟩ := documented_iff.mp hdocumented
  cases hd with
  | conflict hconflict => exact absurd hconflict hc
  | documents _ hd => exact absurd hdocuments hd
  | identity _ _ hi => exact absurd hidentity hi
  | authority _ _ _ ha => exact absurd hconfirmed ha
  | full _ _ _ _ he =>
    exact ⟨rfl, _, rfl, he.1.lt hvalid.freshness_pos, isLeast_evidenceBound hvalid.authority_ne_nil
      hconfirmed he⟩

/-- The decision the evidence calls for meets the specification, if its expiry is a date. -/
theorem Decides.specification (hvalid : policy.Valid) {decision : PersistedTierDecision}
    (hd : Decides policy checks now decision)
    (hdate : ∀ expiry, decision.tierExpiresAt = some expiry → IsTimeValue expiry) :
    TierSpecification policy checks now decision := by
  refine ⟨hd.conflict_iff, fun hc ↦ ?_, fun hc hdocumented ↦ ?_, fun hc hdocumented hconfirmed ↦ ?_⟩
  · cases hd with
    | conflict hconflict => exact absurd hconflict hc
    | documents _ hd => exact iff_of_true rfl fun h ↦ hd (documented_iff.mp h).1
    | identity _ _ hi => exact iff_of_true rfl fun h ↦ hi (documented_iff.mp h).2
    | authority _ hd hi | full _ hd hi =>
      exact iff_of_false (by simp) (not_not.mpr (documented_iff.mpr ⟨hd, hi⟩))
  · obtain ⟨hdocuments, hidentity⟩ := documented_iff.mp hdocumented
    cases hd with
    | conflict hconflict => exact absurd hconflict hc
    | documents _ hd => exact absurd hdocuments hd
    | identity _ _ hi => exact absurd hidentity hi
    | authority _ _ _ ha => exact iff_of_true rfl ha
    | full _ _ _ ha => exact iff_of_false (by simp) (not_not.mpr ha)
  · obtain ⟨htier, expiry, hexpiry, hlt, hleast⟩ := hd.expiry hvalid hc hdocumented hconfirmed
    exact ⟨htier, expiry, hexpiry, hdate expiry hexpiry, hlt, hleast⟩

/-- A full verification that is specified lapses at a date. -/
theorem TierSpecification.isTimeValue {decision : PersistedTierDecision}
    (h : TierSpecification policy checks now decision) (htier : decision.tier = .fullyVerified) :
    ∃ expiry, decision.tierExpiresAt = some expiry ∧ IsTimeValue expiry := by
  have hc : ¬ Conflicted policy checks now := by
    intro hc
    rw [h.conflict.mpr hc] at htier
    cases htier
  have hdocumented : Documented policy checks now := by
    by_contra hnot
    rw [(h.selfDeclared hc).mpr hnot] at htier
    cases htier
  have hconfirmed : Confirmed policy checks now := by
    by_contra hnot
    rw [(h.documentVerified hc hdocumented).mpr hnot] at htier
    cases htier
  obtain ⟨-, expiry, hexpiry, hdate, -⟩ := h.fullyVerified hc hdocumented hconfirmed
  exact ⟨expiry, hexpiry, hdate⟩

/-- The constraints of the table ask for a reason, and for an expiry in the future exactly if the
tier is the highest. -/
theorem VerificationCase.decisionShapeCheck_withDecision (c : VerificationCase)
    {decision : PersistedTierDecision} {decidedAt : ℤ} (decidedBy : ℕ) (row : CredentialPolicyRow)
    (hreasons : decision.reasons ≠ [])
    (hshape :
      (decision.tier = .fullyVerified ∧ ∃ expiry ∈ decision.tierExpiresAt, decidedAt < expiry) ∨
      (decision.tier ≠ .fullyVerified ∧ decision.tierExpiresAt = none)) :
    (c.withDecision decision decidedAt decidedBy row).DecisionShapeCheck := by
  refine ⟨?_, .inr ⟨rfl, Option.some_ne_none _, Option.some_ne_none _, Option.some_ne_none _, rfl,
    hreasons, decidedAt, rfl, ?_⟩⟩
  · rcases hshape with ⟨htier, -⟩ | ⟨-, hnone⟩
    · exact .inr (congrArg some htier)
    · exact .inl hnone
  · rcases hshape with ⟨htier, hexpiry⟩ | ⟨htier, hnone⟩
    · exact .inl ⟨congrArg some htier, hexpiry⟩
    · exact .inr ⟨fun heq ↦ htier (Option.some.inj heq), hnone⟩

/-- The row of a case decided so satisfies them. -/
theorem Decides.decisionShapeCheck (hvalid : policy.Valid) {decision : PersistedTierDecision}
    (hd : Decides policy checks now decision) (c : VerificationCase) (decidedBy : ℕ)
    (row : CredentialPolicyRow) :
    (c.withDecision decision.toMicroseconds (1000 * now) decidedBy row).DecisionShapeCheck := by
  apply VerificationCase.decisionShapeCheck_withDecision
  · cases hd <;> exact List.cons_ne_nil _ _
  · cases hd with
    | conflict => exact .inr ⟨by decide, rfl⟩
    | documents => exact .inr ⟨by decide, rfl⟩
    | identity => exact .inr ⟨by decide, rfl⟩
    | authority => exact .inr ⟨by decide, rfl⟩
    | full _ _ _ _ hexpiry =>
      have hlt := hexpiry.1.lt hvalid.freshness_pos
      exact .inl ⟨rfl, _, rfl, Int.mul_lt_mul_of_pos_left hlt (by decide)⟩

end Specification

section Dates

variable (policy : CredentialTierPolicy) (checks : List RecordedCredentialCheck) (now : ℤ)

/-- The instants of a decision are dates. -/
structure Dated : Prop where
  now : IsTimeValue now
  checkedAt : ∀ check ∈ checks, IsTimeValue check.checkedAt
  validUntil : ∀ check ∈ checks, ∀ validUntil ∈ check.validUntil, IsTimeValue validUntil

/-- A full verification, of which no evidence lapses before the last date. -/
def BeyondDates : Prop :=
  ¬ Conflicted policy checks now ∧ Documented policy checks now ∧ Confirmed policy checks now ∧
    ∀ bound, EvidenceBound policy checks now bound → 8640000000000000 < bound

/-- The decision is the specified one, and the row of the decided case satisfies its constraints. -/
structure DecidesAsSpecified (decision : PersistedTierDecision) : Prop where
  specification : TierSpecification policy checks now decision
  stored : ∀ (c : VerificationCase) (decidedBy : ℕ) (row : CredentialPolicyRow),
    (c.withDecision decision.toMicroseconds (1000 * now) decidedBy row).DecisionShapeCheck

end Dates

/-- **The tier decision is the specified one**, unless no evidence of a full verification lapses
before the last date there is. On a valid policy no internal error is thrown in either case. -/
theorem tier_decision_specified_iff {policy : CredentialTierPolicy}
    {checks : List RecordedCredentialCheck} {now : ℤ}
    (hvalid : validateCredentialTierPolicy policy = .ok ()) (hchecks : WellRecorded checks)
    (hdated : Dated checks now) :
    ∃ decision, decideTierFromRecordedChecks policy.providerType checks policy now = .ok decision ∧
      (DecidesAsSpecified policy checks now decision ↔ ¬ BeyondDates policy checks now) := by
  have hpolicy := CredentialTierPolicy.valid_of_validate hvalid
  obtain ⟨decision, hdecide, hdecides⟩ :=
    decideTierFromRecordedChecks_decides now hpolicy hchecks rfl hvalid
  refine ⟨decision, hdecide, fun h hbeyond ↦ ?_,
    fun hwithin ↦ ⟨?_, hdecides.decisionShapeCheck hpolicy⟩⟩
  · obtain ⟨hc, hdocumented, hconfirmed, hbounds⟩ := hbeyond
    obtain ⟨-, expiry, -, hdate, -, hleast⟩ :=
      h.specification.fullyVerified hc hdocumented hconfirmed
    have hlast := hbounds expiry hleast.1
    rw [IsTimeValue] at hdate
    omega
  · refine hdecides.specification hpolicy fun expiry hexpiry ↦ ?_
    have hnow := hdated.now
    by_contra hdate
    rw [IsTimeValue] at hnow hdate
    -- only a full verification has an expiry, and all its bounds are at least that
    cases hdecides with
    | conflict | documents | identity | authority => cases hexpiry
    | full hc hd hi ha he =>
      obtain rfl := Option.some.inj hexpiry
      have hlt := he.1.lt hpolicy.freshness_pos
      have hleast := isLeast_evidenceBound hpolicy.authority_ne_nil ha he
      refine hwithin ⟨hc, documented_iff.mpr ⟨hd, hi⟩, ha, fun bound hbound ↦ ?_⟩
      have hle := hleast.2 hbound
      omega

/-- A degree, reviewed, and an enrolment that two authorities can confirm. -/
def enrolmentPolicy : CredentialTierPolicy :=
  { version := "v1"
    providerType := "ADVOCATE"
    sources := [⟨"REVIEW", .manualDocument⟩, ⟨"REGISTRY", .authority⟩, ⟨"COUNCIL", .authority⟩]
    requiredDocumentLegs := [⟨"DEGREE", ["REVIEW"]⟩]
    identityConsistencyLeg := ⟨"DEGREE", ["REVIEW"]⟩
    currentAuthorityLegs := [⟨"ENROLMENT", ["REGISTRY", "COUNCIL"]⟩]
    currentAuthorityFreshnessMs := 1000 }

/-- A reviewed degree and an enrolment the council confirmed. -/
def confirmedEnrolment : List RecordedCredentialCheck :=
  [⟨1, "DEGREE", "REVIEW", .live, .pass, 100, none⟩,
    ⟨2, "ENROLMENT", "COUNCIL", .live, .pass, 200, some 900⟩]

theorem tier_decision_specified_iff_confirmedEnrolment :
    ∃ decision, decideTierFromRecordedChecks "ADVOCATE" confirmedEnrolment enrolmentPolicy 300 =
        .ok decision ∧ (DecidesAsSpecified enrolmentPolicy confirmedEnrolment 300 decision ↔
          ¬ BeyondDates enrolmentPolicy confirmedEnrolment 300) :=
  tier_decision_specified_iff (show validateCredentialTierPolicy enrolmentPolicy = .ok () from rfl)
    (show WellRecorded confirmedEnrolment from ⟨by decide, by decide, by decide⟩)
    (show Dated confirmedEnrolment 300 from ⟨by decide, by decide, by decide⟩)

/-- The same evidence, dated at the last date there is. -/
def lastEnrolment : List RecordedCredentialCheck :=
  [⟨1, "DEGREE", "REVIEW", .live, .pass, 8640000000000000, none⟩,
    ⟨2, "ENROLMENT", "COUNCIL", .live, .pass, 8640000000000000, none⟩]

/-- On the last date a full verification gets no date to lapse at. -/
theorem tier_decision_undated :
    validateCredentialTierPolicy enrolmentPolicy = .ok () ∧ WellRecorded lastEnrolment ∧
      Dated lastEnrolment 8640000000000000 ∧
      ∃ decision, decideTierFromRecordedChecks "ADVOCATE" lastEnrolment enrolmentPolicy
          8640000000000000 = .ok decision ∧ decision.tier = .fullyVerified ∧
        ¬ DecidesAsSpecified enrolmentPolicy lastEnrolment 8640000000000000 decision := by
  refine ⟨rfl, ⟨by decide, by decide, by decide⟩, ⟨by decide, by decide, by decide⟩,
    ⟨⟨.fullyVerified, ["CURRENT_LIVE_AUTHORITY_CONFIRMED"]⟩, some 8640000000001000⟩, by rfl, rfl,
    ?_⟩
  intro h
  obtain ⟨expiry, hexpiry, hdate⟩ := h.specification.isTimeValue rfl
  obtain rfl := Option.some.inj hexpiry
  exact absurd hdate (by decide)

end Nayasetu
