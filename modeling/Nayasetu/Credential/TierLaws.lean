import Mathlib.Data.Int.ConditionallyCompleteOrder
import Mathlib.Order.Monotone.Defs
import Nayasetu.Credential.TierSpecification

/-!
# Laws of the tier decision

How a decision depends on the history and on the instant. Checks that no leg of the policy takes,
or that are not live, or not yet made, have no influence, and of the others only the order of
recording counts, not the numbers that record it. Before its expiry a full verification stays as
it is unless a relevant check arrives. A source outage takes evidence away, but it also takes the
place of an earlier conflict of the same source, and then it can raise the tier.
-/

namespace Nayasetu

open Collections

/-! ## Relevant checks

A check is relevant if some leg of the policy takes its source and it was live and made by then.
Two histories with the same relevant checks, recorded in the same order, lead to the same
decision, whatever numbers the records carry.
-/

/-- The visible checks some leg of the policy takes. -/
def relevantChecks (policy : CredentialTierPolicy)
    (checks : List RecordedCredentialCheck) (now : ℤ) : List RecordedCredentialCheck :=
  (visibleChecks checks now).filter fun check ↦ policy.Allows check.checkType check.sourceId

/-- The check under another sequence number. -/
def RecordedCredentialCheck.renumber (renumbering : ℤ → ℤ) (check : RecordedCredentialCheck) :
    RecordedCredentialCheck :=
  { check with recordedSequence := renumbering check.recordedSequence }

/-- The second list is the first up to the order and up to sequence numbers in the same order. -/
structure Renumbered (renumbering : ℤ → ℤ) (checks checks' : List RecordedCredentialCheck) :
    Prop where
  strictMono : StrictMonoOn renumbering {n | ∃ check ∈ checks, check.recordedSequence = n}
  perm : (checks.map (·.renumber renumbering)).Perm checks'

/-- What has no influence on a decision at `now`: a check that is not live, one from the future,
and one of a source that is not declared or confers no tier. -/
def CredentialTierPolicy.Disregards (policy : CredentialTierPolicy) (now : ℤ)
    (check : RecordedCredentialCheck) : Prop :=
  check.sourceMode ≠ .live ∨ now < check.checkedAt ∨
    ∀ source ∈ policy.sources, source.sourceId = check.sourceId →
      source.evidenceKind = .formatValidation ∨ source.evidenceKind = .llmAdvisory

section Relevance

variable {policy : CredentialTierPolicy} {checks checks' : List RecordedCredentialCheck} {now : ℤ}
  {f : ℤ → ℤ} {leg : CredentialLegPolicy}

theorem mem_relevantChecks {check : RecordedCredentialCheck} :
    check ∈ relevantChecks policy checks now ↔
      check ∈ visibleChecks checks now ∧ policy.Allows check.checkType check.sourceId := by
  simp only [relevantChecks, List.mem_filter, decide_eq_true_iff]

/-- A check the policy takes is current if it is the latest of the relevant ones: all checks of its
leg and source are relevant with it. -/
theorem isCurrent_iff_relevant {check : RecordedCredentialCheck}
    (hallows : policy.Allows check.checkType check.sourceId) :
    IsCurrent checks now check ↔
      IsLatest (·.pair) (·.recordedSequence) (relevantChecks policy checks now) check := by
  constructor
  · intro h
    refine ⟨mem_relevantChecks.mpr ⟨IsLatest.mem h, hallows⟩, fun other hother hpair ↦ ?_⟩
    exact IsLatest.greatest h other (mem_relevantChecks.mp hother).1 hpair
  · intro h
    refine ⟨(mem_relevantChecks.mp h.mem).1, fun other hother hpair ↦ ?_⟩
    have hsame : other.checkType = check.checkType ∧ other.sourceId = check.sourceId := by
      simpa only [RecordedCredentialCheck.pair, Prod.mk.injEq] using hpair
    refine h.greatest other (mem_relevantChecks.mpr ⟨hother, ?_⟩) hpair
    rwa [hsame.1, hsame.2]

/-- Every leg of the policy takes its own sources. -/
theorem Supports.allows (hleg : leg ∈ policy.allLegs) {check : RecordedCredentialCheck}
    (h : Supports checks now leg check) : policy.Allows check.checkType check.sourceId :=
  ⟨leg, hleg, h.checkType.symm, h.source⟩

theorem Supports.mem_relevantChecks (hleg : leg ∈ policy.allLegs) {check : RecordedCredentialCheck}
    (h : Supports checks now leg check) : check ∈ relevantChecks policy checks now :=
  Nayasetu.mem_relevantChecks.mpr ⟨IsLatest.mem h.current, h.allows hleg⟩

theorem Renumbered.mem_iff (h : Renumbered f checks checks') {check : RecordedCredentialCheck} :
    check ∈ checks' ↔ ∃ other ∈ checks, other.renumber f = check := by
  rw [← h.perm.mem_iff, List.mem_map]

theorem Renumbered.isLatest_iff (h : Renumbered f checks checks')
    {check : RecordedCredentialCheck} : IsLatest (·.pair) (·.recordedSequence) checks' check ↔
      ∃ other, IsLatest (·.pair) (·.recordedSequence) checks other ∧ other.renumber f = check := by
  constructor
  · intro hl
    obtain ⟨other, hmem, rfl⟩ := h.mem_iff.mp hl.mem
    refine ⟨other, ⟨hmem, fun b hb hpair ↦ ?_⟩, rfl⟩
    have hle : f b.recordedSequence ≤ f other.recordedSequence :=
      hl.greatest (b.renumber f) (h.mem_iff.mpr ⟨b, hb, rfl⟩) hpair
    exact (h.strictMono.le_iff_le ⟨b, hb, rfl⟩ ⟨other, hmem, rfl⟩).mp hle
  · rintro ⟨other, hl, rfl⟩
    refine ⟨h.mem_iff.mpr ⟨other, hl.mem, rfl⟩, fun b' hb' hpair ↦ ?_⟩
    obtain ⟨b, hb, rfl⟩ := h.mem_iff.mp hb'
    exact h.strictMono.monotoneOn ⟨b, hb, rfl⟩ ⟨other, hl.mem, rfl⟩ (hl.greatest b hb hpair)

variable (h : Renumbered f (relevantChecks policy checks now) (relevantChecks policy checks' now))

include h

theorem Renumbered.isCurrent_iff {check : RecordedCredentialCheck}
    (hallows : policy.Allows check.checkType check.sourceId) :
    IsCurrent checks' now check ↔
      ∃ other, IsCurrent checks now other ∧ other.renumber f = check := by
  rw [isCurrent_iff_relevant hallows, h.isLatest_iff]
  refine exists_congr fun other ↦ and_congr_left fun heq ↦ ?_
  subst heq
  have hother : IsCurrent checks now other ↔ _ := isCurrent_iff_relevant hallows
  exact hother.symm

theorem Renumbered.supports_iff (hleg : leg ∈ policy.allLegs) {check : RecordedCredentialCheck} :
    Supports checks' now leg check ↔
      ∃ other, Supports checks now leg other ∧ other.renumber f = check := by
  constructor
  · intro hs
    obtain ⟨other, hcurrent, rfl⟩ := (h.isCurrent_iff (hs.allows hleg)).mp hs.current
    exact ⟨other, ⟨hcurrent, hs.pass, hs.unexpired, hs.checkType, hs.source⟩, rfl⟩
  · rintro ⟨other, hs, rfl⟩
    have hallows : policy.Allows (other.renumber f).checkType (other.renumber f).sourceId :=
      hs.allows hleg
    have hcurrent : IsCurrent checks' now (other.renumber f) :=
      (h.isCurrent_iff hallows).mpr ⟨other, hs.current, rfl⟩
    exact ⟨hcurrent, hs.pass, hs.unexpired, hs.checkType, hs.source⟩

theorem Renumbered.supportsFreshly_iff (hleg : leg ∈ policy.allLegs)
    {check : RecordedCredentialCheck} : SupportsFreshly policy checks' now leg check ↔
      ∃ other, SupportsFreshly policy checks now leg other ∧ other.renumber f = check := by
  constructor
  · intro hs
    obtain ⟨other, hother, rfl⟩ := (h.supports_iff hleg).mp hs.toSupports
    exact ⟨other, ⟨hother, hs.fresh⟩, rfl⟩
  · rintro ⟨other, hs, rfl⟩
    exact ⟨(h.supports_iff hleg).mpr ⟨other, hs.toSupports, rfl⟩, hs.fresh⟩

theorem Renumbered.conflicted_iff : Conflicted policy checks' now ↔
    Conflicted policy checks now := by
  constructor
  · rintro ⟨check, hcurrent, hresult, hallows⟩
    obtain ⟨other, hother, rfl⟩ := (h.isCurrent_iff hallows).mp hcurrent
    exact ⟨other, hother, hresult, hallows⟩
  · rintro ⟨check, hcurrent, hresult, hallows⟩
    have hsame : policy.Allows (check.renumber f).checkType (check.renumber f).sourceId := hallows
    exact ⟨check.renumber f, (h.isCurrent_iff hsame).mpr ⟨check, hcurrent, rfl⟩, hresult, hsame⟩

theorem Renumbered.isNewest_iff {P P' : RecordedCredentialCheck → Prop}
    (hP : ∀ check, P check → check ∈ relevantChecks policy checks now)
    (hiff : ∀ check, P' check ↔ ∃ other, P other ∧ other.renumber f = check)
    {check : RecordedCredentialCheck} :
    IsNewest P' check ↔ ∃ other, IsNewest P other ∧ other.renumber f = check := by
  have hle {a b : RecordedCredentialCheck} (ha : P a) (hb : P b) :
      f a.recordedSequence ≤ f b.recordedSequence ↔ a.recordedSequence ≤ b.recordedSequence :=
    h.strictMono.le_iff_le ⟨a, hP a ha, rfl⟩ ⟨b, hP b hb, rfl⟩
  constructor
  · intro hnew
    obtain ⟨other, hother, rfl⟩ := (hiff check).mp hnew.mem
    refine ⟨other, ⟨hother, fun b hb ↦ ?_⟩, rfl⟩
    refine (hnew.newest (b.renumber f) ((hiff _).mpr ⟨b, hb, rfl⟩)).imp_right fun hage ↦ ?_
    exact ⟨hage.1, (hle hb hother).mp hage.2⟩
  · rintro ⟨other, hnew, rfl⟩
    refine ⟨(hiff _).mpr ⟨other, hnew.mem, rfl⟩, fun b' hb' ↦ ?_⟩
    obtain ⟨b, hb, rfl⟩ := (hiff b').mp hb'
    refine (hnew.newest b hb).imp_right fun hage ↦ ?_
    exact ⟨hage.1, (hle hb hnew.mem).mpr hage.2⟩

theorem Renumbered.expiryBound_iff {bound : ℤ} :
    ExpiryBound policy checks' now bound ↔ ExpiryBound policy checks now bound := by
  have hdocuments {leg : CredentialLegPolicy} (hleg : leg ∈ policy.documentLegs)
      {check : RecordedCredentialCheck} : IsNewest (Supports checks' now leg) check ↔
        ∃ other, IsNewest (Supports checks now leg) other ∧ other.renumber f = check :=
    have hleg' : leg ∈ policy.allLegs := CredentialTierPolicy.mem_allLegs.mpr (.inl hleg)
    h.isNewest_iff (fun _ hs ↦ hs.mem_relevantChecks hleg') fun _ ↦ h.supports_iff hleg'
  have hauthority {leg : CredentialLegPolicy} (hleg : leg ∈ policy.currentAuthorityLegs)
      {check : RecordedCredentialCheck} : IsNewest (SupportsFreshly policy checks' now leg) check ↔
        ∃ other, IsNewest (SupportsFreshly policy checks now leg) other ∧
        other.renumber f = check :=
    have hleg' : leg ∈ policy.allLegs := CredentialTierPolicy.mem_allLegs.mpr (.inr hleg)
    h.isNewest_iff (fun _ hs ↦ hs.toSupports.mem_relevantChecks hleg') fun _ ↦
      h.supportsFreshly_iff hleg'
  constructor
  · intro hb
    rcases hb with _ | ⟨hleg, hcheck, hvalid⟩ | ⟨hleg, hcheck, hvalid⟩ | ⟨hleg, hcheck⟩
    · exact .decided
    · obtain ⟨other, hother, rfl⟩ := (hdocuments hleg).mp hcheck
      exact .document hleg hother hvalid
    · obtain ⟨other, hother, rfl⟩ := (hauthority hleg).mp hcheck
      exact .authority hleg hother hvalid
    · obtain ⟨other, hother, rfl⟩ := (hauthority hleg).mp hcheck
      have hstale : ExpiryBound policy checks now
          (other.checkedAt + policy.currentAuthorityFreshnessMs) := .stale hleg hother
      exact hstale
  · intro hb
    rcases hb with _ | ⟨hleg, hcheck, hvalid⟩ | ⟨hleg, hcheck, hvalid⟩ | @⟨_, check, hleg, hcheck⟩
    · exact .decided
    · exact .document hleg ((hdocuments hleg).mpr ⟨_, hcheck, rfl⟩) hvalid
    · exact .authority hleg ((hauthority hleg).mpr ⟨_, hcheck, rfl⟩) hvalid
    · have hstale : ExpiryBound policy checks' now
          ((check.renumber f).checkedAt + policy.currentAuthorityFreshnessMs) :=
        .stale hleg ((hauthority hleg).mpr ⟨check, hcheck, rfl⟩)
      exact hstale

/-- The evidence calls for the same decision. -/
theorem Renumbered.decides {decision : PersistedTierDecision}
    (hd : Decides policy checks now decision) : Decides policy checks' now decision := by
  have hconflict := h.conflicted_iff
  have hsupported {leg : CredentialLegPolicy} (hleg : leg ∈ policy.allLegs) :
      (∃ check, Supports checks' now leg check) ↔ ∃ check, Supports checks now leg check := by
    simp only [h.supports_iff hleg, exists_comm (α := RecordedCredentialCheck), exists_and_left,
      exists_eq', and_true]
  have hconfirmed {leg : CredentialLegPolicy} (hleg : leg ∈ policy.allLegs) :
      (∃ check, SupportsFreshly policy checks' now leg check) ↔
        ∃ check, SupportsFreshly policy checks now leg check := by
    simp only [h.supportsFreshly_iff hleg, exists_comm (α := RecordedCredentialCheck),
      exists_and_left, exists_eq', and_true]
  have hdocuments : (∀ leg ∈ policy.requiredDocumentLegs, ∃ check, Supports checks' now leg check) ↔
      ∀ leg ∈ policy.requiredDocumentLegs, ∃ check, Supports checks now leg check :=
    forall₂_congr fun leg hleg ↦ hsupported (by simp [CredentialTierPolicy.allLegs, hleg])
  have hleg :
      policy.identityConsistencyLeg ∈ policy.allLegs := by simp [CredentialTierPolicy.allLegs]
  have hidentity := hsupported hleg
  have hauthority : (∀ leg ∈ policy.currentAuthorityLegs,
        ∃ check, SupportsFreshly policy checks' now leg check) ↔
      ∀ leg ∈ policy.currentAuthorityLegs, ∃ check, SupportsFreshly policy checks now leg check :=
    forall₂_congr fun leg hleg ↦ hconfirmed (by simp [CredentialTierPolicy.allLegs, hleg])
  cases hd with
  | conflict hc => exact .conflict (hconflict.mpr hc)
  | documents hc hd => exact .documents (hconflict.not.mpr hc) (hdocuments.not.mpr hd)
  | identity hc hd hi =>
    exact .identity (hconflict.not.mpr hc) (hdocuments.mpr hd) (hidentity.not.mpr hi)
  | authority hc hd hi ha =>
    exact .authority (hconflict.not.mpr hc) (hdocuments.mpr hd) (hidentity.mpr hi)
      (hauthority.not.mpr ha)
  | full hc hd hi ha he =>
    refine .full (hconflict.not.mpr hc) (hdocuments.mpr hd) (hidentity.mpr hi)
      (hauthority.mpr ha) ?_
    simpa only [IsLeast, lowerBounds, Set.mem_ofPred_eq, h.expiryBound_iff] using he

end Relevance

theorem CredentialTierPolicy.Valid.not_mem_relevantChecks {policy : CredentialTierPolicy}
    (hpolicy : policy.Valid) {checks : List RecordedCredentialCheck} {now : ℤ}
    {check : RecordedCredentialCheck} (h : policy.Disregards now check) :
    check ∉ relevantChecks policy checks now := by
  intro hmem
  obtain ⟨hvisible, leg, hleg, -, hid⟩ := mem_relevantChecks.mp hmem
  obtain ⟨hmode, hdate⟩ : check.sourceMode = .live ∧ check.checkedAt ≤ now := by
    simpa only [visibleChecks, Bool.and_eq_true, decide_eq_true_iff] using
      List.of_mem_filter hvisible
  rcases h with hnot | hfuture | hkind
  · exact hnot hmode
  · omega
  · obtain ⟨source, hsource, hsourceId⟩ := hpolicy.declared leg hleg check.sourceId hid
    have hallowed : source.sourceId ∈ leg.allowedSourceIds := hsourceId ▸ hid
    rcases CredentialTierPolicy.mem_allLegs.mp hleg with hdocument | hauthority
    · obtain ⟨hformat, hllm⟩ := hpolicy.document_kind leg hdocument source hsource hallowed
      exact (hkind source hsource hsourceId).elim hformat hllm
    · have hauthority := hpolicy.authority_kind leg hauthority source hsource hallowed
      rcases hkind source hsource hsourceId with hformat | hllm
      · rw [hauthority] at hformat
        cases hformat
      · rw [hauthority] at hllm
        cases hllm

/-- The same relevant checks in another order are the same up to renumbering. -/
theorem renumbered_id_of_perm {checks checks' : List RecordedCredentialCheck}
    (h : checks.Perm checks') : Renumbered id checks checks' where
  strictMono := strictMono_id.strictMonoOn _
  perm := by
    have hid : (fun check : RecordedCredentialCheck ↦ check.renumber id) = id := rfl
    rwa [hid, List.map_id]

/-- **Irrelevant checks have no influence.** Histories with the same relevant checks, up to the
order and up to sequence numbers in the same order, are decided alike; so are a history and any
arrangement of it together with checks the policy disregards. -/
theorem irrelevant_checks_without_influence {policy : CredentialTierPolicy}
    {checks checks' : List RecordedCredentialCheck} (providerType : String) (now : ℤ)
    (hvalid : validateCredentialTierPolicy policy = .ok ()) (hchecks : WellRecorded checks)
    (hchecks' : WellRecorded checks') :
    (∀ renumbering, Renumbered renumbering (relevantChecks policy checks now)
        (relevantChecks policy checks' now) →
      decideTierFromRecordedChecks providerType checks policy now =
        decideTierFromRecordedChecks providerType checks' policy now) ∧
    ∀ disregarded, (∀ check ∈ disregarded, policy.Disregards now check) →
      checks'.Perm (checks ++ disregarded) →
      decideTierFromRecordedChecks providerType checks policy now =
        decideTierFromRecordedChecks providerType checks' policy now := by
  have hpolicy := CredentialTierPolicy.valid_of_validate hvalid
  have hrenumbered : ∀ renumbering, Renumbered renumbering (relevantChecks policy checks now)
        (relevantChecks policy checks' now) →
      decideTierFromRecordedChecks providerType checks policy now =
        decideTierFromRecordedChecks providerType checks' policy now := by
    intro renumbering h
    by_cases htype : providerType = policy.providerType
    · obtain ⟨decision, hdecide, hd⟩ :=
        decideTierFromRecordedChecks_decides now hpolicy hchecks htype hvalid
      obtain ⟨decision', hdecide', hd'⟩ :=
        decideTierFromRecordedChecks_decides now hpolicy hchecks' htype hvalid
      rw [hdecide, hdecide', (h.decides hd).unique hd']
    · -- both calls fail before they look at a check
      rw [decideTierFromRecordedChecks, decideTierFromRecordedChecks, require, if_neg htype]
      rfl
  refine ⟨hrenumbered, fun disregarded hdisregarded hperm ↦ hrenumbered id
    (renumbered_id_of_perm ?_)⟩
  have hnone : relevantChecks policy disregarded now = [] := by
    refine List.eq_nil_iff_forall_not_mem.mpr fun check hmem ↦ ?_
    refine hpolicy.not_mem_relevantChecks (hdisregarded check ?_) hmem
    exact List.mem_of_mem_filter (mem_relevantChecks.mp hmem).1
  have hrelevant : (relevantChecks policy checks' now).Perm (relevantChecks policy checks now) := by
    have hfiltered :=
      (hperm.filter fun check ↦ check.sourceMode = .live && check.checkedAt ≤ now).filter
      fun check ↦ policy.Allows check.checkType check.sourceId
    rw [List.filter_append, List.filter_append] at hfiltered
    rwa [← visibleChecks, ← relevantChecks, ← visibleChecks, ← relevantChecks, ← visibleChecks,
      ← relevantChecks, hnone, List.append_nil] at hfiltered
  exact hrelevant.symm

/-- The enrolment again, recorded under other numbers and in another order, beside a contradiction
of a mock. -/
def shuffledEnrolment : List RecordedCredentialCheck :=
  [⟨20, "ENROLMENT", "COUNCIL", .live, .pass, 200, some 900⟩,
    ⟨30, "ENROLMENT", "COUNCIL", .mock, .mismatch, 250, none⟩,
    ⟨10, "DEGREE", "REVIEW", .live, .pass, 100, none⟩]

theorem irrelevant_checks_without_influence_shuffledEnrolment :
    decideTierFromRecordedChecks "ADVOCATE" confirmedEnrolment enrolmentPolicy 300 =
      decideTierFromRecordedChecks "ADVOCATE" shuffledEnrolment enrolmentPolicy 300 := by
  refine (irrelevant_checks_without_influence "ADVOCATE" 300
    (show validateCredentialTierPolicy enrolmentPolicy = .ok () from rfl)
    ⟨by decide, by decide, by decide⟩ ⟨by decide, by decide, by decide⟩).1 (10 * ·) ⟨?_, by decide⟩
  intro a _ b _ hlt
  exact Int.mul_lt_mul_of_pos_left hlt (by decide)

/-! ## Later instants

Between a decision and its expiry nothing lapses by time alone: what supported a leg supports it
still, and what is newest stays newest.
-/

section Later

variable {policy : CredentialTierPolicy} {checks : List RecordedCredentialCheck} {d t : ℤ}

/-- What had been checked by `d`. -/
def checkedBy (checks : List RecordedCredentialCheck) (d : ℤ) : List RecordedCredentialCheck :=
  checks.filter fun check ↦ check.checkedAt ≤ d

theorem WellRecorded.checkedBy (h : WellRecorded checks) (d : ℤ) :
    WellRecorded (checkedBy checks d) where
  sequence := h.sequence.sublist (List.filter_sublist.map _)
  checkType check hc := h.checkType check (List.mem_of_mem_filter hc)
  sourceId check hc := h.sourceId check (List.mem_of_mem_filter hc)

/-- Later, the current checks among those are the ones that were current at `d`. -/
theorem isCurrent_checkedBy (h : d ≤ t) : IsCurrent (checkedBy checks d) t =
    IsCurrent checks d := by
  have hvisible : visibleChecks (checkedBy checks d) t = visibleChecks checks d := by
    rw [visibleChecks, checkedBy, List.filter_filter, visibleChecks]
    refine List.filter_congr fun check _ ↦ ?_
    rw [Bool.eq_iff_iff]
    simp only [Bool.and_eq_true, decide_eq_true_iff]
    constructor
    · intro hvisible
      exact ⟨hvisible.1.1, hvisible.2⟩
    · intro hvisible
      exact ⟨⟨hvisible.1, hvisible.2.trans h⟩, hvisible.2⟩
  rw [IsCurrent, hvisible, ← IsCurrent]

/-- Evidence that has not expired by `t` still supports the leg. -/
theorem Supports.later (h : d ≤ t) {leg : CredentialLegPolicy} {check : RecordedCredentialCheck}
    (hs : Supports checks d leg check) (hvalid : ∀ validUntil ∈ check.validUntil, t < validUntil) :
    Supports (checkedBy checks d) t leg check :=
  { hs with
    current := by rw [isCurrent_checkedBy h]; exact hs.current
    unexpired := hvalid }

/-- The evidence at `t` was evidence at `d`. -/
theorem Supports.earlier (h : d ≤ t) {leg : CredentialLegPolicy} {check : RecordedCredentialCheck}
    (hs : Supports (checkedBy checks d) t leg check) : Supports checks d leg check :=
  { hs with
    current := by rw [← isCurrent_checkedBy h]; exact hs.current
    unexpired := fun validUntil hvalid ↦ h.trans_lt (hs.unexpired validUntil hvalid) }

theorem SupportsFreshly.earlier (h : d ≤ t) {leg : CredentialLegPolicy}
    {check : RecordedCredentialCheck}
    (hs : SupportsFreshly policy (checkedBy checks d) t leg check) :
    SupportsFreshly policy checks d leg check :=
  { hs.toSupports.earlier h with fresh := h.trans_lt hs.fresh }

theorem IsNewest.mono {P Q : RecordedCredentialCheck → Prop} {check : RecordedCredentialCheck}
    (hn : IsNewest P check) (hsub : ∀ other, Q other → P other) (hmem : Q check) :
    IsNewest Q check :=
  ⟨hmem, fun other hother ↦ hn.newest other (hsub other hother)⟩

/-- Before its expiry a full verification still has all its evidence, and the newest evidence of
every leg is the one it had: the candidates that drop out are others. -/
theorem Decides.full_of_lt (hpolicy : policy.Valid) (hchecks : WellRecorded checks) (h : d ≤ t)
    {expiry : ℤ} {reasons : List String}
    (hd : Decides policy checks d ⟨⟨.fullyVerified, reasons⟩, some expiry⟩) (ht : t < expiry) :
    Decides policy (checkedBy checks d) t ⟨⟨.fullyVerified, reasons⟩, some expiry⟩ := by
  cases hd with
  | full hconflict hdocuments hidentity hauthority hexpiry =>
  have hevidence := isLeast_evidenceBound hpolicy.authority_ne_nil hauthority hexpiry
  have hdocument {leg : CredentialLegPolicy} (hleg : leg ∈ policy.documentLegs)
      {check : RecordedCredentialCheck} (hnewest : IsNewest (Supports checks d leg) check) :
      IsNewest (Supports (checkedBy checks d) t leg) check := by
    refine hnewest.mono (fun _ hs ↦ hs.earlier h) (hnewest.mem.later h fun validUntil hvalid ↦ ?_)
    exact ht.trans_le (hexpiry.2 (.document hleg hnewest hvalid))
  -- what the decision rests on outlasts `t`, since all of its bounds lie behind it
  have hconfirmed {leg : CredentialLegPolicy} (hleg : leg ∈ policy.currentAuthorityLegs)
      {check : RecordedCredentialCheck}
      (hnewest : IsNewest (SupportsFreshly policy checks d leg) check) :
      IsNewest (SupportsFreshly policy (checkedBy checks d) t leg) check := by
    refine hnewest.mono (fun _ hs ↦ hs.earlier h)
      ⟨hnewest.mem.toSupports.later h fun validUntil hvalid ↦ ?_, ?_⟩
    · exact ht.trans_le (hexpiry.2 (.authority hleg hnewest hvalid))
    · exact ht.trans_le (hexpiry.2 (.stale hleg hnewest))
  have hdocument_newest {leg : CredentialLegPolicy}
      (hs : ∃ check, Supports checks d leg check) : ∃ check,
      IsNewest (Supports checks d leg) check :=
    exists_isNewest (fun _ hs ↦ hs.current.mem.1) hs
  have hconfirmed_newest {leg : CredentialLegPolicy} (hleg : leg ∈ policy.currentAuthorityLegs) :
      ∃ check, IsNewest (SupportsFreshly policy checks d leg) check :=
    exists_isNewest (fun _ hs ↦ hs.current.mem.1) (hauthority leg hleg)
  refine .full ?_ (fun leg hleg ↦ ?_) ?_ (fun leg hleg ↦ ?_) ⟨?_, fun bound hbound ↦ ?_⟩
  · rwa [Conflicted, isCurrent_checkedBy h]
  · obtain ⟨check, hcheck⟩ := hdocument_newest (hdocuments leg hleg)
    exact ⟨check, (hdocument (List.mem_append_left _ hleg) hcheck).mem⟩
  · obtain ⟨check, hcheck⟩ := hdocument_newest hidentity
    exact ⟨check, (hdocument (List.mem_append_right _ (List.mem_singleton.mpr rfl)) hcheck).mem⟩
  · obtain ⟨check, hcheck⟩ := hconfirmed_newest hleg
    exact ⟨check, (hconfirmed hleg hcheck).mem⟩
  · -- the bound `d` itself gives is not the earliest, so the expiry is a bound of the evidence
    rcases hevidence.1 with ⟨hleg, hcheck, hvalid⟩ | ⟨hleg, hcheck, hvalid⟩ | ⟨hleg, hcheck⟩
    · exact .document hleg (hdocument hleg hcheck) hvalid
    · exact .authority hleg (hconfirmed hleg hcheck) hvalid
    · exact .stale hleg (hconfirmed hleg hcheck)
  · rcases hbound with _ | ⟨hleg, hcheck, hvalid⟩ | ⟨hleg, hcheck, hvalid⟩ | ⟨hleg, hcheck⟩
    · have hfirst := hexpiry.2 ExpiryBound.decided
      omega
    · obtain ⟨check, hnewest⟩ := hdocument_newest ⟨_, hcheck.mem.earlier h⟩
      obtain rfl := (hdocument hleg hnewest).unique (fun _ hs ↦ (hs.earlier h).current.mem.1)
        hchecks.sequence hcheck
      exact hexpiry.2 (.document hleg hnewest hvalid)
    · obtain ⟨check, hnewest⟩ := hconfirmed_newest hleg
      obtain rfl := (hconfirmed hleg hnewest).unique (fun _ hs ↦ (hs.earlier h).current.mem.1)
        hchecks.sequence hcheck
      exact hexpiry.2 (.authority hleg hnewest hvalid)
    · obtain ⟨check, hnewest⟩ := hconfirmed_newest hleg
      obtain rfl := (hconfirmed hleg hnewest).unique (fun _ hs ↦ (hs.earlier h).current.mem.1)
        hchecks.sequence hcheck
      exact hexpiry.2 (.stale hleg hnewest)

/-- **A full verification is stable until its expiry.** As long as no live check on a leg and source
of the policy is dated after it, the decision at any later instant before the expiry is the same,
with the same reasons and the same expiry. -/
theorem full_verification_stable {providerType : String} {decision : PersistedTierDecision}
    {expiry : ℤ} (hvalid : validateCredentialTierPolicy policy = .ok ())
    (hchecks : WellRecorded checks)
    (hdecide : decideTierFromRecordedChecks providerType checks policy d = .ok decision)
    (htier : decision.tier = .fullyVerified) (hexpiry : decision.tierExpiresAt = some expiry)
    (h : d ≤ t) (ht : t < expiry)
    (hquiet : ∀ check ∈ checks, check.sourceMode = .live →
      policy.Allows check.checkType check.sourceId →
      ¬ (d < check.checkedAt ∧ check.checkedAt ≤ t)) :
    decideTierFromRecordedChecks providerType checks policy t = .ok decision := by
  have hpolicy := CredentialTierPolicy.valid_of_validate hvalid
  have htype : providerType = policy.providerType := by
    by_contra hne
    rw [decideTierFromRecordedChecks, hvalid, require, if_neg hne] at hdecide
    cases hdecide
  obtain ⟨decision', hdecide', hd⟩ :=
    decideTierFromRecordedChecks_decides d hpolicy hchecks htype hvalid
  obtain rfl : decision = decision' := Except.ok.inj (hdecide.symm.trans hdecide')
  obtain ⟨decided, hdecided, hlater⟩ :=
    decideTierFromRecordedChecks_decides t hpolicy hchecks htype hvalid
  have hrelevant : relevantChecks policy (checkedBy checks d) t =
      relevantChecks policy checks t := by
    rw [relevantChecks, visibleChecks, checkedBy, relevantChecks, visibleChecks, List.filter_filter,
      List.filter_filter, List.filter_filter]
    refine List.filter_congr fun check hcheck ↦ ?_
    rw [Bool.eq_iff_iff]
    simp only [Bool.and_eq_true, decide_eq_true_iff]
    constructor
    · intro hc
      exact ⟨hc.1.1, hc.1.2⟩
    · intro hc
      refine ⟨hc, ?_⟩
      by_contra hnot
      exact hquiet check hcheck hc.2.1 hc.1 ⟨Int.not_le.mp hnot, hc.2.2⟩
  obtain ⟨⟨tier, reasons⟩, expiresAt⟩ := decision
  subst htier hexpiry
  have hfull := hd.full_of_lt hpolicy hchecks h ht
  have hsame := (renumbered_id_of_perm (.of_eq hrelevant)).decides hfull
  rw [hdecided, hlater.unique hsame]

end Later

theorem full_verification_stable_confirmedEnrolment :
    decideTierFromRecordedChecks "ADVOCATE" confirmedEnrolment enrolmentPolicy 899 =
      .ok ⟨⟨.fullyVerified, ["CURRENT_LIVE_AUTHORITY_CONFIRMED"]⟩, some 900⟩ :=
  full_verification_stable (d := 300) rfl ⟨by decide, by decide, by decide⟩ rfl rfl rfl (by decide)
    (by decide) (by decide)

/-! ## Outages

An `UNAVAILABLE` check takes the place of the check that stood for its leg and source. If that was
a pass, evidence is lost, and the tier can only fall. If it was a conflict, the conflict is gone.
-/

/-- A live check that found nothing, dated by `now` and recorded after all others. -/
structure IsOutage (checks : List RecordedCredentialCheck) (now : ℤ)
    (outage : RecordedCredentialCheck) : Prop where
  mode : outage.sourceMode = .live
  result : outage.result = .unavailable ∨ outage.result = .notFound
  date : outage.checkedAt ≤ now
  last : ∀ check ∈ checks, check.recordedSequence < outage.recordedSequence

/-- The only unresolved conflict is the last answer of the source that is out now, and but for it
the provider's documents are complete. -/
def HidesConflict (policy : CredentialTierPolicy) (checks : List RecordedCredentialCheck) (now : ℤ)
    (outage : RecordedCredentialCheck) : Prop :=
  Conflicted policy checks now ∧ Documented policy checks now ∧
    ∀ check, IsCurrent checks now check → (check.result = .mismatch ∨ check.result = .conflict) →
      policy.Allows check.checkType check.sourceId → check.pair = outage.pair

section Outages

variable {policy : CredentialTierPolicy} {checks : List RecordedCredentialCheck} {now : ℤ}
  {outage : RecordedCredentialCheck} {leg : CredentialLegPolicy}

theorem Decides.tier_le {checks' : List RecordedCredentialCheck}
    {before after : PersistedTierDecision}
    (hbefore : Decides policy checks now before) (hafter : Decides policy checks' now after)
    (hconflict : Conflicted policy checks now →
      Conflicted policy checks' now ∨ ¬ Documented policy checks' now)
    (hdocumented : Documented policy checks' now → Documented policy checks now)
    (hconfirmed : Confirmed policy checks' now → Confirmed policy checks now) :
    after.tier ≤ before.tier := by
  have hlow : ∀ tier : VerificationTier, .selfDeclared ≤ tier := fun tier ↦ Nat.zero_le _
  cases hafter with
  | conflict => exact hlow _
  | documents => exact hlow _
  | identity => exact hlow _
  | authority hc hd hi ha =>
    have hdocs : Documented policy checks' now := documented_iff.mpr ⟨hd, hi⟩
    obtain ⟨hd', hi'⟩ := documented_iff.mp (hdocumented hdocs)
    cases hbefore with
    | conflict hc' => exact absurd hdocs ((hconflict hc').resolve_left hc)
    | documents _ hnot => exact absurd hd' hnot
    | identity _ _ hnot => exact absurd hi' hnot
    | authority => exact Nat.le_refl _
    | full => exact (by decide : VerificationTier.documentVerified ≤ .fullyVerified)
  | full hc hd hi ha =>
    have hdocs : Documented policy checks' now := documented_iff.mpr ⟨hd, hi⟩
    obtain ⟨hd', hi'⟩ := documented_iff.mp (hdocumented hdocs)
    cases hbefore with
    | conflict hc' => exact absurd hdocs ((hconflict hc').resolve_left hc)
    | documents _ hnot => exact absurd hd' hnot
    | identity _ _ hnot => exact absurd hi' hnot
    | authority _ _ _ hnot => exact absurd (hconfirmed ha) hnot
    | full => exact Nat.le_refl _

/-- With documents and without a conflict the tier is not the lowest. -/
theorem Decides.selfDeclared_lt {decision : PersistedTierDecision}
    (hd : Decides policy checks now decision) (hconflict : ¬ Conflicted policy checks now)
    (hdocumented : Documented policy checks now) : ¬ decision.tier ≤ .selfDeclared := by
  obtain ⟨hdocuments, hidentity⟩ := documented_iff.mp hdocumented
  cases hd with
  | conflict hc => exact absurd hc hconflict
  | documents _ hnot => exact absurd hdocuments hnot
  | identity _ _ hnot => exact absurd hidentity hnot
  | authority => exact (by decide : ¬ VerificationTier.documentVerified ≤ .selfDeclared)
  | full => exact (by decide : ¬ VerificationTier.fullyVerified ≤ .selfDeclared)

variable (h : IsOutage checks now outage)

include h

/-- The outage is the last word of its source on its leg and leaves the others as they are. -/
theorem IsOutage.isCurrent_iff {check : RecordedCredentialCheck} :
    IsCurrent (checks ++ [outage]) now check ↔
      (IsCurrent checks now check ∧ check.pair ≠ outage.pair) ∨ check = outage := by
  have hvisible : visibleChecks (checks ++ [outage]) now =
      visibleChecks checks now ++ [outage] := by
    simp [visibleChecks, List.filter_append, h.mode, h.date]
  rw [IsCurrent, hvisible, isLatest_append_singleton]
  constructor
  · rintro (⟨hcurrent, hlast⟩ | ⟨heq, -⟩)
    · refine .inl ⟨hcurrent, fun hpair ↦ ?_⟩
      have hlt := h.last check (List.mem_of_mem_filter (IsLatest.mem hcurrent))
      exact absurd (hlast hpair.symm) (Int.not_le.mpr hlt)
    · exact .inr heq
  · rintro (⟨hcurrent, hpair⟩ | heq)
    · exact .inl ⟨hcurrent, fun heq ↦ absurd heq.symm hpair⟩
    · refine .inr ⟨heq, fun other hother _ ↦ ?_⟩
      exact (h.last other (List.mem_of_mem_filter hother)).le

theorem IsOutage.supports_iff {check : RecordedCredentialCheck} :
    Supports (checks ++ [outage]) now leg check ↔
      Supports checks now leg check ∧ check.pair ≠ outage.pair := by
  constructor
  · intro hs
    rcases h.isCurrent_iff.mp hs.current with ⟨hcurrent, hpair⟩ | rfl
    · exact ⟨{ hs with current := hcurrent }, hpair⟩
    · rcases h.result with hresult | hresult
      · exact absurd (hs.pass.symm.trans hresult) (by decide)
      · exact absurd (hs.pass.symm.trans hresult) (by decide)
  · rintro ⟨hs, hpair⟩
    exact { hs with current := h.isCurrent_iff.mpr (.inl ⟨hs.current, hpair⟩) }

theorem IsOutage.conflicted_iff : Conflicted policy (checks ++ [outage]) now ↔
    ∃ check, IsCurrent checks now check ∧ (check.result = .mismatch ∨ check.result = .conflict) ∧
      policy.Allows check.checkType check.sourceId ∧ check.pair ≠ outage.pair := by
  constructor
  · rintro ⟨check, hcurrent, hresult, hallows⟩
    rcases h.isCurrent_iff.mp hcurrent with ⟨hcurrent, hpair⟩ | rfl
    · exact ⟨check, hcurrent, hresult, hallows, hpair⟩
    · rcases h.result with hfound | hfound <;> rw [hfound] at hresult <;> simp at hresult
  · rintro ⟨check, hcurrent, hresult, hallows, hpair⟩
    exact ⟨check, h.isCurrent_iff.mpr (.inl ⟨hcurrent, hpair⟩), hresult, hallows⟩

theorem IsOutage.documented_of (hd : Documented policy (checks ++ [outage]) now) :
    Documented policy checks now := by
  intro leg hleg
  obtain ⟨check, hs⟩ := hd leg hleg
  exact ⟨check, (h.supports_iff.mp hs).1⟩

theorem IsOutage.confirmed_of (hc : Confirmed policy (checks ++ [outage]) now) :
    Confirmed policy checks now := by
  intro leg hleg
  obtain ⟨check, hs⟩ := hc leg hleg
  exact ⟨check, ⟨(h.supports_iff.mp hs.toSupports).1, hs.fresh⟩⟩

/-- A source that last reported a conflict is no evidence for anything, so its outage takes no
evidence away. -/
theorem IsOutage.documented_of_hidesConflict (hchecks : WellRecorded checks)
    (hhides : HidesConflict policy checks now outage) :
    Documented policy (checks ++ [outage]) now := by
  obtain ⟨⟨conflict, hcurrent, hresult, hallows⟩, hdocumented, honly⟩ := hhides
  intro leg hleg
  obtain ⟨check, hs⟩ := hdocumented leg hleg
  refine ⟨check, h.supports_iff.mpr ⟨hs, fun hpair ↦ ?_⟩⟩
  have hsame : check.pair = conflict.pair :=
    hpair.trans (honly conflict hcurrent hresult hallows).symm
  obtain rfl : check = conflict := IsLatest.eq hchecks.visible.sequence hs.current hcurrent hsame
  rw [hs.pass] at hresult
  simp at hresult

/-- **What a source outage does.** Recording that a source is out, or that it found nothing, never
raises the tier, unless the only unresolved conflict is the source's own last answer and the
provider's documents are complete otherwise; then it always does. -/
theorem source_outage_tier_le_iff (hvalid : validateCredentialTierPolicy policy = .ok ())
    (hchecks : WellRecorded (checks ++ [outage])) :
    ∃ before after,
      decideTierFromRecordedChecks policy.providerType checks policy now = .ok before ∧
      decideTierFromRecordedChecks policy.providerType (checks ++ [outage]) policy now = .ok after ∧
      (after.tier ≤ before.tier ↔ ¬ HidesConflict policy checks now outage) := by
  have hpolicy := CredentialTierPolicy.valid_of_validate hvalid
  have hrecorded : WellRecorded checks :=
    { sequence := hchecks.sequence.sublist ((List.sublist_append_left _ _).map _)
      checkType := fun check hc ↦ hchecks.checkType check (List.mem_append_left _ hc)
      sourceId := fun check hc ↦ hchecks.sourceId check (List.mem_append_left _ hc) }
  obtain ⟨before, hbefore, hd⟩ :=
    decideTierFromRecordedChecks_decides now hpolicy hrecorded rfl hvalid
  obtain ⟨after, hafter, hd'⟩ := decideTierFromRecordedChecks_decides now hpolicy hchecks rfl hvalid
  refine ⟨before, after, hbefore, hafter, fun hle hhides ↦ ?_, fun hhides ↦ ?_⟩
  · have hunconflicted : ¬ Conflicted policy (checks ++ [outage]) now := by
      intro hconflicted
      obtain ⟨check, hcurrent, hresult, hallows, hpair⟩ := h.conflicted_iff.mp hconflicted
      exact hpair (hhides.2.2 check hcurrent hresult hallows)
    have hself := hd.conflict_iff.mpr hhides.1
    subst hself
    exact hd'.selfDeclared_lt hunconflicted (h.documented_of_hidesConflict hrecorded hhides) hle
  · refine hd.tier_le hd' (fun hconflicted ↦ ?_) h.documented_of h.confirmed_of
    by_contra hnot
    push Not at hnot
    refine hhides ⟨hconflicted, h.documented_of hnot.2, fun check hcurrent hresult hallows ↦ ?_⟩
    by_contra hpair
    exact hnot.1 (h.conflicted_iff.mpr ⟨check, hcurrent, hresult, hallows, hpair⟩)

end Outages

/-- An enrolment the registry contradicted and the council confirmed. -/
def contradictedEnrolment : List RecordedCredentialCheck :=
  [⟨1, "DEGREE", "REVIEW", .live, .pass, 100, none⟩,
    ⟨2, "ENROLMENT", "REGISTRY", .live, .conflict, 150, none⟩,
    ⟨3, "ENROLMENT", "COUNCIL", .live, .pass, 200, some 900⟩]

def registryOutage : RecordedCredentialCheck :=
  ⟨4, "ENROLMENT", "REGISTRY", .live, .unavailable, 250, none⟩

theorem registryOutage_isOutage : IsOutage contradictedEnrolment 300 registryOutage :=
  ⟨rfl, .inl rfl, by decide, by decide⟩

theorem source_outage_tier_le_iff_registryOutage :
    ∃ before after,
      decideTierFromRecordedChecks "ADVOCATE" contradictedEnrolment enrolmentPolicy
        300 = .ok before ∧
      decideTierFromRecordedChecks "ADVOCATE" (contradictedEnrolment ++ [registryOutage])
        enrolmentPolicy 300 = .ok after ∧
      (after.tier ≤ before.tier ↔
        ¬ HidesConflict enrolmentPolicy contradictedEnrolment 300 registryOutage) :=
  source_outage_tier_le_iff registryOutage_isOutage
    (show validateCredentialTierPolicy enrolmentPolicy = .ok () from rfl)
    ⟨by decide, by decide, by decide⟩

/-- An outage that turns `SELF_DECLARED` into `FULLY_VERIFIED`. -/
theorem source_outage_raises_tier :
    ¬ ∀ (policy : CredentialTierPolicy) (checks : List RecordedCredentialCheck) (now : ℤ)
      (outage : RecordedCredentialCheck), validateCredentialTierPolicy policy = .ok () →
      WellRecorded (checks ++ [outage]) → IsOutage checks now outage → ∀ before after,
        decideTierFromRecordedChecks policy.providerType checks policy now = .ok before →
        decideTierFromRecordedChecks policy.providerType (checks ++ [outage]) policy
          now = .ok after →
        after.tier ≤ before.tier := by
  intro hall
  have hle := hall enrolmentPolicy contradictedEnrolment 300 registryOutage rfl
    ⟨by decide, by decide, by decide⟩ registryOutage_isOutage
    ⟨⟨.selfDeclared, ["UNRESOLVED_CREDENTIAL_CONFLICT"]⟩, none⟩
    ⟨⟨.fullyVerified, ["CURRENT_LIVE_AUTHORITY_CONFIRMED"]⟩, some 900⟩ rfl rfl
  exact absurd hle (by decide)

end Nayasetu
