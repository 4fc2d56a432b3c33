import Nayasetu.Credential.Safety
import Nayasetu.Credential.TierLaws

/-!
# Reported tiers and the evidence behind them

The tier a provider is shown with at an instant, against the tier its recorded evidence calls for at
that instant. A full verification lapses with the first of its bounds, so while it is reported all
of its evidence is valid (`Decides.full_of_lt`). A document verification has no expiry, neither when
a case is decided so nor when a full verification is degraded to it: `reported_tier_supported` says
that it is reported without support only after the documents of some leg have expired, and
`reported_tier_unsupported` is a run in which they have.
-/

namespace Nayasetu

open Values RowLock Collections

/-! ## Evidence at a later instant

What supports a leg at one instant supports it at a later one, or it has expired by then.
-/

section Later

variable {policy : CredentialTierPolicy} {checks : List RecordedCredentialCheck} {d t : ℤ}

/-- All evidence for the leg had expired by `t`. -/
def Lapsed (checks : List RecordedCredentialCheck) (d : ℤ) (leg : CredentialLegPolicy)
    (t : ℤ) : Prop :=
  (∃ check, Supports checks d leg check) ∧
    ∀ check, Supports checks d leg check → ∃ validUntil ∈ check.validUntil, validUntil ≤ t

/-- A leg with evidence at `d` has some at `t`, or all of it has expired. -/
theorem supports_or_lapsed (h : d ≤ t) {leg : CredentialLegPolicy}
    (hs : ∃ check, Supports checks d leg check) :
    (∃ check, Supports (checkedBy checks d) t leg check) ∨ Lapsed checks d leg t := by
  by_cases hlater : ∃ check, Supports (checkedBy checks d) t leg check
  · exact .inl hlater
  · refine .inr ⟨hs, fun check hcheck ↦ ?_⟩
    by_contra hvalid
    push Not at hvalid
    exact hlater ⟨check, hcheck.later h hvalid⟩

/-- Later, the documents of a verification still call for one, or those of some leg have expired. -/
theorem Decides.document_or_lapsed (h : d ≤ t) {decided decision : PersistedTierDecision}
    (hd : Decides policy checks d decided) (htier : decided.tier ≠ .selfDeclared)
    (hdecision : Decides policy (checkedBy checks d) t decision) :
    .documentVerified ≤ decision.tier ∨ ∃ leg ∈ policy.documentLegs, Lapsed checks d leg t := by
  obtain ⟨hconflict, hdocuments, hidentity⟩ : ¬ Conflicted policy checks d ∧
      (∀ leg ∈ policy.requiredDocumentLegs, ∃ check, Supports checks d leg check) ∧
      ∃ check, Supports checks d policy.identityConsistencyLeg check := by
    cases hd with
    | conflict => exact absurd rfl htier
    | documents => exact absurd rfl htier
    | identity => exact absurd rfl htier
    | authority hc hd hi => exact ⟨hc, hd, hi⟩
    | full hc hd hi => exact ⟨hc, hd, hi⟩
  have hunconflicted : ¬ Conflicted policy (checkedBy checks d) t := by
    rwa [Conflicted, isCurrent_checkedBy h]
  cases hdecision with
  | conflict hc => exact absurd hc hunconflicted
  | documents _ hmissing =>
    push Not at hmissing
    obtain ⟨leg, hleg, hnone⟩ := hmissing
    refine .inr ⟨leg, List.mem_append_left _ hleg, ?_⟩
    exact (supports_or_lapsed h (hdocuments leg hleg)).resolve_left (not_exists.mpr hnone)
  | identity _ _ hmissing =>
    refine .inr ⟨_, List.mem_append_right _ (List.mem_singleton.mpr rfl), ?_⟩
    exact (supports_or_lapsed h hidentity).resolve_left hmissing
  | authority => exact .inl (by decide)
  | full => exact .inl (show VerificationTier.documentVerified ≤ .fullyVerified by decide)

end Later

/-! ## Reported tiers

The tier that a row is shown with, the decision that put it there, and the checks of the case
behind that decision.
-/

/-- The tier the policy of a decided case gives at `t` to the checks dated by its decision. -/
def Database.supportedTier (db : Database) (c : VerificationCase) (t : ℤ) :
    Option VerificationTier := do
  let provider ← db.provider c.providerId
  let policy ← c.decidedPolicy
  let decidedAt ← c.decidedAt
  let checks := checkedBy ((db.checksOf c.id).map (·.toRecorded)) (decidedAt / 1000)
  let decision
    ← (decideTierFromRecordedChecks provider.providerType checks policy (t / 1000)).toOption
  return decision.tier

/-- No provider is shown with a tier higher than the evidence its last decision was made on supports
at the time. -/
def ReportsSupported (c : CredentialConfig) : Prop :=
  ∀ provider ∈ c.shared.store.providers, ∀ caseId ∈ (standing provider.id c.shared.history).caseId,
    ∀ row ∈ c.shared.store.case caseId, ∀ decidedAt ∈ row.decidedAt, ∀ t, decidedAt ≤ t →
      ∀ tier ∈ c.shared.store.supportedTier row t, provider.effectiveTier t ≤ tier

/-- What supports the tier a provider is shown with at `t`: the checks dated by its last decision,
unless it is shown as document-verified and those of some leg have expired. -/
inductive Reported (db : Database) (provider : Provider) (row : VerificationCase) (d : ℤ)
    (policy : CredentialTierPolicy) (t : ℤ) : Prop where
  | supported {tier : VerificationTier} (hsupported : db.supportedTier row t = some tier)
      (hle : provider.effectiveTier t ≤ tier) : Reported db provider row d policy t
  | lapsed {leg : CredentialLegPolicy} (htier : provider.effectiveTier t = .documentVerified)
      (hleg : leg ∈ policy.documentLegs)
      (hlapsed : Lapsed ((db.checksOf row.id).map (·.toRecorded)) d leg (t / 1000)) :
      Reported db provider row d policy t

section Reported

variable {db : Database}

/-- A full verification is reported until it expires. -/
theorem Provider.effectiveTier_full {provider : Provider} {t : ℤ}
    (h : provider.effectiveTier t = .fullyVerified) :
    provider.tier = .fullyVerified ∧ ∃ expiresAt, provider.tierExpiresAt = some expiresAt ∧
    t < expiresAt := by
  unfold Provider.effectiveTier at h
  split at h
  next => cases h
  next hshown =>
    rw [h] at hshown
    refine ⟨h, ?_⟩
    cases hexpiry : provider.tierExpiresAt with
    | none => simp [hexpiry] at hshown
    | some expiresAt => exact ⟨expiresAt, rfl, by simpa [hexpiry] using hshown⟩

theorem Provider.effectiveTier_document {provider : Provider} {t : ℤ}
    (h : provider.effectiveTier t = .documentVerified) : provider.tier ≠ .selfDeclared := by
  unfold Provider.effectiveTier at h
  split at h
  next hshown => simp [hshown.1]
  next => simp [h]

/-- At any later instant the rules give a tier for the checks dated by a decision. -/
theorem DecidedAs.supportedTier (hinv : StoreInvariant db) {row : VerificationCase}
    {policy : CredentialTierPolicy} {d : ℤ} {decision : PersistedTierDecision}
    (h : DecidedAs db row policy d decision) (t : ℤ) : ∃ decision',
      Decides policy (checkedBy ((db.checksOf row.id).map (·.toRecorded)) d) (t / 1000) decision' ∧
      db.supportedTier row t = some decision'.tier := by
  obtain ⟨provider, hprovider, htype⟩ := h.provider
  obtain ⟨doc, hdoc, hparse⟩ := h.snapshot
  have hpolicy := parsesTo_of_parse hparse
  have hrecorded := (hinv.stored_checksOf row.id).wellRecorded.checkedBy d
  obtain ⟨decision', hdecide, hdecides⟩ := decideTierFromRecordedChecks_decides (t / 1000)
    (CredentialTierPolicy.valid_of_validate hpolicy.valid) hrecorded htype hpolicy.valid
  refine ⟨decision', hdecides, ?_⟩
  have hd : 1000 * d / 1000 = d := Int.mul_ediv_cancel_left d (by decide)
  simp only [Database.supportedTier, hprovider, h.decidedPolicy, h.decidedAt, hd, hdecide,
    Except.toOption, Option.bind_eq_bind, Option.bind_some, Option.pure_def]

/-- **A reported tier is supported** by the checks dated by the provider's last decision, for all
later times and whatever degradations there have been, except that a document verification is still
reported when the documents of a leg have expired. -/
theorem reported_tier_supported {clock : ℤ} {drawn : ℕ} {c : CredentialConfig}
    (hsane : Sane db drawn)
    (hc : CredentialRun (credentialStart db clock drawn) c) {provider : Provider}
    (hprovider : provider ∈ c.shared.store.providers) {caseId : ℕ}
    (hlast : (standing provider.id c.shared.history).caseId = some caseId) :
    ∃ row d policy, c.shared.store.case caseId = some row ∧ row.decidedAt = some (1000 * d) ∧
      row.decidedPolicy = some policy ∧
      ∀ t, 1000 * d ≤ t → Reported c.shared.store provider row d policy t := by
  have hinv := (credentialRun_invariant hsane hc).1
  have hexplains := hinv.standing provider.id provider (hinv.store.provider_eq hprovider)
  obtain ⟨row, hcase, hstatus, hshown⟩ : ∃ row, c.shared.store.case caseId = some row ∧
      row.status = .decided ∧
      ((row.tierOutcome = some provider.tier ∧ row.tierExpiresAt = provider.tierExpiresAt) ∨
        (row.tierOutcome = some .fullyVerified ∧ provider.tier = .documentVerified)) := by
    revert hexplains hlast
    generalize standing provider.id c.shared.history = st
    intro hlast hexplains
    cases hexplains with
    | initial => exact nomatch hlast
    | lapsed => exact nomatch hlast
    | decided hcase _ hstatus houtcome _ hexpiry =>
      exact Option.some.inj hlast ▸ ⟨_, hcase, hstatus, .inl ⟨houtcome, hexpiry⟩⟩
    | degraded hcase _ hstatus houtcome htier =>
      exact Option.some.inj hlast ▸ ⟨_, hcase, hstatus, .inr ⟨houtcome, htier⟩⟩
  obtain ⟨policy, d, decision, hdecided⟩ :=
    hinv.store.decided row (Database.mem_of_case hcase).1 hstatus
  refine ⟨row, d, policy, hcase, hdecided.decidedAt, hdecided.decidedPolicy, fun t ht ↦ ?_⟩
  obtain ⟨decision', hdecides', hsupported⟩ := hdecided.supportedTier hinv.store t
  have hdt : d ≤ t / 1000 := by omega
  -- a tier that is shown was decided, or is what is left of one that has lapsed
  cases hshownAs : provider.effectiveTier t with
  | selfDeclared => exact .supported hsupported (hshownAs ▸ Nat.zero_le _)
  | documentVerified =>
    have htier : decision.tier ≠ .selfDeclared := by
      have hprovider := Provider.effectiveTier_document hshownAs
      rcases hshown with ⟨houtcome, -⟩ | ⟨houtcome, -⟩ <;> rw [hdecided.outcome] at houtcome
      · rwa [Option.some.inj houtcome]
      · simp [Option.some.inj houtcome]
    rcases hdecided.decides.document_or_lapsed hdt htier hdecides' with hle | ⟨leg, hleg, hlapsed⟩
    · exact .supported hsupported (hshownAs ▸ hle)
    · exact .lapsed hshownAs hleg hlapsed
  | fullyVerified =>
    obtain ⟨hfull, expiresAt, hexpiresAt, ht'⟩ := Provider.effectiveTier_full hshownAs
    obtain ⟨houtcome, hexpiry⟩ := hshown.resolve_right fun ⟨_, h⟩ ↦ by simp [hfull] at h
    rw [hdecided.outcome, hfull, Option.some.injEq] at houtcome
    rw [hdecided.expiry, hexpiresAt, Option.map_eq_some_iff] at hexpiry
    obtain ⟨expiry, hexpiry, rfl⟩ := hexpiry
    obtain ⟨⟨tier, reasons⟩, _⟩ := decision
    subst houtcome hexpiry
    obtain ⟨doc, hdoc, hparse⟩ := hdecided.snapshot
    have hpolicy := CredentialTierPolicy.valid_of_validate (parsesTo_of_parse hparse).valid
    have hrecorded := (hinv.store.stored_checksOf row.id).wellRecorded
    -- before its expiry a full verification is decided again
    have hfull := hdecided.decides.full_of_lt hpolicy hrecorded hdt (by omega : t / 1000 < expiry)
    obtain rfl := hdecides'.unique hfull
    exact .supported hsupported (hshownAs ▸ Nat.le_refl _)

end Reported

/-- A degree that expires is reviewed and the case is decided. -/
def expiringRun : List (Action CredentialRequest) :=
  openCase ++ review 1 "DEGREE" .pass (some 9000) ++ decideCase :: statements 2 20

theorem expiringRun_possible :
    (exec credentialProgram (credentialStart advocateStore 5000000 0) expiringRun).isSome := by rfl

def expiringEnd : CredentialConfig :=
  (exec credentialProgram (credentialStart advocateStore 5000000 0) expiringRun).get
    expiringRun_possible

def advocateDocumented : Provider :=
  { advocateRow with tier := .documentVerified, tierDecidedAt := some 5000000 }

theorem reported_tier_supported_expiringRun : ∃ provider ∈ expiringEnd.shared.store.providers,
    ∃ row d policy, expiringEnd.shared.store.case 0 = some row ∧ row.decidedAt = some (1000 * d) ∧
      row.decidedPolicy = some policy ∧
      ∀ t, 1000 * d ≤ t → Reported expiringEnd.shared.store provider row d policy t := by
  have hmem : advocateDocumented ∈
      expiringEnd.shared.store.providers := by decide +kernel
  exact ⟨_, hmem, reported_tier_supported (advocateStore_unverified.sane 0) (.get _) hmem
    (by decide +kernel)⟩

/-- After the degree has expired the provider is still reported as document-verified. -/
theorem reported_tier_unsupported :
    ∃ c, CredentialRun (credentialStart advocateStore 5000000 0) c ∧ ¬ ReportsSupported c := by
  refine ⟨expiringEnd, .get expiringRun_possible, fun hsupported ↦ ?_⟩
  have hmem : advocateDocumented ∈
      expiringEnd.shared.store.providers := by decide +kernel
  obtain ⟨row, hrow, hdecidedAt, htier⟩ : ∃ row, expiringEnd.shared.store.case 0 = some row ∧
      row.decidedAt = some 5000000 ∧
      expiringEnd.shared.store.supportedTier row 10000000 = some .selfDeclared :=
    ⟨_, rfl, by rfl, by decide +kernel⟩
  have hle :=
    hsupported _ hmem 0 (by decide +kernel) row hrow 5000000 hdecidedAt 10000000 (by decide)
    _ htier
  exact absurd hle (by decide)

end Nayasetu
