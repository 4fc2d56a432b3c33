import Nayasetu.Credential.Safety
import Nayasetu.Credential.TierSpecification

/-!
# Reviews and authorities

A review by hand is recorded only for a source the active policy calls a manual document, but what
the source is when the case is decided depends on the policy active then: the stored check keeps
neither the kind of its source nor the version of the policy. The audit event of the review does,
and so the history tells which sources the owner has reclassified since (`Reclassified`).

A valid policy calls the sources of its authority legs authorities. So a review that counts for
such a leg is one of a reclassified source, and a provider becomes fully verified by reviews alone
just where these stand for every authority leg of a decision that gets that far
(`reviews_confer_no_authority_iff`). In the run of `review_confers_authority` the owner turns the
source of the reviews into an authority before the case is decided.
-/

namespace Nayasetu

open Values RowLock Collections

/-- The check was written by a review. -/
def RecordedManually (history : List (Entry Database CredentialRequest))
    (check : VerificationCheck) : Prop :=
  ∃ e ∈ history, check ∈ e.after.checks ∧ check ∉ e.before.checks ∧
    match e.request with
    | .recordManual _ _ => True
    | _ => False

instance (history : List (Entry Database CredentialRequest)) (check : VerificationCheck) :
    Decidable (RecordedManually history check) := by
  unfold RecordedManually
  refine @List.decidableBEx _ _ (fun e ↦ ?_) _
  cases e.request <;> infer_instance

/-- All live checks of the case were written by reviews. -/
def ReviewedByHandOnly (history : List (Entry Database CredentialRequest))
    (checks : List VerificationCheck) : Prop :=
  ∀ check ∈ checks, check.sourceMode = .live → RecordedManually history check

instance (history : List (Entry Database CredentialRequest)) (checks : List VerificationCheck) :
    Decidable (ReviewedByHandOnly history checks) := by
  unfold ReviewedByHandOnly
  infer_instance

/-- If the commit decides a case in which only reviews count, the outcome is not a full
verification. -/
def ReviewsConferNoAuthority (history : List (Entry Database CredentialRequest))
    (e : Entry Database CredentialRequest) : Prop :=
  ∀ c ∈ decisionOf e, ReviewedByHandOnly history (e.before.checksOf c.id) →
    c.tierOutcome ≠ some .fullyVerified

instance (history : List (Entry Database CredentialRequest))
    (e : Entry Database CredentialRequest) : Decidable (ReviewsConferNoAuthority history e) := by
  unfold ReviewsConferNoAuthority
  infer_instance

/-! ## Reclassified sources

The history of a source is read off the log: the version named by the audit event of a review
gives the kind the source had then, the version of the decision the kind it has now.
-/

def CredentialTierPolicy.kindOf (policy : CredentialTierPolicy) (sourceId : String) :
    Option CredentialEvidenceKind :=
  (policy.sources.find? (·.sourceId = sourceId)).map (·.evidenceKind)

/-- The policy a review went by: the one of the provider's type that has the version its audit event
names. -/
def reviewPolicy (e : Entry Database CredentialRequest) : Option CredentialTierPolicy :=
  match e.request with
  | .recordManual _ input => do
    let provider ← e.before.provider input.providerId
    let event ← e.after.auditEvents.getLast?
    let row ← (e.before.policiesOf provider.providerType).find? fun row ↦
      event.policyVersion = some row.version
    (parseCredentialTierPolicy row.policySnapshot).toOption
  | _ => none

/-- The source of a review was a manual document under the policy the review went by, and is an
authority under the given one. -/
def Reclassified (history : List (Entry Database CredentialRequest)) (policy : CredentialTierPolicy)
    (check : VerificationCheck) : Prop :=
  ∃ e ∈ history, check ∈ e.after.checks ∧ check ∉ e.before.checks ∧
    ∃ earlier ∈ reviewPolicy e, earlier.kindOf check.sourceId = some .manualDocument ∧
      policy.kindOf check.sourceId = some .authority

instance (history : List (Entry Database CredentialRequest)) (policy : CredentialTierPolicy)
    (check : VerificationCheck) : Decidable (Reclassified history policy check) := by
  unfold Reclassified
  infer_instance

/-- A decision over reviews only that gets as far as the authority legs, and finds a passing and
fresh review of a reclassified source for every one of them. -/
structure CountsReclassified (history : List (Entry Database CredentialRequest))
    (policy : CredentialTierPolicy) (rows : List VerificationCheck) (now : ℤ) : Prop where
  reviewed : ReviewedByHandOnly history rows
  unconflicted : ¬ Conflicted policy (rows.map (·.toRecorded)) now
  documented : Documented policy (rows.map (·.toRecorded)) now
  authority : ∀ leg ∈ policy.currentAuthorityLegs, ∃ row ∈ rows,
    SupportsFreshly policy (rows.map (·.toRecorded)) now leg row.toRecorded ∧
      Reclassified history policy row

/-- The commit decides a case in which reclassified sources count for all authorities. -/
def DecidesReclassified (history : List (Entry Database CredentialRequest))
    (e : Entry Database CredentialRequest) : Prop :=
  ∃ c policy now, decisionOf e = some c ∧ c.decidedPolicy = some policy ∧
    c.decidedAt = some (1000 * now) ∧
    CountsReclassified history policy (e.before.checksOf c.id) now

section Decisions

variable {history : List (Entry Database CredentialRequest)} {e : Entry Database CredentialRequest}
  {policy : CredentialTierPolicy} {leg : CredentialLegPolicy} {sourceId : String}

theorem CredentialTierPolicy.Valid.kindOf_authority (h : policy.Valid)
    (hleg : leg ∈ policy.currentAuthorityLegs) (hid : sourceId ∈ leg.allowedSourceIds) :
    policy.kindOf sourceId = some .authority := by
  obtain ⟨declared, hdeclared, hdeclaredId⟩ :=
    h.declared leg (mem_allLegs.mpr (.inr hleg)) sourceId hid
  rw [kindOf, Option.map_eq_some_iff]
  cases hfind : policy.sources.find? (·.sourceId = sourceId) with
  | none =>
    have hnot := List.find?_eq_none.mp hfind declared hdeclared
    exact absurd (decide_eq_true hdeclaredId) hnot
  | some source =>
    have hsourceId : source.sourceId = sourceId := by simpa using List.find?_some hfind
    refine ⟨source, rfl, h.authority_kind leg hleg source (List.mem_of_find?_eq_some hfind) ?_⟩
    rw [hsourceId]
    exact hid

/-- The registry has one policy of a type under a version. -/
private theorem find?_policiesOf {db : Database} (hinv : StoreInvariant db)
    {row : CredentialPolicyRow} (hrow : row ∈ db.policies) {version : Option String}
    (hversion : version = some row.version) :
    (db.policiesOf row.providerType).find? (fun other ↦ version = some other.version) =
      some row := by
  have hmem : row ∈ db.policiesOf row.providerType := List.mem_filter.mpr ⟨hrow, by simp⟩
  cases hfind : (db.policiesOf row.providerType).find? fun other ↦ version = some other.version with
  | none => exact absurd (decide_eq_true hversion) (List.find?_eq_none.mp hfind row hmem)
  | some other =>
    have hother : version = some other.version := by simpa using List.find?_some hfind
    obtain ⟨hpolicies, htype⟩ := List.mem_filter.mp (List.mem_of_find?_eq_some hfind)
    rw [hversion, Option.some.injEq] at hother
    exact congrArg some
      (hinv.policy_eq hpolicies hrow (of_decide_eq_true htype) hother.symm)

/-- The policy a review went by called its source a manual document. -/
private theorem Committed.reviewPolicy_kindOf (he : Committed e) {check : VerificationCheck}
    (hnew : check ∈ e.after.checks) (hold : check ∉ e.before.checks)
    (hmanual : match e.request with
      | .recordManual _ _ => True
      | _ => False) :
    ∃ earlier ∈ reviewPolicy e, earlier.kindOf check.sourceId = some .manualDocument := by
  obtain ⟨i, r, snap, before, after⟩ := e
  obtain ⟨hinv, s, hs, heffect⟩ := he
  dsimp only at hs heffect hinv hnew hold hmanual
  subst hs
  cases heffect with
  | @recordManual actor input reviewedAt id recordedSequence provider row policy c event hprovider
      hrow htype hparse hpermits _ _ _ _ _ _ hversion =>
    have hcheck : check = input.row reviewedAt id recordedSequence :=
      List.mem_singleton.mp ((List.mem_append.mp hnew).resolve_left hold)
    have hfind := find?_policiesOf hinv hrow hversion
    rw [htype] at hfind
    refine ⟨policy, ?_, hcheck ▸ hpermits.1⟩
    simp only [reviewPolicy, hprovider, Database.insertAudit, List.getLast?_concat, hfind, hparse,
      Except.toOption, Option.bind_eq_bind, Option.bind_some, Option.mem_def]
  | recordUnavailable => exact hmanual.elim
  | openCase => exact hmanual.elim
  | finalize => exact hmanual.elim
  | revalidate => exact hmanual.elim
  | changePolicies => exact hmanual.elim

/-- What a review can count for as an authority was reclassified. -/
private theorem RecordedManually.reclassified (hhistory : ∀ e ∈ history, Committed e)
    {check : VerificationCheck} (h : RecordedManually history check) (hvalid : policy.Valid)
    (hleg : leg ∈ policy.currentAuthorityLegs) (hid : check.sourceId ∈ leg.allowedSourceIds) :
    Reclassified history policy check := by
  obtain ⟨e, he, hnew, hold, hmanual⟩ := h
  obtain ⟨earlier, hearlier, hkind⟩ := (hhistory e he).reviewPolicy_kindOf hnew hold hmanual
  exact ⟨e, he, hnew, hold, earlier, hearlier, hkind, hvalid.kindOf_authority hleg hid⟩

/-- One decision confers no authority on reviews exactly if it does not count reclassified
sources. -/
private theorem confersNoAuthority_iff (hhistory : ∀ e ∈ history, Committed e) (he : Committed e) :
    ReviewsConferNoAuthority history e ↔ ¬ DecidesReclassified history e := by
  constructor
  · rintro hnone ⟨c, policy, now, hc, hpolicy, hnow, hcounts⟩
    obtain ⟨hchecks, policy', now', decision, hdecided⟩ := he.decision hc
    obtain rfl := Option.some.inj (hdecided.decidedPolicy.symm.trans hpolicy)
    obtain rfl : now' = now := by
      have := Option.some.inj (hdecided.decidedAt.symm.trans hnow)
      omega
    have hdecides := hdecided.decides
    rw [hchecks] at hdecides
    obtain ⟨hdocuments, hidentity⟩ := documented_iff.mp hcounts.documented
    refine hnone c hc hcounts.reviewed ?_
    rw [hdecided.outcome]
    cases hdecides with
    | conflict hconflict => exact absurd hconflict hcounts.unconflicted
    | documents _ hnot => exact absurd hdocuments hnot
    | identity _ _ hnot => exact absurd hidentity hnot
    | authority _ _ _ hnot =>
      refine absurd (fun leg hleg ↦ ?_) hnot
      obtain ⟨row, -, hfresh, -⟩ := hcounts.authority leg hleg
      exact ⟨row.toRecorded, hfresh⟩
    | full => rfl
  · intro hnone c hc hreviewed hfull
    obtain ⟨hchecks, policy, now, decision, hdecided⟩ := he.decision hc
    have htier : decision.tier = .fullyVerified := by
      rw [hdecided.outcome, Option.some.injEq] at hfull
      exact hfull
    have hvalid : policy.Valid := by
      obtain ⟨doc, -, hparse⟩ := hdecided.snapshot
      exact CredentialTierPolicy.valid_of_validate (parsesTo_of_parse hparse).valid
    have hdecides := hdecided.decides
    rw [hchecks] at hdecides
    refine hnone ⟨c, policy, now, hc, hdecided.decidedPolicy, hdecided.decidedAt, ?_⟩
    cases hdecides with
    | conflict => cases htier
    | documents => cases htier
    | identity => cases htier
    | authority => cases htier
    | full hconflict hdocuments hidentity hauthority =>
      refine ⟨hreviewed, hconflict, documented_iff.mpr ⟨hdocuments, hidentity⟩, fun leg hleg ↦ ?_⟩
      obtain ⟨check, hfresh⟩ := hauthority leg hleg
      obtain ⟨hmem, hlive, -⟩ := hfresh.current.mem
      obtain ⟨row, hrow, rfl⟩ := List.mem_map.mp hmem
      exact ⟨row, hrow, hfresh, (hreviewed row hrow hlive).reclassified hhistory hvalid hleg
        hfresh.source⟩

end Decisions

/-- **When reviews confer no authority.** In every run, no provider becomes fully verified by
reviews alone exactly as long as no decision over reviews alone counts reclassified sources for all
of its authorities; and so none does if no source is reclassified between a review and the decision
of its case. -/
theorem reviews_confer_no_authority_iff {db : Database} {clock : ℤ} {drawn : ℕ}
    {c : CredentialConfig} (hsane : Sane db drawn)
    (hc : CredentialRun (credentialStart db clock drawn) c) :
    ((∀ e ∈ c.shared.history, ReviewsConferNoAuthority c.shared.history e) ↔
      ∀ e ∈ c.shared.history, ¬ DecidesReclassified c.shared.history e) ∧
    ((∀ e ∈ c.shared.history, ∀ decided ∈ decisionOf e, ∀ policy ∈ decided.decidedPolicy,
        ∀ row ∈ e.before.checksOf decided.id, ¬ Reclassified c.shared.history policy row) →
      ∀ e ∈ c.shared.history, ReviewsConferNoAuthority c.shared.history e) := by
  have hhistory := (credentialRun_invariant hsane hc).1.history
  refine ⟨forall₂_congr fun e he ↦ confersNoAuthority_iff hhistory (hhistory e he),
    fun hnone e he ↦ (confersNoAuthority_iff hhistory (hhistory e he)).mpr ?_⟩
  rintro ⟨decided, policy, now, hdecided, hpolicy, -, hcounts⟩
  -- a valid policy has an authority leg
  obtain ⟨doc, -, hdoc⟩ := Option.bind_eq_some_iff.mp hpolicy
  cases hparse : parseCredentialTierPolicy doc with
  | error failure =>
    rw [hparse] at hdoc
    cases hdoc
  | ok parsed =>
    rw [hparse] at hdoc
    obtain rfl := Option.some.inj hdoc
    have hvalid := CredentialTierPolicy.valid_of_validate (parsesTo_of_parse hparse).valid
    obtain ⟨leg, hleg⟩ := List.exists_mem_of_ne_nil _ hvalid.authority_ne_nil
    obtain ⟨row, hrow, -, hreclassified⟩ := hcounts.authority leg hleg
    exact hnone e he decided hdecided _ hpolicy row hrow hreclassified

/-! ## A run with a reclassified source -/

/-- The degree and the enrolment are reviewed by hand; a registry confirms the licence. -/
def reviewedPolicy : Jsonb :=
  advocatePolicy "v1" [("REVIEW", .manualDocument), ("REGISTRY", .authority)]
    [("DEGREE", ["REVIEW"]), ("ENROLMENT", ["REVIEW"])] [("LICENCE", ["REGISTRY"])] ["REVIEW"]

/-- The source of the reviews is an authority on the enrolment. -/
def reclassifiedPolicy : Jsonb :=
  advocatePolicy "v2" [("REVIEW", .authority)] [("DEGREE", ["REVIEW"])] [("ENROLMENT", ["REVIEW"])]
    ["REVIEW"]

/-- The advocate under the first of the policies. -/
def reviewedStore : Database :=
  { advocateStore with policies := [⟨"ADVOCATE", "v1", reviewedPolicy, true⟩] }

theorem reviewedStore_unverified : Unverified reviewedStore where
  provider_ids := by decide
  tier := by decide
  policy_versions providerType := (List.nodup_singleton "v1").sublist (List.filter_sublist.map _)
  cases := rfl
  checks := rfl

/-- Degree and enrolment are reviewed and the case is decided under the first policy. -/
def reviewedRun : List (Action CredentialRequest) :=
  openCase ++ review 1 "DEGREE" .pass none ++ review 2 "ENROLMENT" .pass none ++
    decideCase :: statements 3 20

theorem reviewedRun_possible :
    (exec credentialProgram (credentialStart reviewedStore 5000 0) reviewedRun).isSome := by rfl

def reviewedEnd : CredentialConfig :=
  (exec credentialProgram (credentialStart reviewedStore 5000 0) reviewedRun).get
    reviewedRun_possible

theorem reviews_confer_no_authority_iff_reviewedRun :
    ((∀ e ∈ reviewedEnd.shared.history, ReviewsConferNoAuthority reviewedEnd.shared.history e) ∧
      ∀ e ∈ reviewedEnd.shared.history, ¬ DecidesReclassified reviewedEnd.shared.history e) ∧
    ∃ e ∈ reviewedEnd.shared.history,
    (decisionOf e).any (·.tierOutcome = some .documentVerified) := by
  obtain ⟨hiff, hnone⟩ := reviews_confer_no_authority_iff (reviewedStore_unverified.sane 0)
    (c := reviewedEnd) (.get reviewedRun_possible)
  have hconfer := hnone (by decide +kernel)
  exact ⟨⟨hconfer, hiff.mp hconfer⟩, by decide +kernel⟩

/-- Between the reviews and the decision the owner activates the second policy. -/
def reclassifiedRun : List (Action CredentialRequest) :=
  openCase ++ review 1 "DEGREE" .pass none ++ review 2 "ENROLMENT" .pass none ++
    .start (.changePolicies [.setActive "ADVOCATE" "v1" false,
      .insert ⟨"ADVOCATE", "v2", reclassifiedPolicy, true⟩]) :: statements 3 6 ++
    decideCase :: statements 4 20

theorem reclassifiedRun_possible :
    (exec credentialProgram (credentialStart reviewedStore 5000 0) reclassifiedRun).isSome := by rfl

/-- The provider is verified fully by the reviews alone. -/
theorem review_confers_authority : ∃ c, CredentialRun (credentialStart reviewedStore 5000 0) c ∧
    ∃ e ∈ c.shared.history, ¬ ReviewsConferNoAuthority c.shared.history e :=
  ⟨_, .get reclassifiedRun_possible, by decide +kernel⟩

end Nayasetu
