import Nayasetu.Credential.Safety

/-!
# Recorded conflicts

A mismatch or conflict that is the last live check of its leg and source should keep the provider
self-declared. A finalization reads the clock before it gets a connection and waits for locks, and
reads the checks of the case afterwards; a conflict recorded in between is dated after the decision
and does not count. `conflicts_kept` says that this is the only way to lose a conflict, and
`conflict_lost` is a run that loses one.

The condition is on the run: each conflict that a finalization finds in the case is dated no later
than the instant the finalization decides for. It says nothing about the outcome of the decision.
-/

namespace Nayasetu

open Values RowLock Collections

/-- The check is a conflict about a leg of the policy, and the last live check recorded for its
check type and source. -/
def UnresolvedConflict (policy : CredentialTierPolicy) (checks : List VerificationCheck)
    (check : VerificationCheck) : Prop :=
  (check.sourceMode = .live ∧ (check.result = .mismatch ∨ check.result = .conflict)) ∧
    policy.Allows check.checkType check.sourceId ∧
    ∀ other ∈ checks, other.sourceMode = .live → other.pair = check.pair →
      other.recordedSequence ≤ check.recordedSequence

instance (policy : CredentialTierPolicy) (checks : List VerificationCheck)
    (check : VerificationCheck) :
    Decidable (UnresolvedConflict policy checks check) := inferInstanceAs (Decidable (_ ∧ _ ∧ _))

/-- If the commit decides a case and a conflict in it is unresolved, the outcome says so. -/
def KeepsConflicts (e : Entry Database CredentialRequest) : Prop :=
  ∀ c ∈ decisionOf e, ∀ policy ∈ c.decidedPolicy,
    (∃ check ∈ e.before.checksOf c.id, UnresolvedConflict policy (e.before.checksOf c.id) check) →
    c.tierOutcome = some .selfDeclared ∧ c.decisionReasons = ["UNRESOLVED_CREDENTIAL_CONFLICT"]

/-- If the commit decides a case, no unresolved conflict in it is dated after the instant the case
is decided at. -/
def ConflictsDated (e : Entry Database CredentialRequest) : Prop :=
  ∀ c ∈ decisionOf e, ∀ policy ∈ c.decidedPolicy, ∀ check ∈ e.before.checksOf c.id,
    UnresolvedConflict policy (e.before.checksOf c.id) check →
    ∀ decidedAt ∈ c.decidedAt, check.checkedAt ≤ decidedAt

instance (e : Entry Database CredentialRequest) : Decidable (KeepsConflicts e) := by
  unfold KeepsConflicts
  infer_instance

instance (e : Entry Database CredentialRequest) : Decidable (ConflictsDated e) := by
  unfold ConflictsDated
  infer_instance

private theorem UnresolvedConflict.conflicted {policy : CredentialTierPolicy}
    {checks : List VerificationCheck} {check : VerificationCheck}
    (h : UnresolvedConflict policy checks check) (hmem : check ∈ checks) {now : ℤ}
    (hdate : check.checkedAt ≤ 1000 * now) : Conflicted policy (checks.map (·.toRecorded)) now := by
  obtain ⟨⟨hmode, hresult⟩, hallows, hlast⟩ := h
  refine ⟨check.toRecorded, ⟨?_, fun other hother hpair ↦ ?_⟩, hresult, hallows⟩
  · have hdate' : check.checkedAt / 1000 ≤ now := by omega
    refine List.mem_filter.mpr ⟨List.mem_map_of_mem hmem, ?_⟩
    simp only [Bool.and_eq_true, decide_eq_true_iff]
    exact ⟨hmode, hdate'⟩
  · obtain ⟨hmem', hvisible⟩ := List.mem_filter.mp hother
    obtain ⟨row, hrow, rfl⟩ := List.mem_map.mp hmem'
    simp only [Bool.and_eq_true, decide_eq_true_iff] at hvisible
    exact hlast row hrow hvisible.1 hpair

private theorem Decides.of_conflicted {policy : CredentialTierPolicy}
    {checks : List RecordedCredentialCheck} {now : ℤ} {decision : PersistedTierDecision}
    (h : Decides policy checks now decision) (hconflict : Conflicted policy checks now) :
    decision.tier = .selfDeclared ∧ decision.reasons = ["UNRESOLVED_CREDENTIAL_CONFLICT"] := by
  rw [h.unique (.conflict hconflict)]
  exact ⟨rfl, rfl⟩

private theorem keepsConflicts_of_dated {e : Entry Database CredentialRequest} (he : Committed e)
    (hdated : ConflictsDated e) : KeepsConflicts e := by
  intro c hc policy hpolicy ⟨check, hcheck, hunresolved⟩
  obtain ⟨hchecks, policy', now, decision, hdecided⟩ := he.decision hc
  obtain rfl := Option.some.inj (hdecided.decidedPolicy.symm.trans hpolicy)
  have hdate := hdated c hc policy' hpolicy check hcheck hunresolved _ hdecided.decidedAt
  have hconflict := hunresolved.conflicted hcheck hdate
  rw [← hchecks] at hconflict
  obtain ⟨htier, hreasons⟩ := hdecided.decides.of_conflicted hconflict
  exact ⟨by rw [hdecided.outcome, htier], by rw [hdecided.reasons, hreasons]⟩

/-- **No conflict is lost** in a run in which no unresolved conflict is dated after the instant its
case is decided at. -/
theorem conflicts_kept {db : Database} {clock : ℤ} {drawn : ℕ} {c : CredentialConfig}
    (hsane : Sane db drawn) (hc : CredentialRun (credentialStart db clock drawn) c)
    (hdated : ∀ e ∈ c.shared.history, ConflictsDated e) : ∀ e ∈ c.shared.history,
    KeepsConflicts e :=
  fun e he ↦ keepsConflicts_of_dated ((credentialRun_invariant hsane hc).1.history e he)
    (hdated e he)

/-- A case that is opened, reviewed with a mismatch and decided. -/
def mismatchRun : List (Action CredentialRequest) :=
  openCase ++ review 1 "DEGREE" .mismatch none ++ decideCase :: statements 2 20

theorem mismatchRun_possible :
    (exec credentialProgram (credentialStart advocateStore 5000 0) mismatchRun).isSome := by rfl

def mismatchEnd : CredentialConfig :=
  (exec credentialProgram (credentialStart advocateStore 5000 0) mismatchRun).get
    mismatchRun_possible

theorem conflicts_kept_mismatchRun :
    (∀ e ∈ mismatchEnd.shared.history, KeepsConflicts e) ∧
      ∃ e ∈ mismatchEnd.shared.history, (decisionOf e).any (·.tierOutcome = some .selfDeclared) :=
  ⟨conflicts_kept (advocateStore_unverified.sane 0) (.get _) (by decide +kernel), by decide +kernel⟩

/-- A degree is reviewed, the decision is requested and reads the clock; before it goes on, a
mismatch about the same degree is recorded. -/
def lateConflictRun : List (Action CredentialRequest) :=
  openCase ++ review 1 "DEGREE" .pass none ++ decideCase :: statements 2 1 ++
    .tick 9000 :: review 3 "DEGREE" .mismatch none ++ statements 2 19

theorem lateConflictRun_possible :
    (exec credentialProgram (credentialStart advocateStore 5000 0) lateConflictRun).isSome := by rfl

/-- The mismatch is lost: the provider becomes document-verified. -/
theorem conflict_lost : ∃ c, CredentialRun (credentialStart advocateStore 5000 0) c ∧
    ∃ e ∈ c.shared.history, ¬ KeepsConflicts e := by
  exact ⟨_, .get lateConflictRun_possible, by decide +kernel⟩

end Nayasetu
