import Nayasetu.Credential.FinalizeCorrect

/-!
# The preflight agrees with the database

The application decides first and the database decides again over the rows it finds. Both decide as
the evidence calls for (`Decides`), which depends on the set of rows and not on the order a query
returns them in, so the two decisions are the same one.

The application locks the case, reads its checks and the active policy, and computes the decision
it expects. The function of the database then reads both anew. In between nobody can have written
a check of the case, since the case is locked. The active policy may have become another one, but
the function is told the version that was read, and a version never changes its text.
-/

namespace Nayasetu

open Values Collections

/-! ## The order of the rows

Every notion of the rules asks whether a check is among the rows, never where.
-/

section Order

variable {policy : CredentialTierPolicy} {checks checks' : List RecordedCredentialCheck} {now : ℤ}

theorem IsCurrent.of_mem (h : ∀ check, check ∈ checks ↔ check ∈ checks')
    {check : RecordedCredentialCheck} (hc : IsCurrent checks now check) :
    IsCurrent checks' now check := by
  have hvisible (check : RecordedCredentialCheck) :
      check ∈ visibleChecks checks now ↔ check ∈ visibleChecks checks' now := by
    simp only [visibleChecks, List.mem_filter, h]
  exact ⟨(hvisible _).mp (IsLatest.mem hc), fun b hb ↦
    IsLatest.greatest hc b ((hvisible b).mpr hb)⟩

private theorem isCurrent_congr (h : ∀ check, check ∈ checks ↔ check ∈ checks') :
    IsCurrent checks now = IsCurrent checks' now :=
  funext fun _ ↦ propext ⟨.of_mem h, .of_mem fun check ↦ (h check).symm⟩

variable (policy) in
private theorem conflicted_congr (h : IsCurrent checks now = IsCurrent checks' now) :
    Conflicted policy checks now ↔ Conflicted policy checks' now := by
  rw [Conflicted, Conflicted, h]

private theorem supports_congr (h : IsCurrent checks now = IsCurrent checks' now) :
    Supports checks now = Supports checks' now := by
  funext leg check
  refine propext ⟨fun hs ↦ ?_, fun hs ↦ ?_⟩
  · exact { hs with current := h ▸ hs.current }
  · exact { hs with current := h.symm ▸ hs.current }

variable (policy) in
private theorem supportsFreshly_congr (h : IsCurrent checks now = IsCurrent checks' now) :
    SupportsFreshly policy checks now = SupportsFreshly policy checks' now := by
  funext leg check
  refine propext ⟨fun hs ↦ ?_, fun hs ↦ ?_⟩
  · exact { hs with current := h ▸ hs.current }
  · exact { hs with current := h.symm ▸ hs.current }

private theorem ExpiryBound.of_current (h : IsCurrent checks now = IsCurrent checks' now)
    {bound : ℤ}
    (hb : ExpiryBound policy checks now bound) : ExpiryBound policy checks' now bound := by
  cases hb with
  | decided => exact .decided
  | document hleg hcheck hvalid => exact .document hleg (supports_congr h ▸ hcheck) hvalid
  | authority hleg hcheck hvalid =>
    exact .authority hleg (supportsFreshly_congr policy h ▸ hcheck) hvalid
  | stale hleg hcheck => exact .stale hleg (supportsFreshly_congr policy h ▸ hcheck)

/-- The decision depends on which checks there are, not on their order. -/
theorem Decides.of_mem (h : ∀ check, check ∈ checks ↔ check ∈ checks')
    {decision : PersistedTierDecision} (hd : Decides policy checks now decision) :
    Decides policy checks' now decision := by
  have hcur : IsCurrent checks now = IsCurrent checks' now := isCurrent_congr h
  have hconflict := conflicted_congr policy hcur
  have hsupports := supports_congr hcur
  have hfresh := supportsFreshly_congr policy hcur
  cases hd with
  | conflict hc => exact .conflict (hconflict.mp hc)
  | documents hc hd => exact .documents (hconflict.not.mp hc) (hsupports ▸ hd)
  | identity hc hd hi => exact .identity (hconflict.not.mp hc) (hsupports ▸ hd) (hsupports ▸ hi)
  | authority hc hd hi ha =>
    exact .authority (hconflict.not.mp hc) (hsupports ▸ hd) (hsupports ▸ hi) (hfresh ▸ ha)
  | full hc hd hi ha he =>
    refine .full (hconflict.not.mp hc) (hsupports ▸ hd) (hsupports ▸ hi) (hfresh ▸ ha) ?_
    exact ⟨he.1.of_current hcur, fun b hb ↦ he.2 (hb.of_current hcur.symm)⟩

end Order

/-! ## Agreement

The two evaluations satisfy the same relation, and the relation determines the decision.
-/

section Agreement

variable {doc : Jsonb} {policy : CredentialTierPolicy} {rows read : List VerificationCheck}
  {now freshness : ℤ}

theorem StoredChecks.perm (h : StoredChecks rows) (hread : read.Perm rows) : StoredChecks read where
  sequence := (hread.map _).nodup_iff.mpr h.sequence
  checkType check hc := h.checkType check (hread.mem_iff.mp hc)
  sourceId check hc := h.sourceId check (hread.mem_iff.mp hc)
  checkedAt check hc := h.checkedAt check (hread.mem_iff.mp hc)
  validUntil check hc := h.validUntil check (hread.mem_iff.mp hc)

variable (now) in
/-- The application decides as the evidence calls for. -/
theorem preflight_decides (hparse : parseCredentialTierPolicy doc = .ok policy)
    (hrows : StoredChecks rows) (hread : read.Perm rows) :
    ∃ decision, decideTierFromRecordedChecks policy.providerType
      (read.map (·.toRecorded)) policy now
      = .ok decision ∧ Decides policy (rows.map (·.toRecorded)) now decision := by
  have hdoc := parsesTo_of_parse hparse
  have hvalid := CredentialTierPolicy.valid_of_validate hdoc.valid
  obtain ⟨decision, hdecide, hdecides⟩ := decideTierFromRecordedChecks_decides now hvalid
    (hrows.perm hread).wellRecorded rfl hdoc.valid
  exact ⟨decision, hdecide, hdecides.of_mem fun check ↦ (hread.map _).mem_iff⟩

/-- Application and database decide the same over the same rows. -/
theorem sqlDecision_eq_preflight (hparse : parseCredentialTierPolicy doc = .ok policy)
    (hsql : validatePolicySql doc (1000 * now) = .ok freshness) (hrows : StoredChecks rows)
    {decision : PersistedTierDecision}
    (hdecides : Decides policy (rows.map (·.toRecorded)) now decision) :
    sqlDecision doc rows (1000 * now) freshness = decision.toMicroseconds := by
  have hdoc := parsesTo_of_parse hparse
  obtain ⟨decision', hdecides', hdecision⟩ := sqlDecision_decides now hdoc hrows
  obtain rfl := hdecides.unique hdecides'
  rw [hdoc.freshness_eq hsql]
  exact hdecision

end Agreement

end Nayasetu
