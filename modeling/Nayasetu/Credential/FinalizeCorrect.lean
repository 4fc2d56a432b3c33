import Nayasetu.Credential.PolicyReading
import Nayasetu.Credential.RecomputeCorrect

/-!
# The database decides by the rules

On a policy document both validators accept, the queries of `finalize_verification_case` reach the
decision the evidence calls for, in microseconds. Since the application decides by the same rules,
the two decisions are equal and the comparison between them never fails.
-/

namespace Nayasetu

open Values Collections

/-! ## A parsed document

What is known of a document that the application has read: its rows are the fields of the policy.
-/

/-- The rows of a document are the rows of the policy it parses to. -/
structure ParsesTo (doc : Jsonb) (policy : CredentialTierPolicy) : Prop where
  valid : validateCredentialTierPolicy policy = .ok ()
  sources : sourceRows doc = policy.sources.map (·.row)
  required : requiredRows doc = policy.requiredDocumentLegs.map (·.row)
  identity : identityRow doc = policy.identityConsistencyLeg.row
  authority : authorityRows doc = policy.currentAuthorityLegs.map (·.row)
  freshness : ∃ n, doc.get "currentAuthorityFreshnessMs" = some (.number n) ∧
    n.toDouble.toInt? = some policy.currentAuthorityFreshnessMs

theorem parsesTo_of_parse {doc : Jsonb} {policy : CredentialTierPolicy}
    (h : parseCredentialTierPolicy doc = .ok policy) : ParsesTo doc policy := by
  obtain ⟨hshape, n, ms, hn, hms, rfl, hcoherent, htexts⟩ :=
    parseCredentialTierPolicy_eq_ok_iff.mp h
  exact
    { valid := CredentialTierPolicy.validate_eq_ok_iff.mpr ⟨hcoherent, hms.2, htexts⟩
      sources := hshape.sourceRows_eq ms
      required := hshape.requiredRows_eq ms
      identity := hshape.identityRow_eq ms
      authority := hshape.authorityRows_eq ms
      freshness := ⟨n, hn, hms.1⟩ }

theorem raiseIf_eq_ok_iff {p : Prop} [Decidable p] {message : String} :
    raiseIf p message = .ok () ↔ ¬ p := require_eq_ok_iff

/-- Both validators read the same freshness. -/
theorem ParsesTo.freshness_eq {doc : Jsonb} {policy : CredentialTierPolicy}
    (h : ParsesTo doc policy)
    {decidedAt freshness : ℤ} (hsql : validatePolicySql doc decidedAt = .ok freshness) :
    freshness = 1000 * policy.currentAuthorityFreshnessMs := by
  obtain ⟨n, hget, hn⟩ := h.freshness
  rw [validatePolicySql, unit_bind_eq_ok_iff] at hsql
  obtain ⟨hshape, hsql⟩ := hsql
  rw [bind_eq_ok_iff] at hsql
  obtain ⟨freshnessMs, hms, hsql⟩ := hsql
  simp only [unit_bind_eq_ok_iff] at hsql
  obtain ⟨-, -, -, hsql⟩ := hsql
  obtain rfl := Except.ok.inj hsql
  have htext : Numeric.isPositiveIntegerText n.text = true := by
    simp only [checkPolicyShape, unit_bind_eq_ok_iff, raiseIf_eq_ok_iff, not_or] at hshape
    simpa [Jsonb.textAt, hget, Jsonb.text] using hshape.2.1.2.2.2
  obtain ⟨hpos, hscale⟩ := Numeric.isPositiveIntegerText_text htext
  have hofInt : n = .ofInt n.unscaled := by
    cases n
    simp_all [Numeric.ofInt]
  simp only [policyFreshnessMs, hget] at hms
  split at hms
  next hle =>
    obtain rfl := Except.ok.inj hms
    have hle : n.unscaled ≤ 3162240000000 := by
      simpa [Numeric.le, Numeric.ofInt, hscale] using hle
    rw [hofInt, Numeric.toDouble_ofInt hpos (by omega), Option.some.injEq] at hn
    rw [hscale, pow_zero, Int.ediv_one, hn]
  next => cases hms

/-! ## Stored rows and what the application reads

The driver turns a row into a check, and microseconds into milliseconds. Times that were written
in milliseconds come back as they were, and comparisons between them mean the same on both sides.
-/

/-- What the application reads of a row: `pg` turns a timestamp into a date of whole
milliseconds. -/
def VerificationCheck.toRecorded (check : VerificationCheck) : RecordedCredentialCheck where
  recordedSequence := check.recordedSequence
  checkType := check.checkType
  sourceId := check.sourceId
  sourceMode := check.sourceMode
  result := check.result
  checkedAt := check.checkedAt / 1000
  validUntil := check.validUntil.map (· / 1000)

def PersistedTierDecision.toMicroseconds (decision : PersistedTierDecision) :
    PersistedTierDecision :=
  { decision with tierExpiresAt := decision.tierExpiresAt.map (1000 * ·) }

/-- Rows as the recording transactions write them: no sequence number twice, no `NUL` in a text,
and the times of live checks in whole milliseconds. -/
structure StoredChecks (checks : List VerificationCheck) : Prop where
  sequence : (checks.map (·.recordedSequence)).Nodup
  checkType : ∀ check ∈ checks, '\x00' ∉ check.checkType.toList
  sourceId : ∀ check ∈ checks, '\x00' ∉ check.sourceId.toList
  checkedAt : ∀ check ∈ checks, check.sourceMode = .live → check.checkedAt % 1000 = 0
  validUntil : ∀ check ∈ checks, check.sourceMode = .live →
    ∀ validUntil ∈ check.validUntil, validUntil % 1000 = 0

variable {rows : List VerificationCheck} {now : ℤ}

theorem StoredChecks.wellRecorded (h : StoredChecks rows) :
    WellRecorded (rows.map (·.toRecorded)) where
  sequence := by rw [List.map_map]; exact h.sequence
  checkType := by
    rintro _ hc
    obtain ⟨check, hcheck, rfl⟩ := List.mem_map.mp hc
    exact h.checkType check hcheck
  sourceId := by
    rintro _ hc
    obtain ⟨check, hcheck, rfl⟩ := List.mem_map.mp hc
    exact h.sourceId check hcheck

/-- The row is the last visible one of its leg and source. -/
def IsCurrentRow (rows : List VerificationCheck) (decidedAt : ℤ) : VerificationCheck → Prop :=
  IsLatest (·.pair) (·.recordedSequence) (visibleRows rows decidedAt)

private theorem mem_visibleRows_iff (h : StoredChecks rows) {row : VerificationCheck}
    (hrow : row ∈ rows) :
    row ∈ visibleRows rows (1000 * now) ↔
      row.toRecorded ∈ visibleChecks (rows.map (·.toRecorded)) now := by
  simp only [visibleRows, visibleChecks, List.mem_filter, Bool.and_eq_true, decide_eq_true_iff,
    hrow, List.mem_map_of_mem hrow, true_and]
  refine and_congr_right fun hmode ↦ ?_
  have hms := h.checkedAt row hrow hmode
  change row.checkedAt ≤ 1000 * now ↔ row.checkedAt / 1000 ≤ now
  omega

private theorem IsCurrentRow.mem {row : VerificationCheck} {decidedAt : ℤ}
    (h : IsCurrentRow rows decidedAt row) :
    row ∈ rows ∧ row.sourceMode = .live ∧ row.checkedAt ≤ decidedAt := by
  simpa [visibleRows] using IsLatest.mem h

private theorem isCurrentRow_iff (h : StoredChecks rows) {row : VerificationCheck}
    (hrow : row ∈ rows) :
    IsCurrentRow rows (1000 * now) row ↔
      IsCurrent (rows.map (·.toRecorded)) now row.toRecorded := by
  constructor
  · refine fun hl ↦ ⟨(mem_visibleRows_iff h hrow).mp (IsLatest.mem hl), fun b hb hpair ↦ ?_⟩
    obtain ⟨other, hother, rfl⟩ := List.mem_map.mp (List.mem_of_mem_filter hb)
    exact IsLatest.greatest hl other ((mem_visibleRows_iff h hother).mpr hb) hpair
  · refine fun hl ↦ ⟨(mem_visibleRows_iff h hrow).mpr (IsLatest.mem hl), fun other hb hpair ↦ ?_⟩
    have hother : other ∈ rows := List.mem_of_mem_filter hb
    exact IsLatest.greatest hl other.toRecorded ((mem_visibleRows_iff h hother).mp hb) hpair

/-- A live row's times are whole milliseconds, so the application reads them exactly. -/
structure ReadExactly (row : VerificationCheck) : Prop where
  checkedAt : row.checkedAt = 1000 * row.toRecorded.checkedAt
  validUntil : row.validUntil = row.toRecorded.validUntil.map (1000 * ·)

theorem StoredChecks.readExactly (h : StoredChecks rows) {row : VerificationCheck}
    (hrow : row ∈ rows)
    (hmode : row.sourceMode = .live) : ReadExactly row := by
  have hdate := h.checkedAt row hrow hmode
  constructor
  · change row.checkedAt = 1000 * (row.checkedAt / 1000)
    omega
  · have hvalid := h.validUntil row hrow hmode
    change row.validUntil = (row.validUntil.map (· / 1000)).map (1000 * ·)
    cases hv : row.validUntil with
    | none => rfl
    | some validUntil =>
      have := hvalid validUntil hv
      rw [Option.map_some, Option.map_some, Option.some.injEq]
      omega

/-! ## The evidence of a leg

The query joins a check with the declared sources of its name. Under a valid policy there is at
most one, so the join adds a column and no rows.
-/

section Evidence

variable {doc : Jsonb} {policy : CredentialTierPolicy}

theorem mem_sourcesOf_iff (hparse : ParsesTo doc policy) {sourceId : String} {row : SourceRow} :
    row ∈ sourcesOf doc sourceId ↔
      ∃ source ∈ policy.sources, source.sourceId = sourceId ∧ source.row = row := by
  simp only [sourcesOf, hparse.sources, List.mem_filter, List.mem_map, decide_eq_true_iff]
  constructor
  · rintro ⟨⟨source, hmem, rfl⟩, hid⟩
    exact ⟨source, hmem, Option.some.inj hid, rfl⟩
  · rintro ⟨source, hmem, rfl, rfl⟩
    exact ⟨⟨source, hmem, rfl⟩, rfl⟩

/-- A source is declared at most once. -/
private theorem sourcesOf_length (hparse : ParsesTo doc policy) (sourceId : String) :
    (sourcesOf doc sourceId).length ≤ 1 := by
  have hnodup := (CredentialTierPolicy.valid_of_validate hparse.valid).sources_nodup
  have hpair : (sourcesOf doc sourceId).Pairwise fun a b ↦ a.sourceId ≠ b.sourceId := by
    rw [sourcesOf, hparse.sources]
    refine List.Pairwise.filter _ (List.pairwise_map.mpr ?_)
    exact (List.pairwise_map.mp hnodup).imp fun h he ↦ h (Option.some.inj he)
  have hid : ∀ row ∈ sourcesOf doc sourceId, row.sourceId = some sourceId :=
    fun row hrow ↦ by simpa using (List.mem_filter.mp hrow).2
  match hl : sourcesOf doc sourceId with
  | [] => simp
  | [_] => simp
  | a :: b :: l =>
    rw [hl, List.pairwise_cons] at hpair
    rw [hl] at hid
    exact absurd ((hid a (by simp)).trans (hid b (by simp)).symm) (hpair.1 b (by simp))

private def joined (doc : Jsonb) (rows : List VerificationCheck) (decidedAt : ℤ) : List Evidence :=
  (visibleRows rows decidedAt).flatMap fun check ↦
    (sourcesOf doc check.sourceId).map fun source ↦ ⟨check, source.evidenceKind⟩

private theorem mem_joined_iff {decidedAt : ℤ} {e : Evidence} :
    e ∈ joined doc rows decidedAt ↔ e.toVerificationCheck ∈ visibleRows rows decidedAt ∧
      ∃ source ∈ sourcesOf doc e.sourceId, source.evidenceKind = e.evidenceKind := by
  simp only [joined, List.mem_flatMap, List.mem_map]
  constructor
  · rintro ⟨check, hcheck, source, hsource, rfl⟩
    exact ⟨hcheck, source, hsource, rfl⟩
  · rintro ⟨hcheck, source, hsource, hkind⟩
    exact ⟨_, hcheck, source, hsource, by rw [hkind]⟩

private theorem joined_nodup (hparse : ParsesTo doc policy) (h : StoredChecks rows)
    {decidedAt : ℤ} : ((joined doc rows decidedAt).map (·.recordedSequence)).Nodup := by
  have hvisible : ((visibleRows rows decidedAt).map (·.recordedSequence)).Nodup :=
    h.sequence.sublist (List.filter_sublist.map _)
  rw [joined, List.map_flatMap, List.nodup_flatMap]
  constructor
  · intro check _
    have hlen := sourcesOf_length hparse check.sourceId
    match hl : sourcesOf doc check.sourceId with
    | [] => simp
    | [_] => simp
    | _ :: _ :: _ => simp [hl] at hlen
  · refine (List.pairwise_map.mp hvisible).imp fun {a b} hne ↦ ?_
    intro seq ha hb
    simp only [List.map_map, List.mem_map, Function.comp_apply] at ha hb
    obtain ⟨_, -, rfl⟩ := ha
    obtain ⟨_, -, heq⟩ := hb
    exact hne heq.symm

theorem mem_latestEvidence_iff (hparse : ParsesTo doc policy)
    (h : StoredChecks rows) {decidedAt : ℤ}
    {e : Evidence} : e ∈ latestEvidence doc rows decidedAt ↔
      IsCurrentRow rows decidedAt e.toVerificationCheck ∧
        ∃ source ∈ policy.sources, source.sourceId = e.sourceId ∧
          e.evidenceKind = some source.evidenceKind.text := by
  have hsource : (∃ source ∈ sourcesOf doc e.sourceId, source.evidenceKind = e.evidenceKind) ↔
      ∃ source ∈ policy.sources, source.sourceId = e.sourceId ∧
        e.evidenceKind = some source.evidenceKind.text := by
    simp only [mem_sourcesOf_iff hparse]
    constructor
    · rintro ⟨_, ⟨source, hmem, hid, rfl⟩, hkind⟩
      exact ⟨source, hmem, hid, hkind.symm⟩
    · rintro ⟨source, hmem, hid, hkind⟩
      exact ⟨_, ⟨source, hmem, hid, rfl⟩, hkind.symm⟩
  rw [latestEvidence, ← joined, mem_distinctOn_iff (joined_nodup hparse h), ← hsource]
  constructor
  · intro hl
    obtain ⟨hrow, hkind⟩ := mem_joined_iff.mp hl.mem
    refine ⟨⟨hrow, fun other hother hpair ↦ ?_⟩, hkind⟩
    obtain ⟨source, hs, hk⟩ := hkind
    have hid : other.sourceId = e.sourceId := (Prod.mk.inj hpair).2
    exact hl.greatest ⟨other, source.evidenceKind⟩
      (mem_joined_iff.mpr ⟨hother, source, hid ▸ hs, rfl⟩) hpair
  · rintro ⟨hrow, hkind⟩
    refine ⟨mem_joined_iff.mpr ⟨IsLatest.mem hrow, hkind⟩, fun other hother hpair ↦ ?_⟩
    exact IsLatest.greatest hrow _ (mem_joined_iff.mp hother).1 hpair

/-- The candidates of a query are the rows the application sees as evidence with a property. -/
private structure Candidates (rows : List VerificationCheck) (P : RecordedCredentialCheck → Prop)
    (candidates : List Evidence) : Prop where
  mem : ∀ e ∈ candidates, e.toVerificationCheck ∈ rows ∧ e.sourceMode = .live ∧
    P e.toVerificationCheck.toRecorded
  exists_mem : ∀ check, P check → ∃ e ∈ candidates, e.toVerificationCheck.toRecorded = check

/-- The supported part of `WHERE`. -/
private theorem supports_iff (h : StoredChecks rows) {leg : CredentialLegPolicy} {e : Evidence}
    (hcur : IsCurrentRow rows (1000 * now) e.toVerificationCheck) :
    e.supports (1000 * now) leg.row = true ↔
      Supports (rows.map (·.toRecorded)) now leg e.toVerificationCheck.toRecorded := by
  obtain ⟨hrow, hmode, -⟩ := hcur.mem
  have hexact := h.readExactly hrow hmode
  have hvalid : (e.validUntil.all fun validUntil ↦ decide (1000 * now < validUntil)) = true ↔
      ∀ validUntil ∈ e.toVerificationCheck.toRecorded.validUntil, now < validUntil := by
    rw [hexact.validUntil]
    cases e.toVerificationCheck.toRecorded.validUntil with
    | none => simp
    | some validUntil => simp
  simp only [Evidence.supports, Bool.and_eq_true, decide_eq_true_iff, hvalid,
    CredentialLegPolicy.row, Option.some.injEq]
  constructor
  · rintro ⟨⟨⟨htype, hid⟩, hpass⟩, hunexpired⟩
    exact ⟨(isCurrentRow_iff h hrow).mp hcur, hpass, hunexpired, htype,
      of_decide_eq_true hid⟩
  · intro hs
    exact ⟨⟨⟨hs.checkType, decide_eq_true hs.source⟩, hs.pass⟩, hs.unexpired⟩

private theorem exists_evidence (hparse : ParsesTo doc policy) (h : StoredChecks rows)
    {leg : CredentialLegPolicy} (hleg : leg ∈ policy.allLegs) {check : RecordedCredentialCheck}
    (hs : Supports (rows.map (·.toRecorded)) now leg check) :
    ∃ source ∈ policy.sources, source.sourceId ∈ leg.allowedSourceIds ∧ ∃ row : VerificationCheck,
      row.toRecorded = check ∧ IsCurrentRow rows (1000 * now) row ∧ source.sourceId = row.sourceId ∧
        (⟨row, some source.evidenceKind.text⟩ : Evidence) ∈ latestEvidence doc rows
          (1000 * now) := by
  obtain ⟨row, hrow, rfl⟩ := List.mem_map.mp hs.current.mem.1
  have hcur := (isCurrentRow_iff h hrow).mpr hs.current
  have hvalid := CredentialTierPolicy.valid_of_validate hparse.valid
  obtain ⟨source, hmem, hid⟩ := hvalid.declared leg hleg _ hs.source
  refine ⟨source, hmem, hid ▸ hs.source, row, rfl, hcur, hid, ?_⟩
  exact (mem_latestEvidence_iff hparse h).mpr ⟨hcur, source, hmem, hid, rfl⟩

private theorem candidates_document (hparse : ParsesTo doc policy) (h : StoredChecks rows)
    {leg : CredentialLegPolicy} (hleg : leg ∈ policy.documentLegs) :
    Candidates rows (Supports (rows.map (·.toRecorded)) now leg)
      ((latestEvidence doc rows (1000 * now)).filter fun evidence ↦
        evidence.supports (1000 * now) leg.row &&
          evidence.evidenceKind.any (· ∉ ["FORMAT_VALIDATION", "LLM_ADVISORY"])) where
  mem e he := by
    rw [List.mem_filter, Bool.and_eq_true, mem_latestEvidence_iff hparse h] at he
    obtain ⟨⟨hcur, -⟩, hsup, -⟩ := he
    exact ⟨hcur.mem.1, hcur.mem.2.1, (supports_iff h hcur).mp hsup⟩
  exists_mem check hs := by
    have hvalid := CredentialTierPolicy.valid_of_validate hparse.valid
    obtain ⟨source, hmem, hid, row, hrec, hcur, -, hev⟩ := exists_evidence hparse h
      (CredentialTierPolicy.mem_allLegs.mpr (.inl hleg)) hs
    refine ⟨_, List.mem_filter.mpr ⟨hev, ?_⟩, hrec⟩
    obtain ⟨hformat, hllm⟩ := hvalid.document_kind leg hleg source hmem hid
    rw [Bool.and_eq_true]
    refine ⟨(supports_iff h hcur).mpr (hrec ▸ hs), ?_⟩
    cases hk : source.evidenceKind <;> simp_all [CredentialEvidenceKind.text]

private theorem candidates_authority (hparse : ParsesTo doc policy) (h : StoredChecks rows)
    {leg : CredentialLegPolicy} (hleg : leg ∈ policy.currentAuthorityLegs) :
    Candidates rows (SupportsFreshly policy (rows.map (·.toRecorded)) now leg)
      ((latestEvidence doc rows (1000 * now)).filter fun evidence ↦
        evidence.supports (1000 * now) leg.row && evidence.evidenceKind = some "AUTHORITY" &&
          decide (1000 * now - 1000 * policy.currentAuthorityFreshnessMs <
            evidence.checkedAt)) where
  mem e he := by
    simp only [List.mem_filter, Bool.and_eq_true, mem_latestEvidence_iff hparse h,
      decide_eq_true_iff] at he
    obtain ⟨⟨hcur, -⟩, ⟨hsup, -⟩, hfresh⟩ := he
    refine ⟨hcur.mem.1, hcur.mem.2.1, (supports_iff h hcur).mp hsup, ?_⟩
    have hexact := (h.readExactly hcur.mem.1 hcur.mem.2.1).checkedAt
    omega
  exists_mem check hs := by
    have hvalid := CredentialTierPolicy.valid_of_validate hparse.valid
    obtain ⟨source, hmem, hid, row, rfl, hcur, -, hev⟩ := exists_evidence hparse h
      (CredentialTierPolicy.mem_allLegs.mpr (.inr hleg)) hs.toSupports
    refine ⟨_, List.mem_filter.mpr ⟨hev, ?_⟩, rfl⟩
    have hkind := hvalid.authority_kind leg hleg source hmem hid
    have hexact := (h.readExactly hcur.mem.1 hcur.mem.2.1).checkedAt
    have hfresh := hs.fresh
    simp only [Bool.and_eq_true, decide_eq_true_iff]
    refine ⟨⟨(supports_iff h hcur).mpr hs.toSupports, by rw [hkind]; rfl⟩, ?_⟩
    omega

private theorem newestEvidence_cases (h : StoredChecks rows) {P : RecordedCredentialCheck → Prop}
    {candidates : List Evidence} (hcand : Candidates rows P candidates) :
    (newestEvidence candidates = none ∧ ¬ ∃ check, P check) ∨
    ∃ e, newestEvidence candidates = some e ∧ ReadExactly e.toVerificationCheck ∧
      IsNewest P e.toVerificationCheck.toRecorded := by
  cases hnew : newestEvidence candidates with
  | none =>
    refine .inl ⟨rfl, ?_⟩
    rintro ⟨check, hcheck⟩
    obtain ⟨e, he, -⟩ := hcand.exists_mem check hcheck
    rw [newestEvidence, head?_sortBy_eq_none] at hnew
    rw [hnew] at he
    exact List.not_mem_nil he
  | some e =>
    have hle : ∀ left right : Evidence,
        (if right.checkedAt = left.checkedAt then right.recordedSequence - left.recordedSequence
          else right.checkedAt - left.checkedAt) ≤ 0 ↔
        right.checkedAt < left.checkedAt ∨ (right.checkedAt = left.checkedAt ∧
          right.recordedSequence ≤ left.recordedSequence) := by
      intro left right
      split_ifs <;> omega
    obtain ⟨hmem, hmax⟩ := head?_sortBy (fun a b ↦ by rw [hle, hle]; omega)
      (fun a b c ↦ by rw [hle, hle, hle]; omega) hnew
    obtain ⟨hrow, hmode, hP⟩ := hcand.mem e hmem
    have hexact := h.readExactly hrow hmode
    refine .inr ⟨e, rfl, hexact, hP, fun other hother ↦ ?_⟩
    obtain ⟨f, hf, rfl⟩ := hcand.exists_mem other hother
    obtain ⟨hfrow, hfmode, -⟩ := hcand.mem f hf
    have hfexact := h.readExactly hfrow hfmode
    have hcmp := (hle e f).mp (hmax f hf)
    have h₁ := hexact.checkedAt
    have h₂ := hfexact.checkedAt
    have h₃ : f.toVerificationCheck.toRecorded.recordedSequence = f.recordedSequence := rfl
    have h₄ : e.toVerificationCheck.toRecorded.recordedSequence = e.recordedSequence := rfl
    omega

end Evidence

/-! ## The decision

Each query by what it finds; then the choice between the outcomes is the one of the rules.
-/

theorem sqlMin_eq_none {l : List (Option ℤ)} (h : sqlMin l = none) (x : ℤ) : some x ∉ l := by
  induction l with
  | nil => simp
  | cons a l ih =>
    cases a with
    | none => simpa using ih h
    | some a =>
      rw [sqlMin] at h
      split at h <;> exact nomatch h

theorem sqlMin_eq_some {l : List (Option ℤ)} {m : ℤ} (h : sqlMin l = some m) :
    some m ∈ l ∧ ∀ x, some x ∈ l → m ≤ x := by
  induction l generalizing m with
  | nil => exact nomatch h
  | cons a l ih =>
    cases a with
    | none =>
      obtain ⟨hmem, hle⟩ := ih h
      exact ⟨List.mem_cons_of_mem _ hmem, fun x hx ↦ hle x (by simpa using hx)⟩
    | some a =>
      rw [sqlMin] at h
      cases hl : sqlMin l with
      | none =>
        rw [hl, Option.some.injEq] at h
        subst h
        refine ⟨List.mem_cons_self, fun x hx ↦ ?_⟩
        rcases List.mem_cons.mp hx with hx | hx
        · exact (Option.some.inj hx).ge
        · exact absurd hx (sqlMin_eq_none hl x)
      | some b =>
        rw [hl, Option.some.injEq] at h
        obtain ⟨hmem, hle⟩ := ih hl
        subst h
        constructor
        · rcases min_choice a b with h | h <;> rw [h]
          · exact List.mem_cons_self
          · exact List.mem_cons_of_mem _ hmem
        · intro x hx
          rcases List.mem_cons.mp hx with hx | hx
          · exact (min_le_left _ _).trans (Option.some.inj hx).ge
          · exact (min_le_right _ _).trans (hle x hx)

theorem sqlMin_le {l : List (Option ℤ)} {x : ℤ} (h : some x ∈ l) :
    ∃ m, sqlMin l = some m ∧ m ≤ x := by
  cases hm : sqlMin l with
  | none => exact absurd h (sqlMin_eq_none hm x)
  | some m => exact ⟨m, rfl, (sqlMin_eq_some hm).2 x h⟩

section Decision

variable (now) {doc : Jsonb} {policy : CredentialTierPolicy} (hparse : ParsesTo doc policy)
  (h : StoredChecks rows)

include hparse

private theorem mem_relevantPairs_iff {checkType sourceId : String} :
    (some checkType, sourceId) ∈ relevantPairs doc ↔ policy.Allows checkType sourceId := by
  have hlegs : requiredRows doc ++ [identityRow doc] ++ authorityRows doc =
      policy.allLegs.map (·.row) := by
    simp [hparse.required, hparse.identity, hparse.authority, CredentialTierPolicy.allLegs]
  rw [relevantPairs, hlegs]
  simp only [List.mem_flatMap, List.mem_map, CredentialTierPolicy.Allows]
  constructor
  · rintro ⟨_, ⟨leg, hleg, rfl⟩, id, hid, heq⟩
    obtain ⟨htype, rfl⟩ := Prod.mk.inj heq
    exact ⟨leg, hleg, Option.some.inj htype, hid⟩
  · rintro ⟨leg, hleg, rfl, hid⟩
    exact ⟨_, ⟨leg, hleg, rfl⟩, sourceId, hid, rfl⟩

include h

private theorem sqlConflict_iff : sqlConflict doc rows (1000 * now) = true ↔
    Conflicted policy (rows.map (·.toRecorded)) now := by
  have hseq : ((visibleRows rows (1000 * now)).map (·.recordedSequence)).Nodup :=
    h.sequence.sublist (List.filter_sublist.map _)
  simp only [sqlConflict, List.any_eq_true, Bool.and_eq_true, Bool.or_eq_true, decide_eq_true_iff,
    mem_relevantPairs_iff hparse]
  constructor
  · rintro ⟨row, hrow, hallow, hresult⟩
    have hcur : IsCurrentRow rows (1000 * now) row := (mem_distinctOn_iff hseq).mp hrow
    exact ⟨_, (isCurrentRow_iff h hcur.mem.1).mp hcur, hresult, hallow⟩
  · rintro ⟨check, hcur, hresult, hallow⟩
    obtain ⟨row, hrow, rfl⟩ := List.mem_map.mp hcur.mem.1
    exact ⟨row, (mem_distinctOn_iff hseq).mpr ((isCurrentRow_iff h hrow).mpr hcur), hallow, hresult⟩

private theorem selectDocument_cases {leg : CredentialLegPolicy}
    (hleg : leg ∈ policy.documentLegs) : (selectDocument doc rows (1000 * now) leg.row = none ∧
      ¬ ∃ check, Supports (rows.map (·.toRecorded)) now leg check) ∨
    ∃ e, selectDocument doc rows (1000 * now) leg.row = some e ∧
      ReadExactly e.toVerificationCheck ∧
      IsNewest (Supports (rows.map (·.toRecorded)) now leg) e.toVerificationCheck.toRecorded :=
  newestEvidence_cases h (candidates_document hparse h hleg)

private theorem selectAuthority_cases {leg : CredentialLegPolicy}
    (hleg : leg ∈ policy.currentAuthorityLegs) :
    (selectAuthority doc rows (1000 * now) (1000 * policy.currentAuthorityFreshnessMs)
      leg.row = none ∧ ¬ ∃ check, SupportsFreshly policy (rows.map (·.toRecorded)) now leg check) ∨
    ∃ e, selectAuthority doc rows (1000 * now) (1000 * policy.currentAuthorityFreshnessMs) leg.row =
        some e ∧ ReadExactly e.toVerificationCheck ∧
      IsNewest (SupportsFreshly policy (rows.map (·.toRecorded)) now leg)
        e.toVerificationCheck.toRecorded :=
  newestEvidence_cases h (candidates_authority hparse h hleg)

omit h hparse in
/-- `bool_and` over the selected rows of a non-empty list of legs. -/
private theorem allFound_iff {legs : List CredentialLegPolicy} (hne : legs ≠ [])
    {select : LegRow → Option Evidence} {P : CredentialLegPolicy → RecordedCredentialCheck → Prop}
    (hselect : ∀ leg ∈ legs, (select leg.row = none ∧ ¬ ∃ check, P leg check) ∨
      ∃ e, select leg.row = some e ∧ ReadExactly e.toVerificationCheck ∧
        IsNewest (P leg) e.toVerificationCheck.toRecorded) :
    allFound ((legs.map (·.row)).map select) = true ↔ ∀ leg ∈ legs, ∃ check, P leg check := by
  simp only [allFound, Bool.and_eq_true, decide_eq_true_iff, List.all_eq_true, List.mem_map,
    forall_exists_index, and_imp, forall_apply_eq_imp_iff₂, ne_eq, List.map_eq_nil_iff, hne,
    not_false_eq_true, true_and]
  refine forall₂_congr fun leg hleg ↦ ?_
  rcases hselect leg hleg with ⟨hnone, hno⟩ | ⟨e, hsome, -, hnew⟩
  · simp [hnone, hno]
  · simp only [hsome, Option.isSome_some, true_iff]
    exact ⟨_, hnew.mem⟩

omit hparse in
private theorem bind_validUntil_iff {selected : Option Evidence}
    {P : RecordedCredentialCheck → Prop}
    (hP : ∀ check, P check → check ∈ rows.map (·.toRecorded))
    (hcases : (selected = none ∧ ¬ ∃ check, P check) ∨ ∃ e, selected = some e ∧
      ReadExactly e.toVerificationCheck ∧ IsNewest P e.toVerificationCheck.toRecorded) {x : ℤ} :
    selected.bind (·.validUntil) = some x ↔
      ∃ check validUntil, IsNewest P check ∧ check.validUntil = some validUntil ∧
        x = 1000 * validUntil := by
  rcases hcases with ⟨rfl, hno⟩ | ⟨e, rfl, hexact, hnew⟩
  · refine ⟨fun hx ↦ (nomatch hx), fun ⟨check, _, hcheck, _⟩ ↦ (hno ⟨check, hcheck.mem⟩).elim⟩
  · rw [Option.bind_some, hexact.validUntil, Option.map_eq_some_iff]
    constructor
    · rintro ⟨validUntil, hvalid, rfl⟩
      exact ⟨_, validUntil, hnew, hvalid, rfl⟩
    · rintro ⟨check, validUntil, hcheck, hvalid, rfl⟩
      obtain rfl := hnew.unique hP h.wellRecorded.sequence hcheck
      exact ⟨validUntil, hvalid, rfl⟩

omit hparse in
private theorem map_checkedAt_iff {selected : Option Evidence} {P : RecordedCredentialCheck → Prop}
    (hP : ∀ check, P check → check ∈ rows.map (·.toRecorded))
    (hcases : (selected = none ∧ ¬ ∃ check, P check) ∨ ∃ e, selected = some e ∧
      ReadExactly e.toVerificationCheck ∧ IsNewest P e.toVerificationCheck.toRecorded)
    {freshness x : ℤ} :
    selected.map (fun evidence ↦ evidence.checkedAt + 1000 * freshness) = some x ↔
      ∃ check, IsNewest P check ∧ x = 1000 * (check.checkedAt + freshness) := by
  rcases hcases with ⟨rfl, hno⟩ | ⟨e, rfl, hexact, hnew⟩
  · refine ⟨fun hx ↦ (nomatch hx), fun ⟨check, hcheck, _⟩ ↦ (hno ⟨check, hcheck.mem⟩).elim⟩
  · rw [Option.map_some, Option.some.injEq, hexact.checkedAt]
    constructor
    · rintro rfl
      exact ⟨_, hnew, by ring⟩
    · rintro ⟨check, hcheck, rfl⟩
      obtain rfl := hnew.unique hP h.wellRecorded.sequence hcheck
      ring

private theorem document_expiry_iff {leg : CredentialLegPolicy} (hleg : leg ∈ policy.documentLegs)
    {x : ℤ} :
    (selectDocument doc rows (1000 * now) leg.row).bind (·.validUntil) = some x ↔
      ∃ check validUntil, IsNewest (Supports (rows.map (·.toRecorded)) now leg) check ∧
        check.validUntil = some validUntil ∧ x = 1000 * validUntil :=
  bind_validUntil_iff h (fun _ hs ↦ hs.current.mem.1) (selectDocument_cases now hparse h hleg)

private theorem authority_expiry_iff {leg : CredentialLegPolicy}
    (hleg : leg ∈ policy.currentAuthorityLegs) {x : ℤ} :
    (selectAuthority doc rows (1000 * now) (1000 * policy.currentAuthorityFreshnessMs)
        leg.row).bind (·.validUntil) = some x ↔
      ∃ check validUntil,
        IsNewest (SupportsFreshly policy (rows.map (·.toRecorded)) now leg) check ∧
        check.validUntil = some validUntil ∧ x = 1000 * validUntil :=
  bind_validUntil_iff h (fun _ hs ↦ hs.current.mem.1) (selectAuthority_cases now hparse h hleg)

private theorem authority_stale_iff {leg : CredentialLegPolicy}
    (hleg : leg ∈ policy.currentAuthorityLegs) {x : ℤ} :
    (selectAuthority doc rows (1000 * now) (1000 * policy.currentAuthorityFreshnessMs)
        leg.row).map (fun evidence ↦
          evidence.checkedAt + 1000 * policy.currentAuthorityFreshnessMs) = some x ↔
      ∃ check, IsNewest (SupportsFreshly policy (rows.map (·.toRecorded)) now leg) check ∧
        x = 1000 * (check.checkedAt + policy.currentAuthorityFreshnessMs) :=
  map_checkedAt_iff h (fun _ hs ↦ hs.current.mem.1) (selectAuthority_cases now hparse h hleg)

omit h hparse in
/-- The minimum of a list that names the bounds, or something no later, is the earliest bound. -/
private theorem sqlMin_eq_of_isLeast {B : ℤ → Prop} {expiry : ℤ} (hleast : IsLeast {b | B b} expiry)
    {l : List (Option ℤ)} (hsound : ∀ x, some x ∈ l → ∃ b, B b ∧ x = 1000 * b)
    (hcomplete : ∀ b, B b → ∃ x, some x ∈ l ∧ x ≤ 1000 * b) : sqlMin l = some (1000 * expiry) := by
  obtain ⟨x, hx, hxle⟩ := hcomplete expiry hleast.1
  obtain ⟨m, hm, hmle⟩ := sqlMin_le hx
  obtain ⟨b, hb, rfl⟩ := hsound m (sqlMin_eq_some hm).1
  have hle : expiry ≤ b := hleast.2 hb
  rw [hm, Option.some.injEq]
  omega

omit h hparse in
private theorem authorityBound_le (freshness : ℤ) {leg : CredentialLegPolicy}
    (hleg : leg ∈ policy.currentAuthorityLegs) {select : LegRow → Option Evidence} {x : ℤ}
    (hx : some x ∈ [(select leg.row).map fun evidence ↦ evidence.checkedAt + freshness,
      (select leg.row).bind (·.validUntil)]) :
    ∃ m, sqlMin (policy.currentAuthorityLegs.map fun leg ↦
      authorityBound freshness (select leg.row)) = some m ∧ m ≤ x := by
  obtain ⟨m, hm, hmle⟩ := sqlMin_le hx
  have hmem : some m ∈ policy.currentAuthorityLegs.map fun leg ↦
      authorityBound freshness (select leg.row) := List.mem_map.mpr ⟨leg, hleg, hm⟩
  obtain ⟨n, hn, hnle⟩ := sqlMin_le hmem
  exact ⟨n, hn, hnle.trans hmle⟩

/-- The earliest expiry the queries find is the earliest bound. -/
private theorem sqlExpiry_eq {expiry : ℤ}
    (hleast : IsLeast {bound | ExpiryBound policy (rows.map (·.toRecorded)) now bound} expiry) :
    sqlMin [some (1000 * now + 1000 * policy.currentAuthorityFreshnessMs),
      sqlMin (((requiredRows doc).map (selectDocument doc rows (1000 * now))).map
        fun found ↦ found.bind (·.validUntil)),
      (selectDocument doc rows (1000 * now) (identityRow doc)).bind (·.validUntil),
      sqlMin (((authorityRows doc).map (selectAuthority doc rows (1000 * now)
          (1000 * policy.currentAuthorityFreshnessMs))).map
        (authorityBound (1000 * policy.currentAuthorityFreshnessMs)))] = some (1000 * expiry) := by
  have hid : policy.identityConsistencyLeg ∈ policy.documentLegs :=
    List.mem_append_right _ (List.mem_singleton.mpr rfl)
  rw [hparse.required, hparse.identity, hparse.authority]
  simp only [List.map_map]
  -- each number of the query is a bound, and each bound is at least one of the numbers
  refine sqlMin_eq_of_isLeast hleast (fun x hx ↦ ?_) (fun b hb ↦ ?_)
  · simp only [List.mem_cons, List.not_mem_nil, or_false] at hx
    rcases hx with hx | hx | hx | hx
    · exact ⟨_, .decided, by rw [Option.some.inj hx]; ring⟩
    · obtain ⟨leg, hleg, hfound⟩ := List.mem_map.mp (sqlMin_eq_some hx.symm).1
      have hdoc : leg ∈ policy.documentLegs := List.mem_append_left _ hleg
      obtain ⟨check, v, hnew, hvalid, rfl⟩ := (document_expiry_iff now hparse h hdoc).mp hfound
      exact ⟨v, .document hdoc hnew hvalid, rfl⟩
    · obtain ⟨check, v, hnew, hvalid, rfl⟩ := (document_expiry_iff now hparse h hid).mp hx.symm
      exact ⟨v, .document hid hnew hvalid, rfl⟩
    · obtain ⟨leg, hleg, hfound⟩ := List.mem_map.mp (sqlMin_eq_some hx.symm).1
      have hmem := (sqlMin_eq_some hfound).1
      simp only [List.mem_cons, List.not_mem_nil, or_false] at hmem
      rcases hmem with hmem | hmem
      · obtain ⟨check, hnew, rfl⟩ := (authority_stale_iff now hparse h hleg).mp hmem.symm
        exact ⟨_, .stale hleg hnew, rfl⟩
      · obtain ⟨check, v, hnew, hvalid, rfl⟩ :=
          (authority_expiry_iff now hparse h hleg).mp hmem.symm
        exact ⟨v, .authority hleg hnew hvalid, rfl⟩
  · cases hb with
    | decided =>
      refine ⟨1000 * now + 1000 * policy.currentAuthorityFreshnessMs, by simp, ?_⟩
      exact le_of_eq (by ring)
    | @document leg check _ hleg hnew hvalid =>
      have hfound := (document_expiry_iff now hparse h hleg).mpr ⟨check, b, hnew, hvalid, rfl⟩
      rcases List.mem_append.mp hleg with hreq | hreq
      · have hmem : some (1000 * b) ∈ policy.requiredDocumentLegs.map fun leg ↦
            (selectDocument doc rows (1000 * now) leg.row).bind (·.validUntil) :=
          List.mem_map.mpr ⟨leg, hreq, hfound⟩
        obtain ⟨m, hm, hmle⟩ := sqlMin_le hmem
        exact ⟨m, List.mem_cons_of_mem _ (List.mem_cons.mpr (.inl hm.symm)), hmle⟩
      · obtain rfl := List.mem_singleton.mp hreq
        exact ⟨1000 * b, by simp [← hfound], le_rfl⟩
    | @authority leg check _ hleg hnew hvalid =>
      have hfound := (authority_expiry_iff now hparse h hleg).mpr ⟨check, b, hnew, hvalid, rfl⟩
      obtain ⟨m, hm, hmle⟩ := authorityBound_le
        (1000 * policy.currentAuthorityFreshnessMs) hleg
        (List.mem_cons_of_mem _ (List.mem_singleton.mpr hfound.symm))
      exact ⟨m, by rw [← hm]; simp [Function.comp_def], hmle⟩
    | @stale leg check hleg hnew =>
      have hfound := (authority_stale_iff now hparse h hleg).mpr ⟨check, hnew, rfl⟩
      obtain ⟨m, hm, hmle⟩ := authorityBound_le _ hleg (List.mem_cons.mpr (.inl hfound.symm))
      exact ⟨m, by rw [← hm]; simp [Function.comp_def], hmle⟩

/-- On a document the application accepts, the queries decide by the rules. -/
theorem sqlDecision_decides : ∃ decision,
    Decides policy (rows.map (·.toRecorded)) now decision ∧
      sqlDecision doc rows (1000 * now) (1000 * policy.currentAuthorityFreshnessMs) =
        decision.toMicroseconds := by
  have hvalid := CredentialTierPolicy.valid_of_validate hparse.valid
  obtain ⟨decision, -, hdecides⟩ := decideTierFromRecordedChecks_decides now hvalid
    h.wellRecorded rfl hparse.valid
  refine ⟨decision, hdecides, ?_⟩
  have hconflict := sqlConflict_iff now hparse h
  have hdocuments := allFound_iff hvalid.required_ne_nil fun leg hleg ↦
    selectDocument_cases now hparse h (List.mem_append_left _ hleg)
  have hidentity : (selectDocument doc rows (1000 * now) policy.identityConsistencyLeg.row).isSome ↔
      ∃ check, Supports (rows.map (·.toRecorded)) now policy.identityConsistencyLeg check := by
    rcases selectDocument_cases now hparse h
      (List.mem_append_right _ (List.mem_singleton.mpr rfl)) with ⟨hnone, hno⟩ | ⟨e, hsome, -, hnew⟩
    · simp [hnone, hno]
    · simp only [hsome, Option.isSome_some, true_iff]
      exact ⟨_, hnew.mem⟩
  have hauthority := allFound_iff hvalid.authority_ne_nil fun leg hleg ↦
    selectAuthority_cases now hparse h hleg
  rw [← hparse.required] at hdocuments
  rw [← hparse.identity] at hidentity
  rw [← hparse.authority] at hauthority
  rw [sqlDecision]
  cases hdecides with
  | conflict hc =>
    rw [if_pos (hconflict.mpr hc)]
    rfl
  | documents hc hd =>
    rw [if_neg (hc ∘ hconflict.mp), Bool.eq_false_iff.mpr (hd ∘ hdocuments.mp)]
    rfl
  | identity hc hd hi =>
    rw [if_neg (hc ∘ hconflict.mp), hdocuments.mpr hd, Bool.eq_false_iff.mpr (hi ∘ hidentity.mp)]
    rfl
  | authority hc hd hi ha =>
    rw [if_neg (hc ∘ hconflict.mp), hdocuments.mpr hd, hidentity.mpr hi,
      Bool.eq_false_iff.mpr (ha ∘ hauthority.mp)]
    rfl
  | full hc hd hi ha he =>
    rw [if_neg (hc ∘ hconflict.mp), hdocuments.mpr hd, hidentity.mpr hi, hauthority.mpr ha,
      sqlExpiry_eq now hparse h he]
    rfl

end Decision

end Nayasetu
