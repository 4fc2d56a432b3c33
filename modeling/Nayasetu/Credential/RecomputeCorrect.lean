import Nayasetu.Credential.TierRules

/-!
# The application decides by the rules

`decideTierFromRecordedChecks` never fails on a valid policy for the right provider type, and its
decision is the one the evidence calls for. The maps, filters and sorts of the code are replaced
one after another by what they compute: the latest checks by `IsCurrent`, the classification of a
check by the legs it supports, the first element of a sorted list by `IsNewest`.

The only assumption on the checks is that no two carry the same number of recording
(`WellRecorded`), which the database's sequence guarantees. The proof follows the function from
its first line to its last, one section for each group of steps.
-/

namespace Nayasetu

open Collections

/-- Checks as the database stores them: no sequence number twice, no `NUL` in a text. -/
structure WellRecorded (checks : List RecordedCredentialCheck) : Prop where
  sequence : (checks.map (·.recordedSequence)).Nodup
  checkType : ∀ check ∈ checks, '\x00' ∉ check.checkType.toList
  sourceId : ∀ check ∈ checks, '\x00' ∉ check.sourceId.toList

/-! ## The latest checks

The key of a check determines its leg and source, as stored texts contain no `NUL`; so the map
holds the last check of each pair.
-/

private theorem key_eq_iff {a b : RecordedCredentialCheck} (ht : '\x00' ∉ a.checkType.toList)
    (hs : '\x00' ∉ a.sourceId.toList) : a.key = b.key ↔ a.pair = b.pair := by
  have htoList : ∀ c : RecordedCredentialCheck,
      c.key.toList = c.checkType.toList ++ '\x00' :: c.sourceId.toList := by
    intro c
    simp [RecordedCredentialCheck.key]
  rw [← String.toList_inj, htoList, htoList, List.append_cons_inj_of_notMem ht hs,
    RecordedCredentialCheck.pair, RecordedCredentialCheck.pair, Prod.mk.injEq, String.toList_inj,
    String.toList_inj]
  simp

variable {checks : List RecordedCredentialCheck} {now : ℤ}

theorem WellRecorded.visible (h : WellRecorded checks) :
    WellRecorded (visibleChecks checks now) where
  sequence := List.Nodup.sublist (List.filter_sublist.map _) h.sequence
  checkType check hc := h.checkType check (List.mem_of_mem_filter hc)
  sourceId check hc := h.sourceId check (List.mem_of_mem_filter hc)

theorem mem_latestChecks_iff (h : WellRecorded checks) {check : RecordedCredentialCheck} :
    check ∈ latestChecksByLegAndSource (visibleChecks checks now) ↔ IsCurrent checks now check := by
  rw [latestChecksByLegAndSource, mem_sortBy, mem_keepGreatest_iff h.visible.sequence]
  constructor
  · refine fun hl ↦ ⟨hl.mem, fun b hb hp ↦ hl.greatest b hb ?_⟩
    exact (key_eq_iff (h.visible.checkType b hb) (h.visible.sourceId b hb)).mpr hp
  · refine fun hl ↦ ⟨IsLatest.mem hl, fun b hb hk ↦ IsLatest.greatest hl b hb ?_⟩
    exact (key_eq_iff (h.visible.checkType b hb) (h.visible.sourceId b hb)).mp hk

/-! ## Classification

The flags a check is given under a valid policy, and what each of them says about its leg and its
source.
-/

namespace CredentialTierPolicy

variable {policy : CredentialTierPolicy}

private theorem foldl_relevant {legs : List CredentialLegPolicy} {checkType sourceId : String} :
    ∀ m : OrderedMap String (List String),
      ((legs.foldl (fun relevant leg ↦ relevant.set leg.checkType
          (((relevant.get leg.checkType).getD []) ++ leg.allowedSourceIds)) m).get checkType).any
          (sourceId ∈ ·) = true ↔
        (m.get checkType).any (sourceId ∈ ·) = true ∨
          ∃ leg ∈ legs, leg.checkType = checkType ∧ sourceId ∈ leg.allowedSourceIds := by
  induction legs with
  | nil => simp
  | cons leg legs ih =>
    intro m
    rw [List.foldl_cons, ih, OrderedMap.get_set]
    simp only [List.mem_cons, exists_eq_or_imp]
    by_cases hk : checkType = leg.checkType
    · subst hk
      cases hget : m.get leg.checkType with
      | none => simp
      | some l => simp [or_assoc]
    · simp [hk, Ne.symm hk]

theorem relevantSourcesByLeg_any {checkType sourceId : String} :
    (policy.relevantSourcesByLeg.get checkType).any (sourceId ∈ ·) = true ↔
      policy.Allows checkType sourceId := by
  rw [relevantSourcesByLeg, foldl_relevant]
  simp [Allows]

theorem legMap_any {legs : List CredentialLegPolicy} (h : (legs.map (·.checkType)).Nodup)
    {checkType sourceId : String} :
    ((legMap legs).get checkType).any (sourceId ∈ ·) = true ↔
      ∃ leg ∈ legs, leg.checkType = checkType ∧ sourceId ∈ leg.allowedSourceIds := by
  have hkeys : ((legs.map fun leg ↦ (leg.checkType, leg.allowedSourceIds)).map Prod.fst).Nodup := by
    rwa [List.map_map]
  rw [Option.any_eq_true]
  simp only [legMap, OrderedMap.get_ofList_eq_some_iff hkeys, List.mem_map, Prod.mk.injEq,
    decide_eq_true_iff]
  constructor
  · rintro ⟨_, ⟨leg, hleg, rfl, rfl⟩, hmem⟩
    exact ⟨leg, hleg, rfl, hmem⟩
  · rintro ⟨leg, hleg, rfl, hmem⟩
    exact ⟨_, ⟨leg, hleg, rfl, rfl⟩, hmem⟩

theorem mem_allLegs {leg : CredentialLegPolicy} :
    leg ∈ policy.allLegs ↔ leg ∈ policy.documentLegs ∨ leg ∈ policy.currentAuthorityLegs := by
  simp [allLegs, documentLegs, or_assoc]

theorem Valid.source_of_mem (h : policy.Valid) {leg : CredentialLegPolicy}
    (hleg : leg ∈ policy.allLegs)
    {sourceId : String} (hid : sourceId ∈ leg.allowedSourceIds) :
    ∃ source ∈ policy.sources, source.sourceId ∈ leg.allowedSourceIds ∧
      policy.sourceMap.get sourceId = some source := by
  obtain ⟨source, hmem, rfl⟩ := h.declared leg hleg sourceId hid
  exact ⟨source, hmem, hid, (sourceMap_get_iff h.sources_nodup).mpr ⟨hmem, rfl⟩⟩

/-- Evidence from a source some document leg takes counts if it passed and has not expired. -/
theorem Valid.contributes_document (h : policy.Valid) {leg : CredentialLegPolicy}
    (hleg : leg ∈ policy.documentLegs) {check : RecordedCredentialCheck}
    (hid : check.sourceId ∈ leg.allowedSourceIds) (hmode : check.sourceMode = .live)
    (hdate : check.checkedAt ≤ now) :
    (policy.domainCheck check).contributes now = true ↔
      check.result = .pass ∧ ∀ validUntil ∈ check.validUntil, now < validUntil := by
  obtain ⟨source, hmem, hsource, hget⟩ := h.source_of_mem (mem_allLegs.mpr (.inl hleg)) hid
  obtain ⟨hformat, hllm⟩ := h.document_kind leg hleg source hmem hsource
  simp [CredentialCheck.contributes, domainCheck, hget, hformat, hllm, hmode, hdate,
    Option.all_eq_true]

theorem Valid.contributes_authority (h : policy.Valid) {leg : CredentialLegPolicy}
    (hleg : leg ∈ policy.currentAuthorityLegs) {check : RecordedCredentialCheck}
    (hid : check.sourceId ∈ leg.allowedSourceIds) (hmode : check.sourceMode = .live)
    (hdate : check.checkedAt ≤ now) :
    (policy.domainCheck check).contributes now = true ↔
      check.result = .pass ∧ ∀ validUntil ∈ check.validUntil, now < validUntil := by
  obtain ⟨source, hmem, hsource, hget⟩ := h.source_of_mem (mem_allLegs.mpr (.inr hleg)) hid
  have hkind := h.authority_kind leg hleg source hmem hsource
  simp [CredentialCheck.contributes, domainCheck, hget, hkind, hmode, hdate, Option.all_eq_true]

theorem Valid.isRequiredDocumentLeg_iff (h : policy.Valid) {check : RecordedCredentialCheck} :
    (policy.domainCheck check).isRequiredDocumentLeg = true ↔
      ∃ leg ∈ policy.requiredDocumentLegs,
        leg.checkType = check.checkType ∧ check.sourceId ∈ leg.allowedSourceIds := by
  simp only [domainCheck, Bool.and_eq_true, legMap_any h.required_nodup, and_iff_right_iff_imp]
  rintro ⟨leg, hleg, -, hid⟩
  obtain ⟨source, -, -, hget⟩ := h.source_of_mem
    (mem_allLegs.mpr (.inl (List.mem_append_left _ hleg))) hid
  simp [hget]

theorem Valid.isIdentityConsistencyLeg_iff (h : policy.Valid) {check : RecordedCredentialCheck} :
    (policy.domainCheck check).isIdentityConsistencyLeg = true ↔
      policy.identityConsistencyLeg.checkType = check.checkType ∧
        check.sourceId ∈ policy.identityConsistencyLeg.allowedSourceIds := by
  simp only [domainCheck, Bool.and_eq_true, decide_eq_true_iff, and_assoc]
  constructor
  · rintro ⟨-, ht, hid⟩
    exact ⟨ht.symm, hid⟩
  · rintro ⟨ht, hid⟩
    obtain ⟨source, -, -, hget⟩ := h.source_of_mem
      (mem_allLegs.mpr (.inl (List.mem_append_right _ (List.mem_singleton.mpr rfl)))) hid
    exact ⟨by simp [hget], ht.symm, hid⟩

theorem Valid.isCurrentAuthorityLeg_iff (h : policy.Valid) {check : RecordedCredentialCheck} :
    (policy.domainCheck check).isCurrentAuthorityLeg = true ↔
      ∃ leg ∈ policy.currentAuthorityLegs,
        leg.checkType = check.checkType ∧ check.sourceId ∈ leg.allowedSourceIds := by
  simp only [domainCheck, Bool.and_eq_true, legMap_any h.authority_nodup, and_iff_right_iff_imp]
  rintro ⟨leg, hleg, -, hid⟩
  obtain ⟨source, hmem, hsource, hget⟩ := h.source_of_mem (mem_allLegs.mpr (.inr hleg)) hid
  simp [hget, h.authority_kind leg hleg source hmem hsource]

end CredentialTierPolicy

/-! ## The evidence of a leg

The checks that count for a leg are those that support it.
-/

section Evidence

variable {policy : CredentialTierPolicy} (h : policy.Valid) (hchecks : WellRecorded checks)

private def contributing (policy : CredentialTierPolicy) (checks : List RecordedCredentialCheck)
    (now : ℤ) : List CredentialCheck :=
  ((latestChecksByLegAndSource (visibleChecks checks now)).map policy.domainCheck).filter
    fun check ↦ check.contributes now

private theorem contributing_def :
    ((latestChecksByLegAndSource (visibleChecks checks now)).map policy.domainCheck).filter
      (fun check ↦ check.contributes now) = contributing policy checks now := rfl

private theorem mem_contributing_iff (hchecks : WellRecorded checks) {check : CredentialCheck} :
    check ∈ contributing policy checks now ↔
      ∃ recorded, IsCurrent checks now recorded ∧ policy.domainCheck recorded = check ∧
        check.contributes now = true := by
  simp only [contributing, List.mem_filter, List.mem_map, mem_latestChecks_iff hchecks]
  constructor
  · rintro ⟨⟨recorded, hrec, heq⟩, hcon⟩
    exact ⟨recorded, hrec, heq, hcon⟩
  · rintro ⟨recorded, hrec, heq, hcon⟩
    exact ⟨⟨recorded, hrec, heq⟩, hcon⟩

variable (now)

include h hchecks

private theorem mem_required_iff {leg : CredentialLegPolicy}
    (hleg : leg ∈ policy.requiredDocumentLegs)
    (check : CredentialCheck) :
    check ∈ (contributing policy checks now).filter (fun check ↦
        check.checkType = leg.checkType && check.isRequiredDocumentLeg) ↔
      ∃ recorded, Supports checks now leg recorded ∧ policy.domainCheck recorded = check := by
  have hdoc : leg ∈ policy.documentLegs := List.mem_append_left _ hleg
  simp only [List.mem_filter, mem_contributing_iff hchecks, Bool.and_eq_true, decide_eq_true_iff]
  constructor
  · rintro ⟨⟨recorded, hcur, rfl, hcon⟩, htype, hreq⟩
    obtain ⟨leg', hleg', htype', hid⟩ := h.isRequiredDocumentLeg_iff.mp hreq
    obtain rfl : leg' = leg :=
      List.inj_on_of_nodup_map h.required_nodup hleg' hleg (htype'.trans htype)
    obtain ⟨-, hmode, hdate⟩ := hcur.mem
    obtain ⟨hpass, hvalid⟩ := (h.contributes_document hdoc hid hmode hdate).mp hcon
    exact ⟨recorded, ⟨hcur, hpass, hvalid, htype, hid⟩, rfl⟩
  · rintro ⟨recorded, hs, rfl⟩
    obtain ⟨-, hmode, hdate⟩ := hs.current.mem
    refine ⟨⟨recorded, hs.current, rfl, ?_⟩, hs.checkType, ?_⟩
    · exact (h.contributes_document hdoc hs.source hmode hdate).mpr ⟨hs.pass, hs.unexpired⟩
    · exact h.isRequiredDocumentLeg_iff.mpr ⟨leg, hleg, hs.checkType.symm, hs.source⟩

private theorem mem_identity_iff (check : CredentialCheck) :
    check ∈ (contributing policy checks now).filter (·.isIdentityConsistencyLeg) ↔
      ∃ recorded, Supports checks now policy.identityConsistencyLeg recorded ∧
        policy.domainCheck recorded = check := by
  have hdoc : policy.identityConsistencyLeg ∈ policy.documentLegs := by
    simp [CredentialTierPolicy.documentLegs]
  simp only [List.mem_filter, mem_contributing_iff hchecks]
  constructor
  · rintro ⟨⟨recorded, hcur, rfl, hcon⟩, hid⟩
    obtain ⟨htype, hid⟩ := h.isIdentityConsistencyLeg_iff.mp hid
    obtain ⟨-, hmode, hdate⟩ := hcur.mem
    obtain ⟨hpass, hvalid⟩ := (h.contributes_document hdoc hid hmode hdate).mp hcon
    exact ⟨recorded, ⟨hcur, hpass, hvalid, htype.symm, hid⟩, rfl⟩
  · rintro ⟨recorded, hs, rfl⟩
    obtain ⟨-, hmode, hdate⟩ := hs.current.mem
    refine ⟨⟨recorded, hs.current, rfl, ?_⟩, ?_⟩
    · exact (h.contributes_document hdoc hs.source hmode hdate).mpr ⟨hs.pass, hs.unexpired⟩
    · exact h.isIdentityConsistencyLeg_iff.mpr ⟨hs.checkType.symm, hs.source⟩

private theorem mem_authority_iff {leg : CredentialLegPolicy}
    (hleg : leg ∈ policy.currentAuthorityLegs) (check : CredentialCheck) :
    check ∈ (contributing policy checks now).filter (fun check ↦
        check.checkType = leg.checkType && check.isCurrentAuthorityLeg &&
          decide (now < check.checkedAt + policy.currentAuthorityFreshnessMs)) ↔
      ∃ recorded, SupportsFreshly policy checks now leg recorded ∧
        policy.domainCheck recorded = check := by
  simp only [List.mem_filter, mem_contributing_iff hchecks, Bool.and_eq_true, decide_eq_true_iff]
  constructor
  · rintro ⟨⟨recorded, hcur, rfl, hcon⟩, ⟨htype, hauth⟩, hfresh⟩
    obtain ⟨leg', hleg', htype', hid⟩ := h.isCurrentAuthorityLeg_iff.mp hauth
    obtain rfl : leg' = leg :=
      List.inj_on_of_nodup_map h.authority_nodup hleg' hleg (htype'.trans htype)
    obtain ⟨-, hmode, hdate⟩ := hcur.mem
    obtain ⟨hpass, hvalid⟩ := (h.contributes_authority hleg hid hmode hdate).mp hcon
    exact ⟨recorded, ⟨⟨hcur, hpass, hvalid, htype, hid⟩, hfresh⟩, rfl⟩
  · rintro ⟨recorded, hs, rfl⟩
    obtain ⟨-, hmode, hdate⟩ := hs.current.mem
    refine ⟨⟨recorded, hs.current, rfl, ?_⟩, ⟨hs.checkType, ?_⟩, hs.fresh⟩
    · exact (h.contributes_authority hleg hs.source hmode hdate).mpr ⟨hs.pass, hs.unexpired⟩
    · exact h.isCurrentAuthorityLeg_iff.mpr ⟨leg, hleg, hs.checkType.symm, hs.source⟩

end Evidence

/-! ## The newest evidence

The comparison of the code never returns zero. It orders checks with different numbers, and here
no two have the same.
-/

private theorem newest_eq_some {candidates : List CredentialCheck} {check : CredentialCheck}
    (h : newest candidates = some check) : check ∈ candidates ∧ ∀ other ∈ candidates,
      other.checkedAt < check.checkedAt ∨ (other.checkedAt = check.checkedAt ∧
        other.recordedSequence ≤ check.recordedSequence) := by
  have hle : ∀ left right : CredentialCheck,
      (if right.checkedAt - left.checkedAt ≠ 0 then right.checkedAt - left.checkedAt
        else if left.recordedSequence < right.recordedSequence then 1 else -1) ≤ 0 ↔
      right.checkedAt < left.checkedAt ∨ (right.checkedAt = left.checkedAt ∧
        right.recordedSequence ≤ left.recordedSequence) := by
    intro left right
    split_ifs <;> omega
  obtain ⟨hmem, hmax⟩ := head?_sortBy
    (fun a b ↦ by rw [hle, hle]; omega) (fun a b c ↦ by rw [hle, hle, hle]; omega) h
  exact ⟨hmem, fun other ho ↦ (hle check other).mp (hmax other ho)⟩

private theorem newest_isNewest {policy : CredentialTierPolicy} {candidates : List CredentialCheck}
    {P : RecordedCredentialCheck → Prop}
    (hP : ∀ check, check ∈ candidates ↔ ∃ recorded, P recorded ∧
      policy.domainCheck recorded = check)
    {check : CredentialCheck} (h : newest candidates = some check) :
    ∃ recorded, IsNewest P recorded ∧ policy.domainCheck recorded = check := by
  obtain ⟨hmem, hmax⟩ := newest_eq_some h
  obtain ⟨recorded, hrec, rfl⟩ := (hP check).mp hmem
  exact ⟨recorded, ⟨hrec, fun other ho ↦ hmax _ ((hP _).mpr ⟨other, ho, rfl⟩)⟩, rfl⟩

private theorem newest_eq_none {policy : CredentialTierPolicy} {candidates : List CredentialCheck}
    {P : RecordedCredentialCheck → Prop}
    (hP : ∀ check, check ∈ candidates ↔ ∃ recorded, P recorded ∧
      policy.domainCheck recorded = check) :
    newest candidates = none ↔ ¬ ∃ recorded, P recorded := by
  rw [newest, head?_sortBy_eq_none, List.eq_nil_iff_forall_not_mem]
  constructor
  · rintro h ⟨recorded, hrec⟩
    exact h _ ((hP _).mpr ⟨recorded, hrec, rfl⟩)
  · rintro h check hmem
    obtain ⟨recorded, hrec, -⟩ := (hP check).mp hmem
    exact h ⟨recorded, hrec⟩

theorem isLeast_mathMin (first : ℤ) (rest : List ℤ) :
    IsLeast {x | x ∈ first :: rest} (mathMin first rest) := by
  rw [mathMin]
  induction rest generalizing first with
  | nil => exact ⟨List.mem_singleton.mpr rfl, fun x hx ↦ (List.mem_singleton.mp hx).ge⟩
  | cons a rest ih =>
    rw [List.foldl_cons]
    obtain ⟨hmem, hle⟩ := ih (min first a)
    constructor
    · rcases List.mem_cons.mp hmem with heq | hmem
      · rcases min_choice first a with h | h <;> rw [heq, h] <;> simp
      · simp [hmem]
    · intro x hx
      have hmin := hle (List.mem_cons_self)
      rcases List.mem_cons.mp hx with rfl | hx
      · exact hmin.trans (min_le_left _ _)
      · rcases List.mem_cons.mp hx with rfl | hx
        · exact hmin.trans (min_le_right _ _)
        · exact hle (List.mem_cons_of_mem _ hx)

/-! ## The decision

The early return on a conflict, the three tests of the tier rules and the expiry, each by the
lemma above that says what it computes.
-/

section Decision

variable (now) {policy : CredentialTierPolicy} (h : policy.Valid) (hchecks : WellRecorded checks)

include hchecks

variable (policy) in
private theorem conflict_iff :
    ((latestChecksByLegAndSource (visibleChecks checks now)).any fun check ↦
      (check.result = .mismatch || check.result = .conflict) && check.sourceMode = .live &&
        check.checkedAt ≤ now &&
        (policy.relevantSourcesByLeg.get check.checkType).any (check.sourceId ∈ ·)) = true ↔
      Conflicted policy checks now := by
  simp only [List.any_eq_true, Bool.and_eq_true, Bool.or_eq_true, decide_eq_true_iff,
    CredentialTierPolicy.relevantSourcesByLeg_any, mem_latestChecks_iff hchecks, Conflicted]
  constructor
  · rintro ⟨check, hcur, ⟨⟨hresult, -⟩, -⟩, hallow⟩
    exact ⟨check, hcur, hresult, hallow⟩
  · rintro ⟨check, hcur, hresult, hallow⟩
    exact ⟨check, hcur, ⟨⟨hresult, hcur.mem.2.1⟩, hcur.mem.2.2⟩, hallow⟩

private theorem selected_spec {legs : List CredentialLegPolicy}
    {P : CredentialLegPolicy → RecordedCredentialCheck → Prop}
    {candidates : CredentialLegPolicy → List CredentialCheck}
    (hcand : ∀ leg ∈ legs, ∀ check, check ∈ candidates leg ↔
      ∃ recorded, P leg recorded ∧ policy.domainCheck recorded = check)
    (hmem : ∀ leg ∈ legs, ∀ check, P leg check → check ∈ checks)
    (hall : ∀ leg ∈ legs, ∃ check, P leg check) :
    none ∉ legs.map (fun leg ↦ newest (candidates leg)) ∧
      ∀ check, check ∈ (legs.map fun leg ↦ newest (candidates leg)).filterMap id ↔
        ∃ leg ∈ legs, ∃ recorded, IsNewest (P leg) recorded ∧
          policy.domainCheck recorded = check := by
  have hsome : ∀ leg ∈ legs, ∃ recorded,
    newest (candidates leg) = some (policy.domainCheck recorded)
      ∧ IsNewest (P leg) recorded := by
    intro leg hleg
    cases hnew : newest (candidates leg) with
    | none => exact absurd (hall leg hleg) ((newest_eq_none (hcand leg hleg)).mp hnew)
    | some check =>
      obtain ⟨recorded, hrec, rfl⟩ := newest_isNewest (hcand leg hleg) hnew
      exact ⟨recorded, rfl, hrec⟩
  constructor
  · rw [List.mem_map]
    rintro ⟨leg, hleg, hnone⟩
    obtain ⟨recorded, hrec, -⟩ := hsome leg hleg
    rw [hnone] at hrec
    exact nomatch hrec
  · intro check
    simp only [List.mem_filterMap, List.mem_map, id_eq, exists_exists_and_eq_and]
    refine exists_congr fun leg ↦ and_congr_right fun hleg ↦ ?_
    obtain ⟨recorded, hrec, hnew⟩ := hsome leg hleg
    rw [hrec, Option.some.injEq]
    constructor
    · rintro rfl
      exact ⟨recorded, hnew, rfl⟩
    · rintro ⟨recorded', hnew', rfl⟩
      rw [hnew.unique (hmem leg hleg) hchecks.sequence hnew']

include h

private theorem documentsComplete_iff :
    (policy.requiredDocumentLegs.map (·.checkType)).all
      (· ∈ ((contributing policy checks now).filter
        (·.isRequiredDocumentLeg)).map (·.checkType)) = true ↔
      ∀ leg ∈ policy.requiredDocumentLegs, ∃ check, Supports checks now leg check := by
  simp only [List.all_eq_true, List.mem_map, decide_eq_true_iff, forall_exists_index, and_imp,
    forall_apply_eq_imp_iff₂]
  refine forall₂_congr fun leg hleg ↦ ?_
  have hmem := mem_required_iff now h hchecks hleg
  constructor
  · rintro ⟨check, hcheck, htype⟩
    rw [List.mem_filter] at hcheck
    obtain ⟨recorded, hs, -⟩ := (hmem check).mp (List.mem_filter.mpr
      ⟨hcheck.1, by simp [htype, hcheck.2]⟩)
    exact ⟨recorded, hs⟩
  · rintro ⟨recorded, hs⟩
    obtain ⟨hcon, hreq⟩ := List.mem_filter.mp ((hmem _).mpr ⟨recorded, hs, rfl⟩)
    simp only [Bool.and_eq_true, decide_eq_true_iff] at hreq
    exact ⟨_, List.mem_filter.mpr ⟨hcon, hreq.2⟩, hreq.1⟩

private theorem identityComplete_iff :
    (contributing policy checks now).any (·.isIdentityConsistencyLeg) = true ↔
      ∃ check, Supports checks now policy.identityConsistencyLeg check := by
  rw [List.any_eq_true]
  constructor
  · rintro ⟨check, hcheck⟩
    obtain ⟨recorded, hs, -⟩ :=
      (mem_identity_iff now h hchecks check).mp (List.mem_filter.mpr hcheck)
    exact ⟨recorded, hs⟩
  · rintro ⟨recorded, hs⟩
    exact ⟨_, List.mem_filter.mp ((mem_identity_iff now h hchecks _).mpr ⟨recorded, hs, rfl⟩)⟩

private theorem authorityComplete_iff :
    (policy.currentAuthorityLegs.map (·.checkType)).all
      (· ∈ ((contributing policy checks now).filter
        fun check ↦ check.sourceMode = .live && check.isCurrentAuthorityLeg &&
          (some policy.currentAuthorityFreshnessMs).any fun freshness ↦
            decide (now - freshness < check.checkedAt)).map (·.checkType)) = true ↔
      ∀ leg ∈ policy.currentAuthorityLegs,
        ∃ check, SupportsFreshly policy checks now leg check := by
  simp only [List.all_eq_true, List.mem_map, decide_eq_true_iff, forall_exists_index, and_imp,
    forall_apply_eq_imp_iff₂, Option.any_some]
  refine forall₂_congr fun leg hleg ↦ ?_
  have hmem := mem_authority_iff now h hchecks hleg
  constructor
  · rintro ⟨check, hcheck, htype⟩
    simp only [List.mem_filter, Bool.and_eq_true, decide_eq_true_iff] at hcheck
    obtain ⟨hcon, ⟨-, hauth⟩, hfresh⟩ := hcheck
    obtain ⟨recorded, hs, -⟩ := (hmem check).mp (List.mem_filter.mpr
      ⟨hcon, by simp [htype, hauth]; omega⟩)
    exact ⟨recorded, hs⟩
  · rintro ⟨recorded, hs⟩
    obtain ⟨hcon, hauth⟩ := List.mem_filter.mp ((hmem _).mpr ⟨recorded, hs, rfl⟩)
    simp only [Bool.and_eq_true, decide_eq_true_iff] at hauth
    have hmode := hs.current.mem.2.1
    refine ⟨_, List.mem_filter.mpr ⟨hcon, ?_⟩, hauth.1.1⟩
    have hfresh := hs.fresh
    simp only [Bool.and_eq_true, decide_eq_true_iff]
    refine ⟨⟨hmode, hauth.1.2⟩, ?_⟩
    change now - policy.currentAuthorityFreshnessMs < recorded.checkedAt
    omega

/-- With evidence for every leg there is an expiry, and it is the earliest bound. -/
private theorem tierExpiry_spec
    (hdocuments : ∀ leg ∈ policy.requiredDocumentLegs, ∃ check, Supports checks now leg check)
    (hidentity : ∃ check, Supports checks now policy.identityConsistencyLeg check)
    (hauthority : ∀ leg ∈ policy.currentAuthorityLegs,
      ∃ check, SupportsFreshly policy checks now leg check) :
    ∃ expiry, tierExpiry policy (contributing policy checks now) now = .ok expiry ∧
      IsLeast {bound | ExpiryBound policy checks now bound} expiry := by
  obtain ⟨hreqNone, hreq⟩ := selected_spec hchecks
    (fun leg hleg ↦ mem_required_iff now h hchecks hleg)
    (fun _ _ _ hs ↦ hs.current.mem.1) hdocuments
  obtain ⟨hauthNone, hauth⟩ := selected_spec hchecks
    (fun leg hleg ↦ mem_authority_iff now h hchecks hleg)
    (fun _ _ _ hs ↦ hs.current.mem.1) hauthority
  have hcand := mem_identity_iff now h hchecks
  cases hid : newest ((contributing policy checks now).filter (·.isIdentityConsistencyLeg)) with
  | none => exact absurd hidentity ((newest_eq_none hcand).mp hid)
  | some identityCheck =>
    obtain ⟨recorded, hrec, rfl⟩ := newest_isNewest hcand hid
    set required := (requiredEvidence policy (contributing policy checks now)).filterMap id
    set authority := (authorityEvidence policy (contributing policy checks now) now).filterMap id
    set bounds := (required ++ [policy.domainCheck recorded] ++ authority).filterMap
        (·.validUntil) ++
      authority.map fun check ↦ check.checkedAt + policy.currentAuthorityFreshnessMs
    -- the bounds of the rules are the numbers whose minimum the code takes
    have hbounds : {bound | ExpiryBound policy checks now bound} =
        {x | x ∈ (now + policy.currentAuthorityFreshnessMs) :: bounds} := by
      ext bound
      simp only [Set.mem_ofPred_eq, List.mem_cons, bounds, List.mem_append, List.mem_filterMap,
        List.mem_map, List.not_mem_nil, or_false]
      constructor
      · intro hb
        cases hb with
        | decided => exact .inl rfl
        | @document leg check _ hleg hcheck hvalid =>
          refine .inr (.inl ?_)
          rcases List.mem_append.mp hleg with hleg | hleg
          · exact ⟨_, .inl (.inl ((hreq _).mpr ⟨leg, hleg, check, hcheck, rfl⟩)), hvalid⟩
          · obtain rfl := List.mem_singleton.mp hleg
            obtain rfl := hrec.unique (fun _ hs ↦ hs.current.mem.1) hchecks.sequence hcheck
            exact ⟨_, .inl (.inr rfl), hvalid⟩
        | @authority leg check _ hleg hcheck hvalid =>
          exact .inr (.inl ⟨_, .inr ((hauth _).mpr ⟨leg, hleg, check, hcheck, rfl⟩), hvalid⟩)
        | @stale leg check hleg hcheck =>
          exact .inr (.inr ⟨_, (hauth _).mpr ⟨leg, hleg, check, hcheck, rfl⟩, rfl⟩)
      · rintro (rfl | ⟨check, (hmem | rfl) | hmem, hvalid⟩ | ⟨check, hmem, rfl⟩)
        · exact .decided
        · obtain ⟨leg, hleg, recorded', hnew, rfl⟩ := (hreq _).mp hmem
          exact .document (List.mem_append_left _ hleg) hnew hvalid
        · exact .document (List.mem_append_right _ (List.mem_singleton.mpr rfl)) hrec hvalid
        · obtain ⟨leg, hleg, recorded', hnew, rfl⟩ := (hauth _).mp hmem
          exact .authority hleg hnew hvalid
        · obtain ⟨leg, hleg, recorded', hnew, rfl⟩ := (hauth _).mp hmem
          exact .stale hleg hnew
    have hleast := isLeast_mathMin (now + policy.currentAuthorityFreshnessMs) bounds
    rw [← hbounds] at hleast
    have hfuture : now < mathMin (now + policy.currentAuthorityFreshnessMs) bounds :=
      ExpiryBound.lt h.freshness_pos hleast.1
    refine ⟨_, ?_, hleast⟩
    simp only [tierExpiry, hid]
    rw [unit_bind_eq_ok_iff, unit_bind_eq_ok_iff, require_eq_ok_iff, require_eq_ok_iff]
    exact ⟨⟨hreqNone, hauthNone⟩, fun hpast ↦ hfuture.not_ge hpast.2, rfl⟩

theorem decideTierFromRecordedChecks_decides {providerType : String}
    (htype : providerType = policy.providerType)
    (hvalid : validateCredentialTierPolicy policy = .ok ()) :
    ∃ decision, decideTierFromRecordedChecks providerType checks policy now = .ok decision ∧
      Decides policy checks now decision := by
  have hvisible : checks.filter (fun check ↦ check.sourceMode = .live && check.checkedAt ≤ now) =
      visibleChecks checks now := rfl
  have hconflict := conflict_iff now policy hchecks
  have hdocuments := documentsComplete_iff now h hchecks
  have hidentity := identityComplete_iff now h hchecks
  have hauthority := authorityComplete_iff now h hchecks
  rw [decideTierFromRecordedChecks]
  simp only [hvalid, htype, require, if_true, bind, Except.bind, hvisible, decideVerificationTier,
    contributing_def]
  by_cases hc : Conflicted policy checks now
  · exact ⟨_, if_pos (hconflict.mpr hc), .conflict hc⟩
  rw [if_neg (fun hany ↦ hc (hconflict.mp hany))]
  by_cases hd : ∀ leg ∈ policy.requiredDocumentLegs, ∃ check, Supports checks now leg check
  swap
  · rw [Bool.eq_false_iff.mpr (fun hall ↦ hd (hdocuments.mp hall))]
    exact ⟨_, rfl, .documents hc hd⟩
  rw [hdocuments.mpr hd]
  by_cases hi : ∃ check, Supports checks now policy.identityConsistencyLeg check
  swap
  · rw [Bool.eq_false_iff.mpr (fun hany ↦ hi (hidentity.mp hany))]
    exact ⟨_, rfl, .identity hc hd hi⟩
  rw [hidentity.mpr hi]
  by_cases ha : ∀ leg ∈ policy.currentAuthorityLegs, ∃ check,
    SupportsFreshly policy checks now leg check
  swap
  · rw [Bool.eq_false_iff.mpr (fun hall ↦ ha (hauthority.mp hall))]
    exact ⟨_, rfl, .authority hc hd hi ha⟩
  rw [hauthority.mpr ha]
  obtain ⟨expiry, hexpiry, hleast⟩ := tierExpiry_spec now h hchecks hd hi ha
  simp only [hexpiry]
  exact ⟨_, rfl, .full hc hd hi ha hleast⟩

end Decision

end Nayasetu
