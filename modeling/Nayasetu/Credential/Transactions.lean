import Nayasetu.Credential.Standing

/-!
# The credential transactions keep to the discipline

Each transaction is walked through once, statement by statement. What it has read is carried
forward to its commit: rows under a lock it holds are still the same, policies keep their snapshots
and numbers it drew are still unused. So the commit is one of the effects, and the errors on the way
are ordinary.

`Safe` is the judgement of these walks: from a state the session has seen, running the rest of the
program ends in an ordinary error or in a commit that meets the discipline, whatever other
sessions do between two statements. Its rules follow the constructors of programs, so a walk has
the shape of the definition it is about.
-/

namespace Nayasetu

open Values RowLock Collections

abbrev CredentialView : Type := View Database LockKey CredentialRequest

/-- Every way of executing the program keeps to the discipline and ends in `Q` or fails
ordinarily. -/
abbrev Safe {α : Type} (db₀ : Database) (i : ℕ) (r : CredentialRequest)
    (Q : α → CredentialView → Prop) (p : Tx α) (v : CredentialView) : Prop :=
  (credentialDiscipline db₀).toProtocol.wp i r Q (fun e _ ↦ e.Ordinary) p v

/-- The session goes on from `v` to `w` without writing. -/
abbrev Onward (db₀ : Database) (i : ℕ) (v w : CredentialView) : Prop :=
  (credentialDiscipline db₀).Onward i v w

/-- Whenever the session commits now, the commit is an effect. -/
def Ready (db₀ : Database) (i : ℕ) (r : CredentialRequest) (w : CredentialView) : Prop :=
  ∀ s, (credentialDiscipline db₀).Since i w.shared s → CredentialInvariant db₀ s →
    Effect i s r (w.pending s.store)

variable {α : Type} {db₀ : Database} {i : ℕ} {r : CredentialRequest} {v w : CredentialView}

/-! ## Statements

The rules for the statements that all transactions have in common.
-/

section Statements

variable {Q : α → CredentialView → Prop}

theorem safe_bind {β : Type} {Q : β → CredentialView → Prop} {p : Tx α} {f : α → Tx β}
    (h : Safe db₀ i r (fun a w ↦ Safe db₀ i r Q (f a) w) p v) : Safe db₀ i r Q (p >>= f) v :=
  Protocol.wp_bind h

theorem safe_pure {a : α} (h : Q a v) : Safe db₀ i r Q (pure a) v := Protocol.wp_pure h

theorem safe_throw {failure : Failure} (h : failure.Ordinary) : Safe db₀ i r Q (throw failure) v :=
  Protocol.wp_throw h

theorem safe_ensure {condition : Prop} [Decidable condition] {failure : Failure}
    {Q : Unit → CredentialView → Prop} (hfailure : failure.Ordinary) (h : condition → Q () v) :
    Safe db₀ i r Q (ensure condition failure) v :=
  wp_ensure h fun _ ↦ hfailure

theorem safe_write {f : Database → Database} {Q : Unit → CredentialView → Prop}
    (h : Q () { v with pending := f ∘ v.pending }) : Safe db₀ i r Q (write f) v :=
  Protocol.wp_write h

theorem safe_fromExcept {x : Except Failure α} (hx : FailsOrdinarily x)
    (h : ∀ a, x = .ok a → Q a v) : Safe db₀ i r Q (fromExcept x) v :=
  Protocol.wp_fromExcept h hx

theorem safe_withTransaction {operation : ℤ → Tx α} (hpending : v.pending = id)
    (h : ∀ timestamp w, Onward db₀ i v w → w.pending = id →
      Safe db₀ i r (fun _ w ↦ Ready db₀ i r w) (operation timestamp) w) :
    Safe db₀ i r (fun _ _ ↦ True) (withTransaction operation) v := by
  refine wp_withTransaction fun s hs ↦ ?_
  refine Protocol.wp_mono (fun _ w hw s' hs' ↦ ?_) (fun e w he s' _ ↦ he)
    (h s.clock (v.at s) ⟨Discipline.since_of_later hs, hs.inv, rfl⟩ hpending)
  obtain ⟨hinv, hrely⟩ :=
    (hw s' (Discipline.since_of_later hs') hs'.inv).commit w.snapshot hs'.inv
  exact ⟨hinv, hrely, trivial⟩

end Statements

/-! ## What transactions read

What a statement that reads leaves the session knowing.
-/

section Reads

/-- The policy that a transaction reads. -/
structure ActivePolicy (db : Database) (providerType : String) (row : CredentialPolicyRow)
    (policy : CredentialTierPolicy) : Prop where
  mem : row ∈ db.policies
  rowType : row.providerType = providerType
  parse : parseCredentialTierPolicy row.policySnapshot = .ok policy
  policyType : policy.providerType = providerType
  version : policy.version = row.version

theorem safe_loadActiveCredentialPolicy {providerType : String}
    {Q : CredentialTierPolicy → CredentialView → Prop} (hpending : v.pending = id)
    (h : ∀ w row policy, Onward db₀ i v w → w.pending = id →
      ActivePolicy w.shared.store providerType row policy → Q policy w) :
    Safe db₀ i r Q (loadActiveCredentialPolicy providerType) v := by
  refine safe_bind (Discipline.wp_snapshot fun w hw _ ↦ ?_)
  rw [hpending, id]
  cases hrow : w.shared.store.activePolicy providerType with
  | none => exact safe_throw (ordinary_error_append (by simp) (by simp))
  | some row =>
    refine safe_bind (safe_fromExcept (parseCredentialTierPolicy_ordinary _) fun policy hparse ↦ ?_)
    refine safe_bind (safe_ensure (by simp [Failure.Ordinary]) fun hmeta ↦ ?_)
    refine safe_pure (h w row policy hw (hw.pending.trans hpending) ?_)
    have hactive : row.providerType = providerType ∧ row.active = true := by
      simpa using List.find?_some hrow
    exact ⟨List.mem_of_find?_eq_some hrow, hactive.1, hparse, hmeta.1, hmeta.2⟩

theorem safe_selectActiveCase {caseId providerId : ℕ}
    {Q : Option VerificationCase → CredentialView → Prop} (hpending : v.pending = id)
    (hnone : ∀ w, Onward db₀ i v w → w.pending = id → Q none w)
    (hsome : ∀ w c, Onward db₀ i v w → w.pending = id →
      w.shared.holder (.verificationCase caseId) = some i → w.shared.store.case caseId = some c →
      c.providerId = providerId ∧ c.status = .reviewRequired → Q (some c) w) :
    Safe db₀ i r Q (selectActiveCase caseId providerId) v := by
  refine Discipline.wp_selectForUpdate (fun w hw _ ↦ hnone w hw (hw.pending.trans hpending))
    fun w c hw hlock hrow ↦ ?_
  rw [hpending, id, Option.filter_eq_some_iff] at hrow
  obtain ⟨hcase, hactive⟩ := hrow
  simp only [Bool.and_eq_true, decide_eq_true_iff] at hactive
  exact hsome w c hw (hw.pending.trans hpending) hlock hcase hactive.1

/-- A provider, read under its lock. -/
theorem safe_selectProvider {providerId : ℕ} {Q : Option Provider → CredentialView → Prop}
    (hpending : v.pending = id) (hnone : ∀ w, Onward db₀ i v w → w.pending = id → Q none w)
    (hsome : ∀ w provider, Onward db₀ i v w → w.pending = id →
      w.shared.holder (.provider providerId) = some i →
      w.shared.store.provider providerId = some provider → Q (some provider) w) :
    Safe db₀ i r Q (selectForUpdate (.provider providerId) (·.provider providerId)) v := by
  refine Discipline.wp_selectForUpdate (fun w hw _ ↦ hnone w hw (hw.pending.trans hpending))
    fun w provider hw hlock hrow ↦ ?_
  rw [hpending, id] at hrow
  exact hsome w provider hw (hw.pending.trans hpending) hlock hrow

/-- A new check: its numbers are its own and its texts are storable. -/
theorem safe_insertVerificationCheck {row : ℕ → ℤ → VerificationCheck}
    {Q : ℕ → CredentialView → Prop}
    (h : ∀ w (id recordedSequence : ℕ), Onward db₀ i v w → Drawn w.shared i id →
      Drawn w.shared i recordedSequence → (row id recordedSequence).TextOk →
      Q id { w with pending := Database.insertCheck (row id recordedSequence) ∘ v.pending }) :
    Safe db₀ i r Q (insertVerificationCheck row) v := by
  refine safe_bind (Discipline.wp_nextval fun w₁ id hw₁ hid hunused ↦ ?_)
  refine safe_bind (Discipline.wp_nextval fun w₂ recordedSequence hw₂ hsequence hunused' ↦ ?_)
  refine safe_bind (safe_ensure (by simp [Failure.Ordinary]) fun htext ↦ ?_)
  have hdrawn : Drawn w₂.shared i id := ⟨hw₂.since.drawn hid, hw₂.since.unused id hid hunused⟩
  rw [List.forall_mem_cons, List.forall_mem_cons] at htext
  have hpending : w₂.pending = v.pending := hw₂.pending.trans hw₁.pending
  refine safe_bind (safe_write (safe_pure ?_))
  rw [hpending]
  exact h w₂ id recordedSequence (hw₁.trans hw₂) hdrawn ⟨hsequence, hunused'⟩ ⟨htext.1, htext.2.1⟩

end Reads

/-! ## What a transaction still knows

Facts that were read earlier and that no other session can have changed since, by what is locked
or by what never changes.
-/

section Since

variable {s s' : Shared Database LockKey CredentialRequest}

theorem Drawn.since {n : ℕ} (h : Drawn s i n) (hs : (credentialDiscipline db₀).Since i s s') :
    Drawn s' i n := ⟨hs.drawn h.minted, hs.unused n h.minted h.unused⟩

theorem provider_since (hs : (credentialDiscipline db₀).Since i s s') {id : ℕ}
    (hlock : s.holder (.provider id) = some i) {provider : Provider}
    (h : s.store.provider id = some provider) : s'.store.provider id = some provider :=
  (hs.keep (.provider id) hlock).trans h

theorem case_since (hs : (credentialDiscipline db₀).Since i s s') {id : ℕ}
    (hlock : s.holder (.verificationCase id) = some i) {c : VerificationCase}
    (h : s.store.case id = some c) :
    s'.store.case id = some c ∧ s'.store.checksOf id = s.store.checksOf id :=
  hs.keep (.verificationCase id) hlock c h

theorem ActivePolicy.since (hs : (credentialDiscipline db₀).Since i s s') {providerType : String}
    {row : CredentialPolicyRow} {policy : CredentialTierPolicy}
    (h : ActivePolicy s.store providerType row policy) :
    ∃ row', ActivePolicy s'.store providerType row' policy ∧
      row'.policySnapshot = row.policySnapshot := by
  obtain ⟨row', hmem, htype, hversion, hsnapshot⟩ := hs.mono.policy row h.mem
  refine ⟨row', ⟨hmem, htype.trans h.rowType, ?_, h.policyType, h.version.trans hversion.symm⟩,
    hsnapshot⟩
  rw [hsnapshot, h.parse]

end Since

/-! ## Manual review -/

theorem safe_recordManualInTransaction {actor : ActorContext} {input : ManualCredentialCheckInput}
    {reviewedAt : ℤ} (hpending : v.pending = id) :
    Safe db₀ i (.recordManual actor input) (fun _ w ↦ Ready db₀ i (.recordManual actor input) w)
      (recordManualInTransaction actor input reviewedAt) v := by
  refine safe_bind (safe_selectProvider hpending (fun _ _ _ ↦ ?_)
    fun w₁ provider _ hp₁ hproviderLock hprovider ↦ ?_)
  · exact safe_throw (by simp [Failure.Ordinary])
  refine safe_bind (safe_loadActiveCredentialPolicy hp₁ fun w₂ row policy hw₂ hp₂ hpolicy ↦ ?_)
  refine safe_bind (safe_ensure (by simp [Failure.Ordinary]) fun hpermits ↦ ?_)
  refine safe_bind (safe_selectActiveCase hp₂ (fun _ _ _ ↦ ?_)
    fun w₃ c hw₃ hp₃ hlock hcase hactive ↦ ?_)
  · exact safe_throw (by simp [Failure.Ordinary])
  refine safe_bind
    (safe_insertVerificationCheck fun w₄ id recordedSequence hw₄ hid hsequence htext ↦ ?_)
  refine safe_bind (safe_write (safe_pure ?_))
  rw [hp₃]
  intro s hs _
  have hs₃ := hw₄.since.trans hs
  have hs₂ := hw₃.since.trans hs₃
  obtain ⟨row', hpolicy', -⟩ := hpolicy.since hs₂
  exact .recordManual (provider_since (hw₂.since.trans hs₂) hproviderLock hprovider) hpolicy'.mem
    hpolicy'.rowType hpolicy'.parse hpermits (case_since hs₃ hlock hcase).1 hactive
    (hs₃.holds _ hlock) (hid.since hs) (hsequence.since hs) htext
    (congrArg some hpolicy'.version)

theorem safe_recordManualCredentialCheck {actor : ActorContext} {input : ManualCredentialCheckInput}
    (hpending : v.pending = id) :
    Safe db₀ i (.recordManual actor input) (fun _ _ ↦ True)
      (recordManualCredentialCheck actor input)
      v := by
  refine safe_bind (safe_ensure (by simp [Failure.Ordinary]) fun _ ↦ ?_)
  refine safe_bind (safe_ensure (by simp [Failure.Ordinary]) fun _ ↦ ?_)
  refine safe_bind (safe_ensure (by simp [Failure.Ordinary]) fun _ ↦ ?_)
  have hrest (reviewedAt : ℤ) {w : CredentialView} (hp : w.pending = id) :
      Safe db₀ i (.recordManual actor input) (fun _ _ ↦ True)
        (withTransaction fun _ ↦ recordManualInTransaction actor input reviewedAt) w :=
    safe_withTransaction hp fun _ _ _ hp' ↦ safe_recordManualInTransaction hp'
  cases input.reviewedAt with
  | some reviewedAt => exact hrest reviewedAt hpending
  | none =>
    refine safe_bind (safe_bind (Discipline.wp_now fun w hw ↦ safe_pure ?_))
    exact hrest _ (hw.pending.trans hpending)

/-! ## Unavailable sources -/

theorem safe_assertProviderWriteAuthority {actor : ActorContext} {providerId : ℕ}
    {Q : Unit → CredentialView → Prop} (hpending : v.pending = id)
    (h : ∀ w provider, Onward db₀ i v w → w.pending = id →
      w.shared.store.provider providerId = some provider → Q () w) :
    Safe db₀ i r Q (assertProviderWriteAuthority actor providerId) v := by
  refine safe_bind (safe_ensure trivial fun _ ↦ ?_)
  refine safe_bind (Discipline.wp_snapshot fun w hw _ ↦ ?_)
  rw [hpending, id]
  cases hprovider : w.shared.store.provider providerId with
  | none => exact safe_throw trivial
  | some provider =>
    exact safe_ensure trivial fun _ ↦ h w provider hw (hw.pending.trans hpending) hprovider

theorem mem_activeCases_iff {db : Database} (hinv : StoreInvariant db) {providerId : ℕ}
    {c : VerificationCase} : c ∈ db.activeCases providerId ↔
      c ∈ db.cases ∧ c.providerId = providerId ∧ c.status = .reviewRequired := by
  simp only [Database.activeCases, List.mem_filter, Bool.and_eq_true, decide_eq_true_iff]
  refine and_congr_right fun hc ↦ ⟨And.left, fun h ↦ ⟨h, ?_⟩⟩
  rw [(hinv.undecided c hc h.2).1, Option.isNone_none]

theorem safe_lockFirstActiveCase {providerId : ℕ}
    {Q : Option VerificationCase → CredentialView → Prop}
    {candidates : List VerificationCase} (hpending : v.pending = id)
    (hcandidates : ∀ c ∈ candidates, ∃ c', v.shared.store.case c.id = some c')
    (hsome : ∀ w c, Onward db₀ i v w → w.pending = id →
      w.shared.holder (.verificationCase c.id) = some i → w.shared.store.case c.id = some c →
      c.providerId = providerId ∧ c.status = .reviewRequired → Q (some c) w)
    (hnone : ∀ w, Onward db₀ i v w → w.pending = id →
      (∀ c ∈ candidates, w.shared.holder (.verificationCase c.id) = some i ∧
        ∃ c', w.shared.store.case c.id = some c' ∧
          ¬ (c'.providerId = providerId ∧ c'.status = .reviewRequired)) → Q none w)
    (hinv : CredentialInvariant db₀ v.shared) :
    Safe db₀ i r Q (lockFirstActiveCase providerId candidates) v := by
  induction candidates generalizing v with
  | nil => exact safe_pure (hnone v ⟨.refl _, hinv, rfl⟩ hpending (by simp))
  | cons first candidates ih =>
    rw [List.forall_mem_cons] at hcandidates
    refine safe_bind (Discipline.wp_lock fun w hw hlock ↦ ?_)
    have hp : w.pending = id := hw.pending.trans hpending
    obtain ⟨c₀, hc₀⟩ := hcandidates.1
    obtain ⟨c₁, hc₁, -⟩ := hw.since.mono.case _ c₀ hc₀
    rw [hpending, id]
    cases hfind : (w.shared.store.activeCases providerId).find? (·.id = first.id) with
    | some active =>
      obtain ⟨hmem, hactive⟩ :=
        (mem_activeCases_iff hw.inv.store).mp (List.mem_of_find?_eq_some hfind)
      have hid : active.id = first.id := by simpa using List.find?_some hfind
      exact safe_pure
        (hsome w active hw hp (hid ▸ hlock) (hw.inv.store.case_eq hmem) hactive)
    | none =>
      have hinactive : ¬ (c₁.providerId = providerId ∧ c₁.status = .reviewRequired) := by
        intro hactive
        obtain ⟨hmem, hid⟩ := Database.mem_of_case hc₁
        have := List.find?_eq_none.mp hfind c₁
          ((mem_activeCases_iff hw.inv.store).mpr ⟨hmem, hactive⟩)
        exact this (by simpa using hid)
      refine ih hp (fun c hc ↦ ?_) (fun w' c hw' ↦ hsome w' c (hw.trans hw'))
        (fun w' hw' hp' hrest ↦ hnone w' (hw.trans hw') hp' ?_) hw.inv
      · obtain ⟨c', hc'⟩ := hcandidates.2 c hc
        obtain ⟨c'', hc'', -⟩ := hw.since.mono.case _ c' hc'
        exact ⟨c'', hc''⟩
      · refine List.forall_mem_cons.mpr ⟨⟨hw'.since.holds _ hlock, c₁, ?_, hinactive⟩, hrest⟩
        exact (case_since hw'.since hlock hc₁).1

/-- What `findOrCreateReviewRequiredCase` leaves: an active case under lock, or a new case that no
other transaction can have opened. -/
theorem safe_findOrCreateReviewRequiredCase {timestamp : ℤ} {providerId : ℕ}
    {Q : ℕ × Bool → CredentialView → Prop} (hpending : v.pending = id)
    (hfound : ∀ w c, Onward db₀ i v w → w.pending = id →
      w.shared.holder (.verificationCase c.id) = some i → w.shared.store.case c.id = some c →
      c.providerId = providerId ∧ c.status = .reviewRequired → Q (c.id, false) w)
    (hcreated : ∀ w id, Onward db₀ i v w → Drawn w.shared i id →
      w.shared.holder (.activeCaseOf providerId) = some i →
      (∀ c ∈ w.shared.store.cases, ¬ (c.providerId = providerId ∧ c.status = .reviewRequired)) →
      Q (id, true)
        { w with pending := Database.insertCase (reviewRequiredCase providerId timestamp id) }) :
    Safe db₀ i r Q (findOrCreateReviewRequiredCase timestamp providerId) v := by
  refine safe_bind (Discipline.wp_lock fun w₁ hw₁ hlock ↦ ?_)
  refine safe_bind (Discipline.wp_snapshot fun w₂ hw₂ _ ↦ ?_)
  have hp₂ : w₂.pending = id := (hw₂.pending.trans hw₁.pending).trans hpending
  rw [hw₁.pending, hpending, id]
  refine safe_bind (safe_lockFirstActiveCase hp₂ (fun c hc ↦ ?_) (fun w₃ c hw₃ ↦ ?_)
    (fun w₃ hw₃ hp₃ hinactive ↦ ?_) hw₂.inv)
  · rw [mem_sortBy, mem_activeCases_iff hw₂.inv.store] at hc
    exact ⟨c, hw₂.inv.store.case_eq hc.1⟩
  · exact fun hp₃ hlocked hcase hactive ↦ safe_pure
      (hfound w₃ c ((hw₁.trans hw₂).trans hw₃) hp₃ hlocked hcase hactive)
  refine safe_bind (Discipline.wp_nextval fun w₄ caseId hw₄ hid hunused ↦ ?_)
  refine safe_bind (Discipline.wp_lock fun w₅ hw₅ _ ↦ ?_)
  have hw₃₅ := hw₄.trans hw₅
  have hlock₂ := hw₂.since.holds _ hlock
  -- An active case here was a candidate, and no candidate is active any more.
  have hnone : ∀ c ∈ w₅.shared.store.cases,
      ¬ (c.providerId = providerId ∧ c.status = .reviewRequired) := by
    intro c hc hactive
    obtain ⟨c₂, hc₂, hid₂, hactive₂⟩ :=
      (hw₃.trans hw₃₅).since.keep (.activeCaseOf providerId) hlock₂ c hc hactive.1 hactive.2
    have hcandidate := (mem_activeCases_iff hw₂.inv.store).mpr ⟨hc₂, hactive₂⟩
    obtain ⟨hlocked, c₃, hc₃, hinactive₃⟩ := hinactive c₂ (mem_sortBy.mpr hcandidate)
    have hc₅ := (case_since hw₃₅.since hlocked hc₃).1
    rw [hid₂] at hc₅
    obtain rfl := Option.some.inj (hc₅.symm.trans (hw₅.inv.store.case_eq hc))
    exact hinactive₃ hactive
  have hp₄ : w₄.pending = id := hw₄.pending.trans hp₃
  have hp₅ : w₅.pending = id := hw₅.pending.trans hp₄
  rw [hp₄, id]
  refine safe_bind (wp_ensure (fun _ ↦ ?_) fun hnot ↦ absurd hnone hnot)
  have hresult := hcreated w₅ caseId (((hw₁.trans hw₂).trans hw₃).trans hw₃₅)
    ⟨hw₅.since.drawn hid, hw₅.since.unused caseId hid hunused⟩
    (hw₃₅.since.holds _ (hw₃.since.holds _ hlock₂)) hnone
  refine safe_bind (safe_write (safe_pure ?_))
  rw [hp₅]
  exact hresult

theorem safe_recordUnavailableSourceCheck {actor : ActorContext}
    {input : RecordUnavailableSourceInput}
    {timestamp : ℤ} (hpending : v.pending = id) :
    Safe db₀ i (.recordUnavailable actor input)
      (fun _ w ↦ Ready db₀ i (.recordUnavailable actor input) w)
      (recordUnavailableSourceCheck actor input timestamp) v := by
  refine safe_bind (safe_assertProviderWriteAuthority hpending fun w₁ provider _ hp₁ hprovider ↦ ?_)
  refine safe_bind (safe_findOrCreateReviewRequiredCase hp₁
    (fun w₂ c hw₂ hp₂ hlock hcase hactive ↦ ?_) fun w₂ caseId hw₂ hcaseId hlock hnone ↦ ?_)
  · refine safe_bind
      (safe_insertVerificationCheck fun w₃ id recordedSequence hw₃ hid hsequence htext ↦ ?_)
    refine safe_bind (safe_write (safe_pure ?_))
    rw [hp₂]
    intro s hs _
    have hs₂ := hw₃.since.trans hs
    exact .recordUnavailable (case_since hs₂ hlock hcase).1 hactive (hs₂.holds _ hlock)
      (hid.since hs) (hsequence.since hs) htext
  · refine safe_bind
      (safe_insertVerificationCheck fun w₃ id recordedSequence hw₃ hid hsequence htext ↦ ?_)
    refine safe_bind (safe_write (safe_pure ?_))
    intro s hs _
    have hs₂ := hw₃.since.trans hs
    obtain ⟨provider', hprovider', -⟩ := (hw₂.since.trans hs₂).mono.providerType hprovider
    refine .openCase hprovider' (fun c hc hactive ↦ ?_) (hs₂.holds _ hlock) (hcaseId.since hs₂)
      (hid.since hs) (hsequence.since hs) htext
    obtain ⟨c', hc', -, hactive'⟩ :=
      hs₂.keep (.activeCaseOf input.providerId) hlock c hc hactive.1 hactive.2
    exact hnone c' hc' hactive'

/-! ## The decision

The longest walk. The decision of the application is made over the rows the session has locked,
the function of the database reads the same rows, and the comparison at the end cannot fail.
-/

/-- What `finalize_verification_case` has read and written when it returns. -/
structure Finalized (i : ℕ) (w : CredentialView) (caseId providerId : ℕ) (version : String)
    (decidedAt : ℤ) (decidedBy : ℕ) (persisted : PersistedTierDecision) (provider : Provider)
    (c : VerificationCase) (row : CredentialPolicyRow) (freshness : ℤ) : Prop where
  providerHeld : w.shared.holder (.provider providerId) = some i
  providerRead : w.shared.store.provider providerId = some provider
  caseHeld : w.shared.holder (.verificationCase caseId) = some i
  caseRead : w.shared.store.case caseId = some c
  active : c.providerId = providerId ∧ c.status = .reviewRequired
  rowRead : row ∈ w.shared.store.policies
  rowType : row.providerType = provider.providerType
  rowVersion : row.version = version
  validated : validatePolicySql row.policySnapshot decidedAt = .ok freshness
  decided : persisted = sqlDecision row.policySnapshot (w.shared.store.checksOf caseId) decidedAt
    freshness
  written : ∃ events, w.pending = fun db ↦ ((db.updateCase
    (c.withDecision persisted decidedAt decidedBy row)).updateProvider
      (provider.withDecision persisted decidedAt)).insertAudit events

theorem safe_selectActivePolicyForShare {providerType : String}
    {Q : Option CredentialPolicyRow → CredentialView → Prop} (hpending : v.pending = id)
    (hnone : ∀ w, Onward db₀ i v w → w.pending = id → Q none w)
    (hsome : ∀ w row, Onward db₀ i v w → w.pending = id → row ∈ w.shared.store.policies →
      row.providerType = providerType → Q (some row) w) :
    Safe db₀ i r Q (selectActivePolicyForShare providerType) v := by
  refine safe_bind (Discipline.wp_snapshot fun w₁ hw₁ _ ↦ ?_)
  rw [hpending, id]
  cases hrow : w₁.shared.store.activePolicy providerType with
  | none => exact safe_pure (hnone w₁ hw₁ (hw₁.pending.trans hpending))
  | some row =>
    refine safe_bind (Discipline.wp_snapshot fun w₂ hw₂ _ ↦ ?_)
    have hp₂ : w₂.pending = id := hw₂.pending.trans (hw₁.pending.trans hpending)
    have htype : row.providerType = providerType ∧ row.active = true := by
      simpa using List.find?_some hrow
    rw [hw₁.pending, hpending, id]
    cases hnewest : w₂.shared.store.policies.find? fun newest ↦
        newest.providerType = row.providerType && newest.version = row.version && newest.active with
    | none => exact safe_pure (hnone w₂ (hw₁.trans hw₂) hp₂)
    | some newest =>
      refine safe_pure (hsome w₂ newest (hw₁.trans hw₂) hp₂ (List.mem_of_find?_eq_some hnewest) ?_)
      have hsame := List.find?_some hnewest
      simp only [Bool.and_eq_true, decide_eq_true_iff] at hsame
      exact hsame.1.1.trans htype.1

private theorem VerificationCase.withDecision_congr {row row' : CredentialPolicyRow}
    (hversion : row'.version = row.version) (hsnapshot : row'.policySnapshot = row.policySnapshot)
    {c : VerificationCase} {decision : PersistedTierDecision} {decidedAt : ℤ} {decidedBy : ℕ} :
    c.withDecision decision decidedAt decidedBy row' = c.withDecision decision decidedAt
      decidedBy row := by
  rw [withDecision, withDecision, hversion, hsnapshot]

theorem safe_finalizeVerificationCase {timestamp : ℤ} {caseId providerId : ℕ} {version : String}
    {decidedAt : ℤ} {decidedBy : ℕ} {requestId : String}
    {Q : PersistedTierDecision → CredentialView → Prop} (hpending : v.pending = id)
    (h : ∀ w persisted provider c row freshness,
      (credentialDiscipline db₀).Since i v.shared w.shared → CredentialInvariant db₀ w.shared →
      Finalized i w caseId providerId version decidedAt decidedBy persisted provider
        c row freshness →
      Q persisted w) :
    Safe db₀ i r Q
      (finalizeVerificationCase timestamp caseId providerId version decidedAt decidedBy requestId)
        v := by
  refine safe_bind (safe_ensure (by simp [Failure.Ordinary]) fun _ ↦ ?_)
  refine safe_bind (safe_ensure (by simp [Failure.Ordinary]) fun _ ↦ ?_)
  refine safe_bind (Discipline.wp_snapshot fun w₁ hw₁ _ ↦ ?_)
  have hp₁ : w₁.pending = id := hw₁.pending.trans hpending
  refine safe_bind (safe_ensure (by simp [Failure.Ordinary]) fun _ ↦ ?_)
  refine safe_bind (Discipline.wp_selectForUpdate (fun w _ _ ↦ ?_) fun w₂ c hw₂ hlock hcase ↦ ?_)
  · exact safe_throw (by simp [Failure.Ordinary])
  have hp₂ : w₂.pending = id := hw₂.pending.trans hp₁
  rw [hp₁, id] at hcase
  refine safe_bind (safe_ensure (by simp [Failure.Ordinary]) fun hprovider ↦ ?_)
  refine safe_bind (safe_ensure (by simp [Failure.Ordinary]) fun hstatus ↦ ?_)
  refine safe_bind (safe_selectProvider hp₂ (fun _ _ _ ↦ ?_)
    fun w₃ provider hw₃ hp₃ hproviderLock hproviderRow ↦ ?_)
  · exact safe_throw (by simp [Failure.Ordinary])
  refine safe_bind (safe_selectActivePolicyForShare hp₃ (fun _ _ _ ↦ ?_)
    fun w₄ row hw₄ hp₄ hrow hrowType ↦ ?_)
  · exact safe_throw (by simp [Failure.Ordinary])
  refine safe_bind (safe_ensure (by simp [Failure.Ordinary]) fun hversion ↦ ?_)
  refine safe_bind (safe_fromExcept (validatePolicySql_ordinary _ _) fun freshness hvalidate ↦ ?_)
  refine safe_bind (Discipline.wp_snapshot fun w₅ hw₅ _ ↦ ?_)
  rw [hp₄, id]
  refine safe_bind (safe_ensure (by simp [Failure.Ordinary]) fun _ ↦ safe_bind (safe_write ?_))
  refine safe_bind (safe_ensure (by simp [Failure.Ordinary]) fun _ ↦ safe_bind (safe_write ?_))
  refine safe_bind (safe_write ?_)
  have hw₃₅ := hw₄.trans hw₅
  have hw₂₅ := hw₃.trans hw₃₅
  have hp₅ : w₅.pending = id := hw₅.pending.trans hp₄
  obtain ⟨row', hrow', hrowType', hversion', hsnapshot'⟩ := hw₅.since.mono.policy row hrow
  rw [hp₅]
  refine safe_pure (h _ _ provider c row' freshness ((hw₁.trans hw₂).trans hw₂₅).since hw₅.inv ?_)
  exact
    { providerHeld := hw₃₅.since.holds _ hproviderLock
      providerRead := provider_since hw₃₅.since hproviderLock hproviderRow
      caseHeld := hw₂₅.since.holds _ hlock
      caseRead := (case_since hw₂₅.since hlock hcase).1
      active := ⟨hprovider, hstatus.1⟩
      rowRead := hrow'
      rowType := hrowType'.trans hrowType
      rowVersion := hversion'.trans hversion.symm
      validated := hsnapshot' ▸ hvalidate
      decided := hsnapshot' ▸ rfl
      written := ⟨_, by rw [VerificationCase.withDecision_congr hversion' hsnapshot']; rfl⟩ }

theorem decisionMatches_toMicroseconds (decision : PersistedTierDecision) :
    decisionMatches decision.toMicroseconds decision = true := by
  have hexpiry : (decision.tierExpiresAt.map (1000 * ·)).map (· / 1000) =
      decision.tierExpiresAt := by
    rw [Option.map_map]
    refine (Option.map_congr fun t _ ↦ ?_).trans Option.map_id'
    exact Int.mul_ediv_cancel_left t (by decide)
  simp only [decisionMatches, PersistedTierDecision.toMicroseconds, hexpiry, decide_true,
    Bool.and_self]

theorem safe_finalizeCredentialDecisionInTransaction {actor : ActorContext} {providerId caseId : ℕ}
    {at? : Option ℤ} {decisionTime timestamp : ℤ} (hpending : v.pending = id)
    (hat : ∀ t ∈ at?, decisionTime = t) :
    Safe db₀ i (.finalize actor providerId caseId at?)
      (fun _ w ↦ Ready db₀ i (.finalize actor providerId caseId at?) w)
      (finalizeCredentialDecisionInTransaction actor providerId caseId decisionTime timestamp)
        v := by
  refine safe_bind (safe_selectProvider hpending (fun _ _ _ ↦ ?_)
    fun w₁ provider _ hp₁ hproviderLock hprovider ↦ ?_)
  · exact safe_throw (by simp [Failure.Ordinary])
  refine safe_bind (safe_loadActiveCredentialPolicy hp₁ fun w₂ row policy hw₂ hp₂ hpolicy ↦ ?_)
  refine safe_bind (safe_selectActiveCase hp₂ (fun _ _ _ ↦ ?_)
    fun w₃ c hw₃ hp₃ hlock hcase hactive ↦ ?_)
  · exact safe_throw (by simp [Failure.Ordinary])
  refine safe_bind (Discipline.wp_snapshot fun w₄ hw₄ _ ↦ ?_)
  rw [hp₃, id]
  have hsorted :=
    sortBy_perm (fun a b : VerificationCheck ↦ a.recordedSequence - b.recordedSequence)
    (w₄.shared.store.checksOf caseId)
  obtain ⟨decision, hdecide, hdecides⟩ := preflight_decides decisionTime hpolicy.parse
    (hw₄.inv.store.stored_checksOf caseId) hsorted
  rw [hpolicy.policyType] at hdecide
  have hp₄ : w₄.pending = id := hw₄.pending.trans hp₃
  refine safe_bind (Protocol.wp_fromExcept (fun decision' hok ↦ ?_)
    fun e herror ↦ by cases hdecide.symm.trans herror)
  obtain rfl := Except.ok.inj (hdecide.symm.trans hok)
  refine safe_bind (safe_finalizeVerificationCase hp₄
    fun w₅ persisted provider' c' row' freshness hs₄₅ hinv hfinal ↦ ?_)
  -- Both have read the same checks, under the lock on the case, and the same policy.
  have hs₃₅ := hw₄.since.trans hs₄₅
  have hs₂₅ := hw₃.since.trans hs₃₅
  have hchecks : w₅.shared.store.checksOf caseId = w₄.shared.store.checksOf caseId :=
    (case_since hs₄₅ (hw₄.since.holds _ hlock) (case_since hw₄.since hlock hcase).1).2
  obtain ⟨row₅, hpolicy₅, -⟩ := hpolicy.since hs₂₅
  obtain rfl : provider' = provider := Option.some.inj (hfinal.providerRead.symm.trans
    (provider_since (hw₂.since.trans hs₂₅) hproviderLock hprovider))
  obtain rfl : row' = row₅ := hinv.store.policy_eq hfinal.rowRead hpolicy₅.mem
    (hfinal.rowType.trans hpolicy₅.rowType.symm) (hfinal.rowVersion.trans hpolicy₅.version)
  have hpersisted : persisted = decision.toMicroseconds := by
    rw [hfinal.decided, hchecks]
    exact sqlDecision_eq_preflight hpolicy₅.parse hfinal.validated
      (hw₄.inv.store.stored_checksOf caseId) hdecides
  subst hpersisted
  refine safe_bind
    (wp_ensure (fun _ ↦ ?_) fun hnot ↦ absurd (decisionMatches_toMicroseconds _) hnot)
  refine safe_pure ?_
  intro s hs _
  obtain ⟨events, hwritten⟩ := hfinal.written
  obtain ⟨row, hpolicy', hsnapshot⟩ := hpolicy₅.since hs
  have hversion : row.version = row'.version := hpolicy'.version.symm.trans hpolicy₅.version
  rw [hwritten, ← VerificationCase.withDecision_congr hversion hsnapshot]
  obtain ⟨hcase', hchecks'⟩ := case_since hs hfinal.caseHeld hfinal.caseRead
  refine .finalize (provider_since hs hfinal.providerHeld hfinal.providerRead)
    (hs.holds _ hfinal.providerHeld) hcase' hfinal.active (hs.holds _ hfinal.caseHeld) hpolicy'.mem
    hpolicy'.rowType hpolicy'.parse hpolicy'.policyType hat ?_
  rw [hchecks', hchecks]
  exact hdecides

theorem safe_finalizeCredentialDecision {actor : ActorContext} {providerId caseId : ℕ}
    {at? : Option ℤ} (hpending : v.pending = id) :
    Safe db₀ i (.finalize actor providerId caseId at?) (fun _ _ ↦ True)
      (finalizeCredentialDecision actor providerId caseId at?) v := by
  have hrest {decisionTime : ℤ} (hat : ∀ t ∈ at?, decisionTime = t) {w : CredentialView}
      (hp : w.pending = id) : Safe db₀ i (.finalize actor providerId caseId at?) (fun _ _ ↦ True)
        (do
          ensure (actor.actorType = .admin) (.error "Credential tier decisions require ADMIN")
          ensure ("credentials:review" ∈ actor.scopes)
            (.error "Credential tier decisions require credentials:review scope")
          withTransaction fun timestamp ↦ finalizeCredentialDecisionInTransaction actor providerId
            caseId decisionTime timestamp) w := by
    refine safe_bind (safe_ensure (by simp [Failure.Ordinary]) fun _ ↦ ?_)
    refine safe_bind (safe_ensure (by simp [Failure.Ordinary]) fun _ ↦ ?_)
    exact safe_withTransaction hp fun _ _ _ hp' ↦
      safe_finalizeCredentialDecisionInTransaction hp' hat
  cases at? with
  | some decisionTime => exact safe_bind (safe_pure (hrest (by simp) hpending))
  | none =>
    refine safe_bind (safe_bind (Discipline.wp_now fun w hw ↦ safe_pure ?_))
    exact hrest (by simp) (hw.pending.trans hpending)

/-! ## Expiry

The loop over the due providers, by induction on those that are left. What is carried along is the
list of those already degraded (`Degrading`).
-/

/-- What the loop has written so far: the degradation of some rows it holds. -/
structure Degrading (i : ℕ) (timestamp : ℤ) (actorId : ℕ) (requestId : String)
    (rows : List Provider)
    (w : CredentialView) : Prop where
  nodup : (rows.map (·.id)).Nodup
  held : ∀ row ∈ rows, w.shared.store.provider row.id = some row ∧ row.isDue timestamp ∧
    w.shared.holder (.provider row.id) = some i
  written : w.pending = degradeAll timestamp actorId requestId rows

section Expiry

variable {timestamp : ℤ} {actorId : ℕ} {requestId : String} {rows : List Provider}

theorem Degrading.onward (h : Degrading i timestamp actorId requestId rows v)
    (hw : Onward db₀ i v w) : Degrading i timestamp actorId requestId rows w where
  nodup := h.nodup
  held row hrow := by
    obtain ⟨hstored, hdue, hlock⟩ := h.held row hrow
    exact ⟨provider_since hw.since hlock hstored, hdue, hw.since.holds _ hlock⟩
  written := hw.pending.trans h.written

private theorem isDue_degrade {provider : Provider} {t : ℤ} :
    (provider.degrade timestamp).isDue t = false := rfl

/-- One more row, read under its lock and still due. -/
theorem Degrading.concat (h : Degrading i timestamp actorId requestId rows w) {id : ℕ}
    {row : Provider}
    (hlock : w.shared.holder (.provider id) = some i)
    (hrow : (w.pending w.shared.store).provider id = some row) (hdue : row.isDue timestamp) :
    Degrading i timestamp actorId requestId (rows ++ [row])
      { w with pending := Database.insertAudit [degradationAudit row timestamp actorId requestId] ∘
          Database.updateProvider (row.degrade timestamp) ∘ w.pending } := by
  rw [h.written] at hrow
  by_cases hmem : id ∈ rows.map (·.id)
  · obtain ⟨row', hrow', rfl⟩ := List.mem_map.mp hmem
    rw [provider_degradeAll_of_mem h.nodup hrow' (h.held row' hrow').1] at hrow
    obtain rfl := Option.some.inj hrow
    exact absurd (isDue_degrade.symm.trans hdue) nofun
  · rw [provider_degradeAll_of_not_mem hmem] at hrow
    obtain rfl := (Database.mem_of_provider hrow).2
    refine ⟨?_, List.forall_mem_append.mpr ⟨h.held, ?_⟩, ?_⟩
    · rw [List.map_append, List.nodup_append]
      refine ⟨h.nodup, List.nodup_singleton _, fun a ha b hb ↦ ?_⟩
      rw [List.map_singleton, List.mem_singleton] at hb
      rintro rfl
      exact hmem (hb ▸ ha)
    · rintro _ hc
      rw [List.mem_singleton.mp hc]
      exact ⟨hrow, hdue, hlock⟩
    · funext db
      rw [degradeAll, List.foldl_append, List.foldl_cons, List.foldl_nil, ← degradeAll, h.written]
      rfl

theorem safe_degradeRows {n : ℕ} {providers : List Provider}
    (h : Degrading i timestamp actorId requestId rows v) (hinv : CredentialInvariant db₀ v.shared) :
    Safe db₀ i r (fun _ w ↦ ∃ rows, Degrading i timestamp actorId requestId rows w)
      (degradeRows timestamp actorId requestId n providers) v := by
  induction providers generalizing n rows v with
  | nil => cases n <;> exact safe_pure ⟨rows, h⟩
  | cons provider providers ih =>
    cases n with
    | zero => exact safe_pure ⟨rows, h⟩
    | succ n =>
      refine safe_bind (Discipline.wp_tryLock (fun w hw hlock ↦ ?_) fun w hw _ ↦ ?_)
      · have hw' := h.onward hw
        dsimp only
        cases hrow : ((v.pending w.shared.store).provider provider.id).filter
          (·.isDue timestamp) with
        | none => exact ih hw' hw.inv
        | some row =>
          rw [Option.filter_eq_some_iff, ← hw.pending] at hrow
          refine safe_bind (safe_write (safe_bind (safe_write (safe_bind ?_))))
          refine Protocol.wp_mono (fun _ w hw ↦ ?_) (fun _ _ he ↦ he)
            (ih (hw'.concat hlock hrow.1 hrow.2) hw.inv)
          exact safe_pure hw
      · exact ih (h.onward hw) hw.inv

theorem safe_runCredentialRevalidationBatch {adminActorId : ℕ} {batchSize? : Option ℤ}
    (hpending : v.pending = id) :
    Safe db₀ i (.revalidate adminActorId batchSize?) (fun _ _ ↦ True)
      (runCredentialRevalidationBatch adminActorId batchSize?) v := by
  refine safe_bind (safe_ensure (by simp [Failure.Ordinary]) fun _ ↦ ?_)
  refine safe_bind (Discipline.wp_nextval fun w₁ uuid hw₁ _ _ ↦ ?_)
  refine safe_withTransaction (hw₁.pending.trans hpending) fun timestamp w₂ _ hp₂ ↦ ?_
  refine safe_bind (safe_ensure (by simp [Failure.Ordinary]) fun _ ↦ ?_)
  refine safe_bind (safe_ensure (by simp [Failure.Ordinary]) fun _ ↦ ?_)
  refine safe_bind (Discipline.wp_snapshot fun w₃ hw₃ _ ↦ ?_)
  refine safe_bind (safe_ensure (by simp [Failure.Ordinary]) fun _ ↦ ?_)
  refine safe_bind (Discipline.wp_snapshot fun w₄ hw₄ _ ↦ ?_)
  have hnone : Degrading i timestamp adminActorId
      ("worker:credential-revalidation:" ++ uuidText uuid) [] w₄ :=
    ⟨List.nodup_nil, by simp, (hw₄.pending.trans hw₃.pending).trans hp₂⟩
  refine Protocol.wp_mono (fun _ w hw ↦ ?_) (fun _ _ he ↦ he)
    (safe_degradeRows hnone hw₄.inv)
  intro s hs _
  obtain ⟨rows, hrows⟩ := hw
  rw [hrows.written]
  refine .revalidate hrows.nodup fun row hrow ↦ ?_
  obtain ⟨hstored, hdue, hlock⟩ := hrows.held row hrow
  exact ⟨provider_since hs hlock hstored, hdue, hs.holds _ hlock⟩

end Expiry

/-! ## The owner of the policies

The loop over the changes of one transaction, with the versions inserted so far.
-/

/-- The changes made so far, under their locks, keep the primary key. -/
structure Changing (i : ℕ) (changes : List PolicyChange) (w : CredentialView) : Prop where
  held : ∀ change ∈ changes, w.shared.holder (.policiesOf change.providerType) = some i
  versions : ∀ providerType,
    (((applyPolicyChanges changes w.shared.store).policiesOf providerType).map (·.version)).Nodup
  written : w.pending = applyPolicyChanges changes

section Policies

variable {changes : List PolicyChange}

private theorem versions_since {s s' : Shared Database LockKey CredentialRequest}
    (hs : (credentialDiscipline db₀).Since i s s') (hinv : CredentialInvariant db₀ s')
    (hheld : ∀ change ∈ changes, s.holder (.policiesOf change.providerType) = some i)
    (hversions : ∀ providerType,
      (((applyPolicyChanges changes s.store).policiesOf providerType).map (·.version)).Nodup)
    (providerType : String) :
    (((applyPolicyChanges changes s'.store).policiesOf providerType).map (·.version)).Nodup := by
  by_cases hchanged : ∃ change ∈ changes, change.providerType = providerType
  · obtain ⟨change, hchange, rfl⟩ := hchanged
    have hkept : s'.store.policiesOf change.providerType = s.store.policiesOf change.providerType :=
      hs.keep (.policiesOf change.providerType) (hheld change hchange)
    rw [policiesOf_applyPolicyChanges hkept]
    exact hversions _
  · rw [policiesOf_applyPolicyChanges_of_ne fun change hc he ↦ hchanged ⟨change, hc, he⟩]
    exact hinv.store.policy_versions providerType

theorem Changing.onward (h : Changing i changes v) (hw : Onward db₀ i v w) :
    Changing i changes w where
  held change hc := hw.since.holds _ (h.held change hc)
  versions := versions_since hw.since hw.inv h.held h.versions
  written := hw.pending.trans h.written

theorem safe_changePolicies {rest : List PolicyChange} (h : Changing i changes v) :
    Safe db₀ i r (fun _ w ↦ Changing i (changes ++ rest) w) (changePolicies rest) v := by
  induction rest generalizing changes v with
  | nil => exact safe_pure (by rwa [List.append_nil])
  | cons change rest ih =>
    refine safe_bind (Discipline.wp_lock fun w hw hlock ↦ ?_)
    refine safe_bind (safe_ensure (by simp [Failure.Ordinary]) fun hadmissible ↦ ?_)
    refine safe_bind (safe_write ?_)
    have hw' := h.onward hw
    have hlast (db : Database) :
        applyPolicyChanges (changes ++ [change]) db = change.apply
          (applyPolicyChanges changes db) := by
      rw [applyPolicyChanges, List.foldl_append, List.foldl_cons, List.foldl_nil,
        ← applyPolicyChanges]
    rw [List.append_cons]
    refine ih ⟨List.forall_mem_append.mpr ⟨hw'.held, by simpa using hlock⟩,
      fun providerType ↦ ?_, ?_⟩
    · rw [hlast]
      rw [h.written] at hadmissible
      exact versions_apply hadmissible (hw'.versions providerType)
    · funext db
      rw [hlast, hw'.written]
      rfl

end Policies

/-! ## Requests -/

/-- A lock that is only held and given up leaves nothing behind. -/
theorem safe_holdLocks {keys : List LockKey} :
    Safe db₀ i r (fun _ _ ↦ True) (holdLocks keys) v := by
  induction keys generalizing v with
  | nil => exact Protocol.wp_rollback fun _ _ ↦ trivial
  | cons key keys ih => exact safe_bind (Discipline.wp_lock fun w _ _ ↦ ih)

/-- **Every credential request keeps to the discipline and fails only ordinarily.** -/
theorem safe_credentialProgram (hpending : v.pending = id) :
    Safe db₀ i r (fun _ _ ↦ True) (credentialProgram r) v := by
  have hdone {β : Type} {p : Tx β} {response : β → CredentialResponse}
      (h : Safe db₀ i r (fun _ _ ↦ True) p v) :
      Safe db₀ i r (fun _ _ ↦ True) (p >>= fun b ↦ pure (response b)) v :=
    safe_bind (Protocol.wp_mono (fun _ _ _ ↦ safe_pure trivial) (fun _ _ he ↦ he) h)
  cases r with
  | recordManual actor input => exact hdone (safe_recordManualCredentialCheck hpending)
  | recordUnavailable actor input =>
    exact hdone (safe_withTransaction hpending fun _ _ _ hp ↦ safe_recordUnavailableSourceCheck hp)
  | finalize actor providerId caseId at? => exact hdone (safe_finalizeCredentialDecision hpending)
  | revalidate adminActorId batchSize? => exact hdone (safe_runCredentialRevalidationBatch hpending)
  | changePolicies changes =>
    refine hdone (safe_withTransaction hpending fun _ w hw hp ↦ ?_)
    have hstart : Changing i [] w := ⟨by simp, hw.inv.store.policy_versions, hp⟩
    refine Protocol.wp_mono (fun _ w hchanging s hs hinv ↦ ?_) (fun _ _ he ↦ he)
      (safe_changePolicies hstart)
    rw [hchanging.written]
    exact .changePolicies (fun change hc ↦ hs.holds _ (hchanging.held change hc))
      (versions_since hs hinv hchanging.held hchanging.versions)
  | hold keys => exact hdone safe_holdLocks

end Nayasetu
