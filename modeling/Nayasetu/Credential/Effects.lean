import Nayasetu.Credential.StoreInvariant

/-!
# What credential commits do

The effects of the credential operations on the store, with what the committing session knows when
it commits: the rows it has locked, the numbers it has drawn and the policy it went by.

An effect is a list of writes that one transaction makes together, so no state between them is
ever seen by another session. The premises of its constructors are all that the proofs below know
about the transaction, and all that the walk through it has to provide.
-/

namespace Nayasetu

open Values RowLock Collections

/-- Session `i` drew the number, and no row has it. -/
structure Drawn (s : Shared Database LockKey CredentialRequest) (i n : ℕ) : Prop where
  minted : s.minted[n]? = some (some i)
  unused : s.store.Unused n

/-- No text of the check contains a `NUL`. -/
def VerificationCheck.TextOk (check : VerificationCheck) : Prop :=
  '\x00' ∉ check.checkType.toList ∧ '\x00' ∉ check.sourceId.toList

def AuditEvent.policyVersion (event : AuditEvent) : Option String :=
  event.afterSummary.bind (·.textAt "policyVersion")

/-- The store a commit of session `i` leaves, by request. -/
inductive Effect (i : ℕ) (s : Shared Database LockKey CredentialRequest) :
    CredentialRequest → Database → Prop where
  /-- A review of an active case, permitted by the policy of the provider's type that its audit
  event names. -/
  | recordManual {actor : ActorContext} {input : ManualCredentialCheckInput} {reviewedAt : ℤ}
      {id recordedSequence : ℕ} {provider : Provider} {row : CredentialPolicyRow}
      {policy : CredentialTierPolicy} {c : VerificationCase} {event : AuditEvent}
      (hprovider : s.store.provider input.providerId = some provider)
      (hrow : row ∈ s.store.policies) (htype : row.providerType = provider.providerType)
      (hparse : parseCredentialTierPolicy row.policySnapshot = .ok policy)
      (hpermits : policy.PermitsManualReview input.checkType input.sourceId)
      (hcase : s.store.case input.verificationCaseId = some c)
      (hactive : c.providerId = input.providerId ∧ c.status = .reviewRequired)
      (hlock : s.holder (.verificationCase input.verificationCaseId) = some i)
      (hid : Drawn s i id) (hsequence : Drawn s i recordedSequence)
      (htext : (input.row reviewedAt id recordedSequence).TextOk)
      (hversion : event.policyVersion = some row.version) :
      Effect i s (.recordManual actor input)
        ((s.store.insertCheck (input.row reviewedAt id recordedSequence)).insertAudit [event])
  /-- A failed fetch, recorded in an active case. -/
  | recordUnavailable {actor : ActorContext} {input : RecordUnavailableSourceInput} {timestamp : ℤ}
      {caseId id recordedSequence : ℕ} {c : VerificationCase} {events : List AuditEvent}
      (hcase : s.store.case caseId = some c)
      (hactive : c.providerId = input.providerId ∧ c.status = .reviewRequired)
      (hlock : s.holder (.verificationCase caseId) = some i)
      (hid : Drawn s i id) (hsequence : Drawn s i recordedSequence)
      (htext : (input.row timestamp caseId id recordedSequence).TextOk) :
      Effect i s (.recordUnavailable actor input)
        ((s.store.insertCheck (input.row timestamp caseId id recordedSequence)).insertAudit events)
  /-- A failed fetch, recorded in a new case. -/
  | openCase {actor : ActorContext} {input : RecordUnavailableSourceInput} {timestamp : ℤ}
      {caseId id recordedSequence : ℕ} {provider : Provider} {events : List AuditEvent}
      (hprovider : s.store.provider input.providerId = some provider)
      (hnone : ∀ c ∈ s.store.cases,
        ¬ (c.providerId = input.providerId ∧ c.status = .reviewRequired))
      (hlock : s.holder (.activeCaseOf input.providerId) = some i)
      (hcaseId : Drawn s i caseId) (hid : Drawn s i id) (hsequence : Drawn s i recordedSequence)
      (htext : (input.row timestamp caseId id recordedSequence).TextOk) :
      Effect i s (.recordUnavailable actor input)
        (((s.store.insertCase (reviewRequiredCase input.providerId timestamp caseId)).insertCheck
          (input.row timestamp caseId id recordedSequence)).insertAudit events)
  /-- The decision of an active case. -/
  | finalize {actor : ActorContext} {providerId caseId : ℕ} {at? : Option ℤ} {provider : Provider}
      {c : VerificationCase} {row : CredentialPolicyRow} {policy : CredentialTierPolicy} {now : ℤ}
      {decision : PersistedTierDecision} {events : List AuditEvent}
      (hprovider : s.store.provider providerId = some provider)
      (hproviderLock : s.holder (.provider providerId) = some i)
      (hcase : s.store.case caseId = some c)
      (hactive : c.providerId = providerId ∧ c.status = .reviewRequired)
      (hlock : s.holder (.verificationCase caseId) = some i)
      (hrow : row ∈ s.store.policies) (htype : row.providerType = provider.providerType)
      (hparse : parseCredentialTierPolicy row.policySnapshot = .ok policy)
      (hpolicyType : policy.providerType = provider.providerType)
      (hat : ∀ t ∈ at?, now = t)
      (hdecides : Decides policy ((s.store.checksOf caseId).map (·.toRecorded)) now decision) :
      Effect i s (.finalize actor providerId caseId at?)
        (((s.store.updateCase
            (c.withDecision decision.toMicroseconds (1000 * now) actor.actorId row)).updateProvider
          (provider.withDecision decision.toMicroseconds (1000 * now))).insertAudit events)
  /-- The degradation of some due providers. -/
  | revalidate {adminActorId : ℕ} {batchSize? : Option ℤ} {timestamp : ℤ} {requestId : String}
      {rows : List Provider} (hnodup : (rows.map (·.id)).Nodup)
      (hrows : ∀ row ∈ rows, s.store.provider row.id = some row ∧ row.isDue timestamp ∧
        s.holder (.provider row.id) = some i) :
      Effect i s (.revalidate adminActorId batchSize?)
        (degradeAll timestamp adminActorId requestId rows s.store)
  /-- Changes of the policy registry that keep its primary key. -/
  | changePolicies {changes : List PolicyChange}
      (hlock : ∀ change ∈ changes, s.holder (.policiesOf change.providerType) = some i)
      (hversions : ∀ providerType,
        (((applyPolicyChanges changes s.store).policiesOf providerType).map (·.version)).Nodup) :
      Effect i s (.changePolicies changes) (applyPolicyChanges changes s.store)

/-! ## Nothing settled is taken back

First each write by itself, then each effect as the writes it consists of.
-/

section Grows

variable {db : Database}

theorem grows_insertAudit (events : List AuditEvent) : Grows db (db.insertAudit events) where
  provider _ := rfl
  case _ c h := ⟨c, h, rfl⟩
  decided _ _ h _ := ⟨h, rfl⟩
  checks := List.prefix_refl _
  policy row h := ⟨row, h, rfl, rfl, rfl⟩

theorem grows_insertCheck {row : VerificationCheck}
    (h : ∀ c, db.case row.caseId = some c → c.status ≠ .decided) :
    Grows db (db.insertCheck row) where
  provider _ := rfl
  case _ c hc := ⟨c, hc, rfl⟩
  decided id c hc hd := by
    refine ⟨hc, db.checksOf_insertCheck_of_ne id ?_⟩
    rintro rfl
    exact h c hc hd
  checks := List.prefix_append _ _
  policy row h := ⟨row, h, rfl, rfl, rfl⟩

theorem grows_insertCase (row : VerificationCase) : Grows db (db.insertCase row) where
  provider _ := rfl
  case id c hc := ⟨c, by rw [db.case_insertCase, hc, Option.some_or], rfl⟩
  decided id c hc _ := ⟨by rw [db.case_insertCase, hc, Option.some_or], rfl⟩
  checks := List.prefix_refl _
  policy row h := ⟨row, h, rfl, rfl, rfl⟩

theorem grows_updateCase {c row : VerificationCase} (hc : db.case row.id = some c)
    (hactive : c.status ≠ .decided) (hprovider : row.providerId = c.providerId) :
    Grows db (db.updateCase row) where
  provider _ := rfl
  case id c' hc' := by
    rw [db.case_updateCase]
    split
    next hid =>
      subst hid
      obtain rfl := Option.some.inj (hc'.symm.trans hc)
      exact ⟨row, by rw [hc', Option.map_some], hprovider⟩
    next => exact ⟨c', hc', rfl⟩
  decided id c' hc' hd := by
    refine ⟨?_, rfl⟩
    rw [db.case_updateCase, if_neg, hc']
    rintro rfl
    obtain rfl := Option.some.inj (hc'.symm.trans hc)
    exact hactive hd
  checks := List.prefix_refl _
  policy row h := ⟨row, h, rfl, rfl, rfl⟩

theorem grows_updateProvider {provider row : Provider} (hp : db.provider row.id = some provider)
    (hsame : row.userId = provider.userId ∧ row.providerType = provider.providerType) :
    Grows db (db.updateProvider row) where
  provider id := by
    rw [db.provider_updateProvider]
    split
    next hid => rw [hid, hp, Option.map_some, Option.map_some, Option.map_some, hsame.1, hsame.2]
    next => rfl
  case _ c h := ⟨c, h, rfl⟩
  decided _ _ h _ := ⟨h, rfl⟩
  checks := List.prefix_refl _
  policy row h := ⟨row, h, rfl, rfl, rfl⟩

theorem grows_degradeAll {timestamp : ℤ} {actorId : ℕ} {requestId : String} {rows : List Provider}
    (hnodup : (rows.map (·.id)).Nodup) (hrows : ∀ row ∈ rows, db.provider row.id = some row) :
    Grows db (degradeAll timestamp actorId requestId rows db) := by
  induction rows generalizing db with
  | nil => exact .refl db
  | cons row rows ih =>
    rw [List.map_cons, List.nodup_cons] at hnodup
    rw [List.forall_mem_cons] at hrows
    have hrow : Grows db (db.updateProvider (row.degrade timestamp)) :=
      grows_updateProvider hrows.1 ⟨rfl, rfl⟩
    refine (hrow.trans (grows_insertAudit _)).trans (ih hnodup.2 fun other hother ↦ ?_)
    rw [Database.provider_insertAudit, Database.provider_updateProvider]
    refine (if_neg fun he ↦ hnodup.1 ?_).trans (hrows.2 other hother)
    exact he ▸ List.mem_map_of_mem hother

theorem grows_applyPolicyChanges (changes : List PolicyChange) :
    Grows db (applyPolicyChanges changes db) := by
  obtain ⟨hproviders, hcases, hchecks⟩ := applyPolicyChanges_tables changes db
  refine
    { provider := fun id ↦ by rw [Database.provider, hproviders, ← Database.provider]
      case := fun id c h ↦ ⟨c, by rw [Database.case, hcases, ← Database.case, h], rfl⟩
      decided := fun id c h _ ↦ ⟨by rw [Database.case, hcases, ← Database.case, h],
        by rw [Database.checksOf, hchecks, ← Database.checksOf]⟩
      checks := hchecks ▸ List.prefix_refl _
      policy := fun row h ↦ mem_policies_applyPolicyChanges h }

end Grows

section Effects

variable {i : ℕ} {s : Shared Database LockKey CredentialRequest} {r : CredentialRequest}
  {db : Database}

private theorem case_none_of_drawn {n : ℕ} (h : Drawn s i n) : s.store.case n = none :=
  lookupBy_eq_none_iff.mpr fun c hc ↦ h.unused.case c hc

private theorem case_insertCase_self {db : Database} {row : VerificationCase}
    (h : db.case row.id = none) : (db.insertCase row).case row.id = some row := by
  rw [Database.case_insertCase, h, Option.none_or, if_pos rfl]

theorem Effect.grows (h : Effect i s r db) : Grows s.store db := by
  cases h with
  | recordManual _ _ _ _ _ hcase hactive =>
    refine (grows_insertCheck fun c hc ↦ ?_).trans (grows_insertAudit _)
    obtain rfl := Option.some.inj (hc.symm.trans hcase)
    rw [hactive.2]
    exact nofun
  | recordUnavailable hcase hactive =>
    refine (grows_insertCheck fun c hc ↦ ?_).trans (grows_insertAudit _)
    obtain rfl := Option.some.inj (hc.symm.trans hcase)
    rw [hactive.2]
    exact nofun
  | openCase _ _ _ hcaseId =>
    refine ((grows_insertCase _).trans (grows_insertCheck fun c hc ↦ ?_)).trans
      (grows_insertAudit _)
    obtain rfl :=
      Option.some.inj (hc.symm.trans (case_insertCase_self (case_none_of_drawn hcaseId)))
    exact nofun
  | @finalize actor providerId caseId at? provider c row policy now decision events
      hprovider _ hcase
      hactive =>
    obtain rfl := (Database.mem_of_case hcase).2
    obtain rfl := (Database.mem_of_provider hprovider).2
    have hundecided : c.status ≠ .decided := by
      rw [hactive.2]
      exact nofun
    have hcases : Grows s.store (s.store.updateCase
        (c.withDecision decision.toMicroseconds (1000 * now) actor.actorId row)) :=
      grows_updateCase hcase hundecided rfl
    refine (hcases.trans ?_).trans (grows_insertAudit _)
    exact grows_updateProvider hprovider ⟨rfl, rfl⟩
  | revalidate hnodup hrows => exact grows_degradeAll hnodup fun row hrow ↦ (hrows row hrow).1
  | changePolicies => exact grows_applyPolicyChanges _

end Effects

/-! ## The invariant is kept

The two operations that add a check have the same argument: the case is open and locked, the
number of the new check is new, and the other rows are as before.
-/

theorem StoredChecks.sublist {checks checks' : List VerificationCheck} (h : StoredChecks checks)
    (hsub : checks'.Sublist checks) : StoredChecks checks' where
  sequence := h.sequence.sublist (hsub.map _)
  checkType check hc := h.checkType check (hsub.subset hc)
  sourceId check hc := h.sourceId check (hsub.subset hc)
  checkedAt check hc := h.checkedAt check (hsub.subset hc)
  validUntil check hc := h.validUntil check (hsub.subset hc)

theorem StoredChecks.concat {checks : List VerificationCheck} {row : VerificationCheck}
    (h : StoredChecks checks)
    (hsequence : ∀ check ∈ checks, check.recordedSequence ≠ row.recordedSequence)
    (htext : row.TextOk) (hdate : row.sourceMode = .live → row.checkedAt % 1000 = 0)
    (hvalid : row.sourceMode = .live → ∀ validUntil ∈ row.validUntil, validUntil % 1000 = 0) :
    StoredChecks (checks ++ [row]) where
  sequence := by
    rw [List.map_append, List.nodup_append]
    refine ⟨h.sequence, List.nodup_singleton _, fun a ha b hb ↦ ?_⟩
    obtain ⟨check, hcheck, rfl⟩ := List.mem_map.mp ha
    rw [List.map_singleton, List.mem_singleton] at hb
    exact hb ▸ hsequence check hcheck
  checkType := List.forall_mem_append.mpr ⟨h.checkType, by simpa using htext.1⟩
  sourceId := List.forall_mem_append.mpr ⟨h.sourceId, by simpa using htext.2⟩
  checkedAt := List.forall_mem_append.mpr ⟨h.checkedAt, by simpa using hdate⟩
  validUntil := List.forall_mem_append.mpr ⟨h.validUntil, by simpa using hvalid⟩

namespace StoreInvariant

variable {db db' : Database}

theorem case_eq (h : StoreInvariant db) {c : VerificationCase} (hc : c ∈ db.cases) :
    db.case c.id = some c := (lookupBy_eq_some_iff h.case_ids).mpr ⟨hc, rfl⟩

theorem provider_eq (h : StoreInvariant db) {provider : Provider} (hp : provider ∈ db.providers) :
    db.provider provider.id = some provider := (lookupBy_eq_some_iff h.provider_ids).mpr ⟨hp, rfl⟩

/-- Two policies of a type with the same version are the same. -/
theorem policy_eq (h : StoreInvariant db) {row row' : CredentialPolicyRow}
    (hrow : row ∈ db.policies)
    (hrow' : row' ∈ db.policies) (htype : row.providerType = row'.providerType)
    (hversion : row.version = row'.version) : row = row' := by
  refine List.inj_on_of_nodup_map (h.policy_versions row.providerType) ?_ ?_ hversion
  · exact List.mem_filter.mpr ⟨hrow, by simp⟩
  · exact List.mem_filter.mpr ⟨hrow', by simp [htype]⟩

theorem stored_checksOf (h : StoreInvariant db) (id : ℕ) : StoredChecks (db.checksOf id) :=
  h.checks.sublist List.filter_sublist

private theorem decided_of_grows (h : StoreInvariant db) (hg : Grows db db') {c : VerificationCase}
    (hc : c ∈ db.cases) (hd : c.status = .decided) :
    ∃ policy now decision, DecidedAs db' c policy now decision := by
  obtain ⟨policy, now, decision, hdecided⟩ := h.decided c hc hd
  obtain ⟨provider, hprovider, htype⟩ := hdecided.provider
  obtain ⟨provider', hprovider', -, htype'⟩ := hg.providerType hprovider
  have hchecks := (hg.decided c.id c (h.case_eq hc) hd).2
  exact ⟨policy, now, decision,
    { hdecided with
      provider := ⟨provider', hprovider', htype'.trans htype⟩
      decides := hchecks ▸ hdecided.decides }⟩

private theorem provider_of_grows (h : StoreInvariant db) (hg : Grows db db') {c : VerificationCase}
    (hc : c ∈ db.cases) : ∃ provider, db'.provider c.providerId = some provider := by
  obtain ⟨provider, hprovider⟩ := h.case_provider c hc
  obtain ⟨provider', hprovider', -⟩ := hg.providerType hprovider
  exact ⟨provider', hprovider'⟩

/-- Nothing but providers, checks, policies and audit rows has changed. -/
private theorem of_cases (h : StoreInvariant db) (hg : Grows db db') (hcases : db'.cases = db.cases)
    (hproviders : (db'.providers.map (·.id)).Nodup) (hchecks : StoredChecks db'.checks)
    (hversions : ∀ providerType, ((db'.policiesOf providerType).map (·.version)).Nodup) :
    StoreInvariant db' where
  provider_ids := hproviders
  case_ids := hcases ▸ h.case_ids
  case_provider _ hc := h.provider_of_grows hg (hcases ▸ hc)
  one_active := hcases ▸ h.one_active
  undecided := hcases ▸ h.undecided
  checks := hchecks
  policy_versions := hversions
  decided _ hc hd := h.decided_of_grows hg (hcases ▸ hc) hd

theorem insertAudit (h : StoreInvariant db) (events : List AuditEvent) :
    StoreInvariant (db.insertAudit events) :=
  h.of_cases (grows_insertAudit events) rfl h.provider_ids h.checks h.policy_versions

private theorem insertCheck (h : StoreInvariant db) {row : VerificationCheck}
    (hcase : ∀ c, db.case row.caseId = some c → c.status ≠ .decided)
    (hchecks : StoredChecks (db.checks ++ [row])) : StoreInvariant (db.insertCheck row) :=
  h.of_cases (grows_insertCheck hcase) rfl h.provider_ids hchecks h.policy_versions

private theorem insertCase (h : StoreInvariant db) {row : VerificationCase} {provider : Provider}
    (hid : ∀ c ∈ db.cases, c.id ≠ row.id) (hstatus : row.status = .reviewRequired)
    (hshape : row.decidedAt = none ∧ row.tierOutcome = none)
    (hprovider : db.provider row.providerId = some provider)
    (hnone : ∀ c ∈ db.cases, ¬ (c.providerId = row.providerId ∧ c.status = .reviewRequired)) :
    StoreInvariant (db.insertCase row) where
  provider_ids := h.provider_ids
  case_ids := by
    rw [Database.insertCase, List.map_append, List.nodup_append]
    refine ⟨h.case_ids, List.nodup_singleton _, fun a ha b hb ↦ ?_⟩
    obtain ⟨c, hc, rfl⟩ := List.mem_map.mp ha
    rw [List.map_singleton, List.mem_singleton] at hb
    exact hb ▸ hid c hc
  case_provider := List.forall_mem_append.mpr
    ⟨h.case_provider, by simpa using (⟨provider, hprovider⟩ : ∃ p,
      db.provider row.providerId = some p)⟩
  one_active c hc c' hc' hp hs hs' := by
    rcases List.mem_append.mp hc with hold | hnew <;>
      rcases List.mem_append.mp hc' with hold' | hnew'
    · exact h.one_active c hold c' hold' hp hs hs'
    · exact absurd ⟨List.mem_singleton.mp hnew' ▸ hp, hs⟩ (hnone c hold)
    · exact absurd ⟨List.mem_singleton.mp hnew ▸ hp.symm, hs'⟩ (hnone c' hold')
    · rw [List.mem_singleton.mp hnew, List.mem_singleton.mp hnew']
  undecided := List.forall_mem_append.mpr ⟨h.undecided, by simpa using fun _ ↦ hshape⟩
  checks := h.checks
  policy_versions := h.policy_versions
  decided c hc hd := by
    rcases List.mem_append.mp hc with hc | hc
    · exact h.decided_of_grows (grows_insertCase row) hc hd
    · obtain rfl := List.mem_singleton.mp hc
      exact absurd (hstatus.symm.trans hd) nofun

private theorem updateCase (h : StoreInvariant db) {c row : VerificationCase}
    (hc : db.case row.id = some c) (hactive : c.status = .reviewRequired)
    (hprovider : row.providerId = c.providerId) (hstatus : row.status = .decided)
    (hdecided : ∃ policy now decision, DecidedAs (db.updateCase row) row policy now decision) :
    StoreInvariant (db.updateCase row) where
  provider_ids := h.provider_ids
  case_ids := by rw [Database.updateCase, map_key_replaceBy]; exact h.case_ids
  case_provider c' hc' := by
    rcases mem_replaceBy hc' with rfl | ⟨hc', -⟩
    · exact hprovider ▸ h.case_provider c (Database.mem_of_case hc).1
    · exact h.case_provider c' hc'
  one_active a ha b hb hp hs hs' := by
    rcases mem_replaceBy ha with rfl | ⟨ha, -⟩
    · exact absurd (hstatus.symm.trans hs) nofun
    · rcases mem_replaceBy hb with rfl | ⟨hb, -⟩
      · exact absurd (hstatus.symm.trans hs') nofun
      · exact h.one_active a ha b hb hp hs hs'
  undecided a ha hs := by
    rcases mem_replaceBy ha with rfl | ⟨ha, -⟩
    · exact absurd (hstatus.symm.trans hs) nofun
    · exact h.undecided a ha hs
  checks := h.checks
  policy_versions := h.policy_versions
  decided a ha hd := by
    rcases mem_replaceBy ha with rfl | ⟨ha, -⟩
    · exact hdecided
    · exact h.decided_of_grows (grows_updateCase hc (by rw [hactive]; exact nofun) hprovider) ha hd

private theorem updateProvider (h : StoreInvariant db) {provider row : Provider}
    (hp : db.provider row.id = some provider)
    (hsame : row.userId = provider.userId ∧ row.providerType = provider.providerType) :
    StoreInvariant (db.updateProvider row) :=
  h.of_cases (grows_updateProvider hp hsame) rfl
    (by rw [Database.updateProvider, map_key_replaceBy]; exact h.provider_ids) h.checks
    h.policy_versions

end StoreInvariant

section Effects

variable {i : ℕ} {s : Shared Database LockKey CredentialRequest} {r : CredentialRequest}
  {db : Database}

private theorem storedChecks_concat_manual (h : StoreInvariant s.store)
    {input : ManualCredentialCheckInput} {reviewedAt : ℤ} {id recordedSequence : ℕ}
    (hsequence : Drawn s i recordedSequence)
    (htext : (input.row reviewedAt id recordedSequence).TextOk) :
    StoredChecks (s.store.checks ++ [input.row reviewedAt id recordedSequence]) := by
  refine h.checks.concat (fun check hc ↦ (hsequence.unused.check check hc).2) htext (fun _ ↦ ?_)
    fun _ validUntil hv ↦ ?_
  · exact Int.mul_emod_right 1000 reviewedAt
  · obtain ⟨v, -, rfl⟩ := Option.map_eq_some_iff.mp (Option.mem_def.mp hv)
    exact Int.mul_emod_right 1000 v

private theorem storedChecks_concat_unavailable {checks : List VerificationCheck}
    (h : StoredChecks checks) {input : RecordUnavailableSourceInput} {timestamp : ℤ}
    {caseId id recordedSequence : ℕ}
    (hsequence : ∀ check ∈ checks, check.recordedSequence ≠ recordedSequence)
    (htext : (input.row timestamp caseId id recordedSequence).TextOk) :
    StoredChecks (checks ++ [input.row timestamp caseId id recordedSequence]) := by
  have hmode : (input.row timestamp caseId id recordedSequence).sourceMode ≠ .live := by
    rw [RecordUnavailableSourceInput.row]
    cases input.isMock <;> exact nofun
  exact h.concat hsequence htext (absurd · hmode) (absurd · hmode)

/-- **Every effect keeps the invariant of the store.** -/
theorem Effect.storeInvariant (hinv : StoreInvariant s.store) (h : Effect i s r db) :
    StoreInvariant db := by
  have hactive_ne {c : VerificationCase} (hs : c.status = .reviewRequired) :
      c.status ≠ .decided := by
    rw [hs]
    exact nofun
  cases h with
  | recordManual _ _ _ _ _ hcase hactive _ hid hsequence htext =>
    refine (hinv.insertCheck (fun c hc ↦ ?_) ?_).insertAudit _
    · obtain rfl := Option.some.inj (hc.symm.trans hcase)
      exact hactive_ne hactive.2
    · exact storedChecks_concat_manual hinv hsequence htext
  | recordUnavailable hcase hactive _ hid hsequence htext =>
    refine (hinv.insertCheck (fun c hc ↦ ?_) ?_).insertAudit _
    · obtain rfl := Option.some.inj (hc.symm.trans hcase)
      exact hactive_ne hactive.2
    · exact storedChecks_concat_unavailable hinv.checks
        (fun check hc ↦ (hsequence.unused.check check hc).2) htext
  | @openCase actor input timestamp caseId _ _ _ _ hprovider hnone _ hcaseId hid hsequence htext =>
    have hcases : StoreInvariant
        (s.store.insertCase (reviewRequiredCase input.providerId timestamp caseId)) :=
      hinv.insertCase (fun c hc ↦ hcaseId.unused.case c hc) rfl ⟨rfl, rfl⟩ hprovider hnone
    refine (hcases.insertCheck (fun c hc ↦ ?_) ?_).insertAudit _
    · obtain rfl :=
        Option.some.inj (hc.symm.trans (case_insertCase_self (case_none_of_drawn hcaseId)))
      exact nofun
    · exact storedChecks_concat_unavailable hinv.checks
        (fun check hc ↦ (hsequence.unused.check check hc).2) htext
  | @finalize actor providerId caseId at? provider c row policy now decision events
      hprovider _ hcase
      hactive _ _ _ hparse hpolicyType _ hdecides =>
    obtain rfl := (Database.mem_of_case hcase).2
    obtain rfl := (Database.mem_of_provider hprovider).2
    set decided := c.withDecision decision.toMicroseconds (1000 * now) actor.actorId row with hset
    -- the decided row is the one its checks call for
    have hcases : StoreInvariant (s.store.updateCase decided) := by
      refine hinv.updateCase (c := c) hcase hactive.2 rfl rfl ⟨policy, now, decision, ?_⟩
      exact
        { provider := ⟨provider, hactive.1 ▸ hprovider, hpolicyType.symm⟩
          decidedAt := rfl
          snapshot := ⟨_, rfl, hparse⟩
          decides := hdecides
          outcome := rfl
          reasons := rfl
          expiry := rfl }
    have hproviders : StoreInvariant ((s.store.updateCase decided).updateProvider
        (provider.withDecision decision.toMicroseconds (1000 * now))) :=
      hcases.updateProvider hprovider ⟨rfl, rfl⟩
    exact hproviders.insertAudit events
  | @revalidate _ _ timestamp requestId rows hnodup hrows =>
    obtain ⟨hcases, hchecks, hpolicies, hids⟩ := degradeAll_tables rows s.store
    refine hinv.of_cases (grows_degradeAll hnodup fun row hrow ↦ (hrows row hrow).1) hcases
      (hids ▸ hinv.provider_ids) (hchecks ▸ hinv.checks) fun providerType ↦ ?_
    rw [Database.policiesOf, hpolicies]
    exact hinv.policy_versions providerType
  | changePolicies hlock hversions =>
    obtain ⟨hproviders, hcases, hchecks⟩ := applyPolicyChanges_tables _ s.store
    exact hinv.of_cases (grows_applyPolicyChanges _) hcases (hproviders ▸ hinv.provider_ids)
      (hchecks ▸ hinv.checks) hversions

end Effects

/-! ## The locks of others are respected

A row that an effect changes is one its session has locked, so what another session has locked is
left as it was.
-/

section Locks

variable {db : Database} {key : LockKey}

private theorem protects_insertAudit (events : List AuditEvent) :
    key.Protects db (db.insertAudit events) := by
  cases key with
  | provider id => rfl
  | verificationCase id => exact fun c h ↦ ⟨h, rfl⟩
  | activeCaseOf providerId => exact fun c h hp hs ↦ ⟨c, h, rfl, hp, hs⟩
  | policiesOf providerType => rfl
  | _ => exact trivial

private theorem protects_insertCheck {row : VerificationCheck}
    (h : key ≠ .verificationCase row.caseId) : key.Protects db (db.insertCheck row) := by
  cases key with
  | provider id => rfl
  | verificationCase id =>
    refine fun c hc ↦ ⟨hc, db.checksOf_insertCheck_of_ne id ?_⟩
    rintro rfl
    exact h rfl
  | activeCaseOf providerId => exact fun c h hp hs ↦ ⟨c, h, rfl, hp, hs⟩
  | policiesOf providerType => rfl
  | _ => exact trivial

private theorem protects_insertCase {row : VerificationCase}
    (h : key ≠ .activeCaseOf row.providerId) : key.Protects db (db.insertCase row) := by
  cases key with
  | provider id => rfl
  | verificationCase id => exact fun c hc ↦ ⟨by rw [db.case_insertCase, hc, Option.some_or], rfl⟩
  | activeCaseOf providerId =>
    intro c hc hp hs
    rcases List.mem_append.mp hc with hold | hnew
    · exact ⟨c, hold, rfl, hp, hs⟩
    · exact absurd (by rw [← hp, List.mem_singleton.mp hnew]) h
  | policiesOf providerType => rfl
  | _ => exact trivial

private theorem protects_updateCase {row : VerificationCase} (h : key ≠ .verificationCase row.id)
    (hstatus : row.status ≠ .reviewRequired) : key.Protects db (db.updateCase row) := by
  cases key with
  | provider id => rfl
  | verificationCase id =>
    refine fun c hc ↦ ⟨?_, rfl⟩
    rw [db.case_updateCase, if_neg, hc]
    rintro rfl
    exact h rfl
  | activeCaseOf providerId =>
    intro c hc hp hs
    rcases mem_replaceBy hc with rfl | ⟨hold, -⟩
    · exact absurd hs hstatus
    · exact ⟨c, hold, rfl, hp, hs⟩
  | policiesOf providerType => rfl
  | _ => exact trivial

private theorem protects_updateProvider {row : Provider} (h : key ≠ .provider row.id) :
    key.Protects db (db.updateProvider row) := by
  cases key with
  | provider id =>
    refine (db.provider_updateProvider id row).trans (if_neg ?_)
    rintro rfl
    exact h rfl
  | verificationCase id => exact fun c hc ↦ ⟨hc, rfl⟩
  | activeCaseOf providerId => exact fun c h hp hs ↦ ⟨c, h, rfl, hp, hs⟩
  | policiesOf providerType => rfl
  | _ => exact trivial

private theorem protects_degradeAll {timestamp : ℤ} {actorId : ℕ} {requestId : String}
    {rows : List Provider} (h : ∀ row ∈ rows, key ≠ .provider row.id) :
    key.Protects db (degradeAll timestamp actorId requestId rows db) := by
  induction rows generalizing db with
  | nil => exact key.protects_refl db
  | cons row rows ih =>
    rw [List.forall_mem_cons] at h
    have hrow : key.Protects db (db.updateProvider (row.degrade timestamp)) :=
      protects_updateProvider h.1
    exact LockKey.protects_trans (LockKey.protects_trans hrow (protects_insertAudit _)) (ih h.2)

private theorem protects_applyPolicyChanges {changes : List PolicyChange}
    (h : ∀ change ∈ changes, key ≠ .policiesOf change.providerType) :
    key.Protects db (applyPolicyChanges changes db) := by
  obtain ⟨hproviders, hcases, hchecks⟩ := applyPolicyChanges_tables changes db
  cases key with
  | provider id =>
    change (applyPolicyChanges changes db).provider id = db.provider id
    rw [Database.provider, hproviders, ← Database.provider]
  | verificationCase id =>
    refine fun c hc ↦ ⟨?_, ?_⟩
    · rw [Database.case, hcases, ← Database.case, hc]
    · rw [Database.checksOf, hchecks, ← Database.checksOf]
  | activeCaseOf providerId => exact fun c hc hp hs ↦ ⟨c, hcases ▸ hc, rfl, hp, hs⟩
  | policiesOf providerType =>
    exact policiesOf_applyPolicyChanges_of_ne fun change hc he ↦ h change hc (he ▸ rfl)
  | _ => exact trivial

variable {i : ℕ} {s : Shared Database LockKey CredentialRequest} {r : CredentialRequest}

/-- **Every effect leaves alone what the session has not locked.** -/
theorem Effect.protects (h : Effect i s r db) (hkey : s.holder key ≠ some i) :
    key.Protects s.store db := by
  have hne {key' : LockKey} (hlock : s.holder key' = some i) : key ≠ key' := by
    rintro rfl
    exact hkey hlock
  cases h with
  | recordManual _ _ _ _ _ _ _ hlock =>
    exact LockKey.protects_trans (protects_insertCheck (hne hlock)) (protects_insertAudit _)
  | recordUnavailable _ _ hlock =>
    exact LockKey.protects_trans (protects_insertCheck (hne hlock)) (protects_insertAudit _)
  | @openCase actor input timestamp caseId id recordedSequence _ _ _ _ hlock hcaseId =>
    refine LockKey.protects_trans ?_ (protects_insertAudit _)
    by_cases hnew : key = .verificationCase caseId
    · subst hnew
      intro c hc
      exact absurd ((case_none_of_drawn hcaseId).symm.trans hc) nofun
    · have hcases : key.Protects s.store
          (s.store.insertCase (reviewRequiredCase input.providerId timestamp caseId)) :=
        protects_insertCase (hne hlock)
      exact LockKey.protects_trans hcases (protects_insertCheck hnew)
  | @finalize actor _ _ _ provider c row _ now decision _ hprovider hproviderLock hcase _ hlock =>
    obtain rfl := (Database.mem_of_case hcase).2
    obtain rfl := (Database.mem_of_provider hprovider).2
    have hcases : key.Protects s.store (s.store.updateCase
        (c.withDecision decision.toMicroseconds (1000 * now) actor.actorId row)) :=
      protects_updateCase (hne hlock) nofun
    refine LockKey.protects_trans (LockKey.protects_trans hcases ?_) (protects_insertAudit _)
    exact protects_updateProvider (hne hproviderLock)
  | revalidate _ hrows => exact protects_degradeAll fun row hrow ↦ hne (hrows row hrow).2.2
  | changePolicies hlock => exact protects_applyPolicyChanges fun change hc ↦ hne (hlock change hc)

/-- **Every effect uses only numbers the session has drawn.** -/
theorem Effect.unused (h : Effect i s r db) {n : ℕ} (hn : s.minted[n]? ≠ some (some i))
    (hunused : s.store.Unused n) : db.Unused n := by
  have hne {m : ℕ} (hm : Drawn s i m) : m ≠ n := by
    rintro rfl
    exact hn hm.minted
  cases h with
  | recordManual _ _ _ _ _ _ _ _ hid hsequence =>
    refine ⟨hunused.case, List.forall_mem_append.mpr ⟨hunused.check, ?_⟩⟩
    rintro _ hc
    rw [List.mem_singleton.mp hc]
    exact ⟨hne hid, fun he ↦ hne hsequence (Int.ofNat_inj.mp he)⟩
  | recordUnavailable _ _ _ hid hsequence =>
    refine ⟨hunused.case, List.forall_mem_append.mpr ⟨hunused.check, ?_⟩⟩
    rintro _ hc
    rw [List.mem_singleton.mp hc]
    exact ⟨hne hid, fun he ↦ hne hsequence (Int.ofNat_inj.mp he)⟩
  | openCase _ _ _ hcaseId hid hsequence =>
    refine ⟨List.forall_mem_append.mpr ⟨hunused.case, ?_⟩,
      List.forall_mem_append.mpr ⟨hunused.check, ?_⟩⟩
    · rintro _ hc
      rw [List.mem_singleton.mp hc]
      exact hne hcaseId
    · rintro _ hc
      rw [List.mem_singleton.mp hc]
      exact ⟨hne hid, fun he ↦ hne hsequence (Int.ofNat_inj.mp he)⟩
  | finalize _ _ hcase =>
    refine ⟨fun a ha ↦ ?_, hunused.check⟩
    rcases mem_replaceBy ha with rfl | ⟨hold, -⟩
    · have hc := hunused.case _ (Database.mem_of_case hcase).1
      exact hc
    · exact hunused.case a hold
  | revalidate =>
    obtain ⟨hcases, hchecks, -⟩ := degradeAll_tables _ s.store
    exact ⟨hcases ▸ hunused.case, hchecks ▸ hunused.check⟩
  | changePolicies =>
    obtain ⟨-, hcases, hchecks⟩ := applyPolicyChanges_tables _ s.store
    exact ⟨hcases ▸ hunused.case, hchecks ▸ hunused.check⟩

end Locks

end Nayasetu
