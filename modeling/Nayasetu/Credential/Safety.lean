import Nayasetu.Credential.Transactions

/-!
# Runs of the credential operations

What holds in every reachable configuration, for any number of clients and any interleaving of
their statements, with policies changing and rows being locked by others at any time. The walk
through the transactions (`safe_credentialProgram`) and the soundness of the rules give the
invariant of every reachable configuration; the guarantees of the store and the agreement of the
application with the database follow.
-/

namespace Nayasetu

open Values RowLock Collections

/-- A configuration of clients of the credential operations. -/
abbrev CredentialConfig : Type :=
  Config Database LockKey Failure CredentialResponse CredentialRequest

/-- Some interleaving of credential requests leads from one configuration to the other. -/
abbrev CredentialRun (c c' : CredentialConfig) : Prop := Reaches credentialProgram c c'

/-- Before the first request. -/
abbrev credentialStart (db : Database) (clock : ℤ) (drawn : ℕ) : CredentialConfig :=
  Config.initial db clock drawn

/-- A store a run can begin with, when so many numbers have been drawn. -/
structure Sane (db : Database) (drawn : ℕ) : Prop where
  store : StoreInvariant db
  unused : ∀ n, drawn ≤ n → db.Unused n

/-- A store without cases whose providers are all self-declared. -/
structure Unverified (db : Database) : Prop where
  provider_ids : (db.providers.map (·.id)).Nodup
  tier : ∀ provider ∈ db.providers, provider.tier = .selfDeclared
  policy_versions : ∀ providerType, ((db.policiesOf providerType).map (·.version)).Nodup
  cases : db.cases = []
  checks : db.checks = []

theorem Unverified.sane {db : Database} (h : Unverified db) (drawn : ℕ) : Sane db drawn where
  store :=
    { provider_ids := h.provider_ids
      case_ids := by rw [h.cases]; exact List.nodup_nil
      case_provider := by simp [h.cases]
      one_active := by simp [h.cases]
      undecided := by simp [h.cases]
      checks := by
        rw [h.checks]
        exact ⟨List.nodup_nil, by simp, by simp, by simp, by simp⟩
      policy_versions := h.policy_versions
      decided := by simp [h.cases] }
  unused n _ := ⟨by simp [h.cases], by simp [h.checks]⟩

section Runs

variable {db : Database} {clock : ℤ} {drawn : ℕ} {c c' : CredentialConfig}

/-- **Every reachable configuration satisfies the invariant**, and no session ends in one of the
two errors of an inconsistent store. -/
theorem credentialRun_invariant (hsane : Sane db drawn)
    (hc : CredentialRun (credentialStart db clock drawn) c) :
    CredentialInvariant db c.shared ∧
      ∀ u ∈ c.sessions, ∀ e, u.program = some (.throw e) → e.Ordinary := by
  have hstart : CredentialInvariant db (credentialStart db clock drawn).shared :=
    { store := hsane.store
      unused := fun n hn ↦ hsane.unused n (by simpa [Config.initial] using hn)
      history := by simp [Config.initial]
      standing := fun id provider hp ↦ .initial hp }
  have hsound : (credentialDiscipline db).toProtocol.Sound (fun _ _ _ _ ↦ True)
      (fun _ _ e _ ↦ e.Ordinary) c :=
    Protocol.sound (fun _ _ _ _ _ _ _ ↦ trivial) (fun _ _ _ _ _ he _ ↦ he)
      (fun i r s hs _ ↦ safe_credentialProgram rfl) hstart hc
  refine ⟨hsound.inv, fun u hu e he ↦ ?_⟩
  obtain ⟨i, hi⟩ := List.mem_iff_getElem?.mp hu
  exact Protocol.wp_throw_iff.mp (hsound.safe i u _ hi he)

/-- Decided cases are final between any two configurations of a run. -/
theorem credentialRun_grows (hsane : Sane db drawn)
    (hc : CredentialRun (credentialStart db clock drawn) c) (hc' : CredentialRun c c') :
    Grows c.shared.store c'.shared.store := by
  refine hc'.store_rel Grows.refl (fun _ _ _ ↦ Grows.trans) fun e he ↦ ?_
  obtain ⟨-, s, hs, heffect⟩ := (credentialRun_invariant hsane (hc.trans hc')).1.history e he
  exact hs ▸ heffect.grows

end Runs

/-! ## Decisions

What the log of a run says about the decision of a case, to be compared with what its row says.
-/

def decisionOf (e : Entry Database CredentialRequest) : Option VerificationCase :=
  match e.request with
  | .finalize _ _ caseId _ => e.after.case caseId
  | _ => none

def VerificationCase.decidedPolicy (c : VerificationCase) : Option CredentialTierPolicy :=
  c.policySnapshot.bind fun doc ↦ (parseCredentialTierPolicy doc).toOption

/-- A committed decision is the one the checks of the case call for. -/
theorem Committed.decision {e : Entry Database CredentialRequest} (h : Committed e)
    {c : VerificationCase} (hc : decisionOf e = some c) :
    e.after.checksOf c.id = e.before.checksOf c.id ∧
      ∃ policy now decision, DecidedAs e.after c policy now decision := by
  obtain ⟨i, r, snap, before, after⟩ := e
  obtain ⟨hinv, s, hs, heffect⟩ := h
  dsimp only at hs heffect hinv hc ⊢
  subst hs
  have hinv' := heffect.storeInvariant hinv
  cases heffect with
  | @finalize _ _ caseId _ _ c₀ _ _ _ _ _ _ _ hcase =>
    have hc : Database.case _ caseId = some c := hc
    refine ⟨rfl, hinv'.decided c (Database.mem_of_case hc).1 ?_⟩
    rw [Database.case_insertAudit, Database.case_updateProvider, Database.case_updateCase,
      VerificationCase.withDecision_id, if_pos (Database.mem_of_case hcase).2.symm, hcase,
      Option.map_some] at hc
    rw [← Option.some.inj hc]
    rfl
  | recordManual => exact nomatch hc
  | recordUnavailable => exact nomatch hc
  | openCase => exact nomatch hc
  | revalidate => exact nomatch hc
  | changePolicies => exact nomatch hc

theorem DecidedAs.decidedPolicy {db : Database} {c : VerificationCase}
    {policy : CredentialTierPolicy}
    {now : ℤ} {decision : PersistedTierDecision} (h : DecidedAs db c policy now decision) :
    c.decidedPolicy = some policy := by
  obtain ⟨doc, hdoc, hparse⟩ := h.snapshot
  rw [VerificationCase.decidedPolicy, hdoc, Option.bind_some, hparse]
  rfl

/-! ## The store

The guarantees of the store as one structure. They hold of every configuration a run from a sane
start can reach.
-/

/-- Decide the stored checks of a case again, under the policy and at the instant it was decided
with. -/
def Database.redecide (db : Database) (c : VerificationCase) : Option PersistedTierDecision := do
  let provider ← db.provider c.providerId
  let snapshot ← c.policySnapshot
  let policy ← (parseCredentialTierPolicy snapshot).toOption
  let decidedAt ← c.decidedAt
  let decision ← (decideTierFromRecordedChecks provider.providerType
    ((db.checksOf c.id).map (·.toRecorded)) policy (decidedAt / 1000)).toOption
  return decision.toMicroseconds

/-- The tier a standing leaves a provider with that began self-declared. -/
def Standing.Leaves (db : Database) : Standing → Provider → Prop
  | ⟨none, _⟩, provider => provider.tier = .selfDeclared
  | ⟨some caseId, false⟩, provider => ∃ c, db.case caseId = some c ∧ c.providerId = provider.id ∧
      c.tierOutcome = some provider.tier
  | ⟨some caseId, true⟩, provider => ∃ c, db.case caseId = some c ∧ c.providerId = provider.id ∧
      c.tierOutcome = some .fullyVerified ∧ provider.tier = .documentVerified

theorem DecidedAs.redecide {db : Database} (hinv : StoreInvariant db) {c : VerificationCase}
    {policy : CredentialTierPolicy} {now : ℤ} {decision : PersistedTierDecision}
    (h : DecidedAs db c policy now decision) : db.redecide c = some decision.toMicroseconds := by
  obtain ⟨provider, hprovider, htype⟩ := h.provider
  obtain ⟨doc, hdoc, hparse⟩ := h.snapshot
  obtain ⟨decision', hdecide, hdecides⟩ := preflight_decides now hparse
    (hinv.stored_checksOf c.id) (List.Perm.refl _)
  obtain rfl := hdecides.unique h.decides
  have hnow : 1000 * now / 1000 = now := Int.mul_ediv_cancel_left now (by decide)
  simp only [Database.redecide, hprovider, hdoc, hparse, h.decidedAt, hnow, htype, hdecide,
    Except.toOption, Option.bind_eq_bind, Option.bind_some, Option.pure_def]

section Store

variable {db : Database} {clock : ℤ} {drawn : ℕ} {c : CredentialConfig}

/-- What is promised about the credential store. -/
structure CredentialStoreSafe (c : CredentialConfig) : Prop where
  /-- No provider has two cases under review. -/
  one_active : ∀ a ∈ c.shared.store.cases, ∀ b ∈ c.shared.store.cases, a.providerId = b.providerId →
    a.status = .reviewRequired → b.status = .reviewRequired → a = b
  case_ids : (c.shared.store.cases.map (·.id)).Nodup
  /-- No session fails on the index that forbids two cases under review. -/
  no_index_error : ∀ u ∈ c.sessions, u.program ≠ some (.throw activeReviewExists)
  /-- A decided case and its checks never change again. -/
  final : ∀ c', CredentialRun c c' → ∀ a ∈ c.shared.store.cases, a.status = .decided →
    c'.shared.store.case a.id = some a ∧
      c'.shared.store.checksOf a.id = c.shared.store.checksOf a.id
  /-- Deciding the checks of a decided case again gives what the case stores. -/
  redecided : ∀ a ∈ c.shared.store.cases, a.status = .decided →
    ∃ decision, c.shared.store.redecide a = some decision ∧
      a.tierOutcome = some decision.tier ∧ a.decisionReasons = decision.reasons ∧
      a.tierExpiresAt = decision.tierExpiresAt
  /-- Every provider has the tier of its standing. -/
  tiers : ∀ provider ∈ c.shared.store.providers,
    (standing provider.id c.shared.history).Leaves c.shared.store provider

/-- **The credential store is safe** in every configuration reachable from a store without cases and
with self-declared providers. -/
theorem credential_store_safe (hstart : Unverified db)
    (hc : CredentialRun (credentialStart db clock drawn) c) : CredentialStoreSafe c := by
  have hsane := hstart.sane drawn
  obtain ⟨hinv, herrors⟩ := credentialRun_invariant hsane hc
  refine
    { one_active := hinv.store.one_active
      case_ids := hinv.store.case_ids
      no_index_error := fun u hu he ↦ (herrors u hu _ he).ne_activeReviewExists rfl
      final := fun c' hc' a ha hd ↦
        (credentialRun_grows hsane hc hc').decided a.id a (hinv.store.case_eq ha) hd
      redecided := fun a ha hd ↦ ?_
      tiers := fun provider hp ↦ ?_ }
  · obtain ⟨policy, now, decision, hdecided⟩ := hinv.store.decided a ha hd
    exact ⟨_, hdecided.redecide hinv.store, hdecided.outcome, hdecided.reasons, hdecided.expiry⟩
  · have hself {provider₀ : Provider} (h₀ : db.provider provider.id = some provider₀) :
        provider₀.tier = .selfDeclared := hstart.tier _ (Database.mem_of_provider h₀).1
    have hexplains := hinv.standing provider.id provider (hinv.store.provider_eq hp)
    revert hexplains
    generalize standing provider.id c.shared.history = st
    intro hexplains
    cases hexplains with
    | initial h => exact hself h
    | lapsed h hfull => exact nomatch (hself h).symm.trans hfull
    | decided hcase hprovider _ houtcome => exact ⟨_, hcase, hprovider, houtcome⟩
    | degraded hcase hprovider _ houtcome htier => exact ⟨_, hcase, hprovider, houtcome, htier⟩

end Store

/-! ## A run

An advocate's case is opened by a failed fetch, a degree is reviewed and the case is decided. -/

def legDocument (checkType : String) (allowedSourceIds : List String) : Jsonb :=
  .object [("checkType", .string checkType),
    ("allowedSourceIds", .array (allowedSourceIds.map .string))]

def sourceDocument (sourceId : String) (evidenceKind : CredentialEvidenceKind) : Jsonb :=
  .object [("sourceId", .string sourceId), ("evidenceKind", .string evidenceKind.text)]

/-- A policy document for advocates whose identity leg is the degree. -/
def advocatePolicy (version : String) (sources : List (String × CredentialEvidenceKind))
    (required authority : List (String × List String)) (identity : List String) : Jsonb :=
  .object [("version", .string version), ("providerType", .string "ADVOCATE"),
    ("sources", .array (sources.map fun source ↦ sourceDocument source.1 source.2)),
    ("requiredDocumentLegs", .array (required.map fun leg ↦ legDocument leg.1 leg.2)),
    ("identityConsistencyLeg", legDocument "DEGREE" identity),
    ("currentAuthorityLegs", .array (authority.map fun leg ↦ legDocument leg.1 leg.2)),
    ("currentAuthorityFreshnessMs", .number (.ofInt 1000))]

/-- A policy that wants a reviewed degree and an enrolment confirmed by the registry. -/
def verifiedPolicy : Jsonb :=
  advocatePolicy "v1" [("REVIEW", .manualDocument), ("REGISTRY", .authority)]
    [("DEGREE", ["REVIEW"])]
    [("ENROLMENT", ["REGISTRY"])] ["REVIEW"]

/-- An advocate whom nothing vouches for. -/
def advocateRow : Provider where
  id := 1
  userId := 10
  providerType := "ADVOCATE"
  displayName := "Advocate"
  district := "Pune"
  languages := ["mr"]
  serviceModes := ["REMOTE"]
  status := "ACTIVE"
  tier := .selfDeclared
  tierDecidedAt := none
  tierExpiresAt := none

def advocateStore : Database where
  roleGrants := [⟨2, .admin, "credentials:review"⟩]
  providers := [advocateRow]
  policies := [⟨"ADVOCATE", "v1", verifiedPolicy, true⟩]

theorem advocateStore_unverified : Unverified advocateStore where
  provider_ids := by decide
  tier := by decide
  policy_versions providerType := (List.nodup_singleton "v1").sublist (List.filter_sublist.map _)
  cases := rfl
  checks := rfl

def reviewer : ActorContext where
  actorId := 2
  actorType := .admin
  scopes := ["credentials:review"]
  requestId := "review"

/-- The advocate. -/
def advocate : ActorContext where
  actorId := 10
  actorType := .provider
  scopes := []
  requestId := "fetch"

/-- The next `n` statements of session `i`. -/
def statements (i n : ℕ) : List (Action CredentialRequest) := List.replicate n (.run i 0)

/-- The advocate's failed fetch opens case 0. -/
def openCase : List (Action CredentialRequest) :=
  .start (.recordUnavailable advocate ⟨1, "DEGREE", .digiLocker, false⟩) :: statements 0 12

/-- A review of case 0 by session `i`. -/
def review (i : ℕ) (checkType : String) (result : VerificationResult) (validUntil : Option ℤ) :
    List (Action CredentialRequest) :=
  .start (.recordManual reviewer ⟨1, 0, checkType, "REVIEW", result, "reference",
    validUntil, none⟩) :: statements i 12

def decideCase : Action CredentialRequest := .start (.finalize reviewer 1 0 none)

/-- A case that is opened, reviewed and decided. -/
def decidedRun : List (Action CredentialRequest) :=
  openCase ++ review 1 "DEGREE" .pass none ++ decideCase :: statements 2 20

theorem decidedRun_possible :
    (exec credentialProgram (credentialStart advocateStore 5000 0) decidedRun).isSome := by rfl

theorem credential_store_safe_decidedRun :
    CredentialStoreSafe
      ((exec credentialProgram (credentialStart advocateStore 5000 0) decidedRun).get
        decidedRun_possible) :=
  credential_store_safe advocateStore_unverified (.get _)

/-! ## The preflight

The agreement of the two decisions, for every case and every instant, with the rows in any order.
-/

/-- **The preflight agrees with the database.** Over the same rows, in whatever order the
application reads them, the two decide the same tier for the same reasons with the same expiry; and
in no run does a session end in the error of a failed comparison. -/
theorem preflight_agrees_with_database :
    (∀ {doc : Jsonb} {policy : CredentialTierPolicy} {rows read : List VerificationCheck}
        {now freshness : ℤ}, parseCredentialTierPolicy doc = .ok policy →
      validatePolicySql doc (1000 * now) = .ok freshness → StoredChecks rows → read.Perm rows →
      ∃ decision, decideTierFromRecordedChecks policy.providerType (read.map (·.toRecorded)) policy
          now = .ok decision ∧
        (sqlDecision doc rows (1000 * now) freshness).tier = decision.tier ∧
        (sqlDecision doc rows (1000 * now) freshness).reasons = decision.reasons ∧
        (sqlDecision doc rows (1000 * now) freshness).tierExpiresAt =
          decision.tierExpiresAt.map (1000 * ·)) ∧
    ∀ {db : Database} {clock : ℤ} {drawn : ℕ} {c : CredentialConfig}, Sane db drawn →
      CredentialRun (credentialStart db clock drawn) c →
      ∀ u ∈ c.sessions, u.program ≠ some (.throw preflightMismatch) := by
  refine ⟨fun hparse hsql hrows hread ↦ ?_, fun hsane hc u hu he ↦ ?_⟩
  · obtain ⟨decision, hdecide, hdecides⟩ := preflight_decides _ hparse hrows hread
    rw [sqlDecision_eq_preflight hparse hsql hrows hdecides]
    exact ⟨decision, hdecide, rfl, rfl, rfl⟩
  · exact ((credentialRun_invariant hsane hc).2 u hu _ he).ne_preflightMismatch rfl

/-- A reviewed degree and a confirmed enrolment. -/
def verifiedRows : List VerificationCheck :=
  [⟨3, 0, "DEGREE", "REVIEW", .live, .pass, [], some "reference", some 5700000, false, 5000000, 4⟩,
    ⟨5, 0, "ENROLMENT", "REGISTRY", .live, .pass, [], none, none, false, 4900000, 6⟩]

theorem preflight_agrees_with_database_verifiedRows :
    (∃ decision, decideTierFromRecordedChecks "ADVOCATE" (verifiedRows.map (·.toRecorded))
        ⟨"v1", "ADVOCATE", [⟨"REVIEW", .manualDocument⟩, ⟨"REGISTRY", .authority⟩],
          [⟨"DEGREE", ["REVIEW"]⟩], ⟨"DEGREE", ["REVIEW"]⟩, [⟨"ENROLMENT", ["REGISTRY"]⟩], 1000⟩
          5000 = .ok decision ∧
      (sqlDecision verifiedPolicy verifiedRows (1000 * 5000) 1000000).tier = decision.tier) ∧
    ∀ u ∈ ((exec credentialProgram (credentialStart advocateStore 5000 0) decidedRun).get
        decidedRun_possible).sessions, u.program ≠ some (.throw preflightMismatch) := by
  refine ⟨?_, preflight_agrees_with_database.2 (advocateStore_unverified.sane 0) (.get _)⟩
  have hrows : StoredChecks verifiedRows := ⟨by decide, by decide, by decide, by decide, by decide⟩
  obtain ⟨decision, hdecide, htier, -⟩ := preflight_agrees_with_database.1
    (show parseCredentialTierPolicy verifiedPolicy = .ok _ from rfl)
    (show validatePolicySql verifiedPolicy (1000 * 5000) = .ok 1000000 from rfl) hrows (.refl _)
  exact ⟨decision, hdecide, htier⟩

end Nayasetu
