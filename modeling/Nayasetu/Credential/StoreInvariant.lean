import Nayasetu.Credential.Errors
import Nayasetu.Credential.Preflight
import Nayasetu.RowLock.Discipline

/-!
# The invariant of the credential store

Each commit of a credential operation is one of a few effects on the store (`Effect`), made under
the locks and with the sequence numbers the effect names. Every effect keeps the invariant of the
store (`Effect.storeInvariant`), only adds to what is already settled (`Effect.grows`), leaves alone
what other sessions have locked (`Effect.protects`), and moves the standing of a provider as its
last finalization and the degradations after it say (`Effect.standing`).

## The invariant

`StoreInvariant` says what no check of a table can say, since it is about several rows:
identifiers are not used twice, the checks of a case carry different numbers of recording, at most
one case of a provider is open, and a decided case was decided as its evidence calls for
(`DecidedAs`), by the policy it keeps a copy of.

## What only grows

`Grows` compares two moments. Decided cases and their checks stay as they are, open cases get
checks but keep those they have, and a version of a policy keeps its text. An invariant that
speaks of the past, such as which decision a case was closed with, survives because of it.
-/

namespace Nayasetu

open Values RowLock Collections

/-! ## What the writes change

Each write touches one table. What it does to the rows of that table, and that a row with another
identifier is still the same.
-/

namespace Database

variable (db : Database) (id : ℕ)

@[simp] theorem provider_insertAudit (events : List AuditEvent) :
    (db.insertAudit events).provider id = db.provider id := rfl

@[simp] theorem case_insertAudit (events : List AuditEvent) :
    (db.insertAudit events).case id = db.case id := rfl

theorem checksOf_insertCheck_of_ne {row : VerificationCheck} (h : row.caseId ≠ id) :
    (db.insertCheck row).checksOf id = db.checksOf id := by
  simp [insertCheck, checksOf, h]

@[simp] theorem provider_insertCase (row : VerificationCase) :
    (db.insertCase row).provider id = db.provider id := rfl

theorem case_insertCase (row : VerificationCase) :
    (db.insertCase row).case id = (db.case id).or (if row.id = id then some row else none) :=
  lookupBy_append_singleton id db.cases row

@[simp] theorem provider_updateCase (row : VerificationCase) :
    (db.updateCase row).provider id = db.provider id := rfl

theorem case_updateCase (row : VerificationCase) :
    (db.updateCase row).case id =
      if id = row.id then (db.case id).map fun _ ↦ row else db.case id :=
  lookupBy_replaceBy id row db.cases

@[simp] theorem case_updateProvider (row : Provider) :
    (db.updateProvider row).case id = db.case id := rfl

theorem provider_updateProvider (row : Provider) : (db.updateProvider row).provider id =
    if id = row.id then (db.provider id).map fun _ ↦ row else db.provider id :=
  lookupBy_replaceBy id row db.providers

variable {db id}

theorem mem_of_case {c : VerificationCase} (h : db.case id = some c) : c ∈ db.cases ∧ c.id = id :=
  lookupBy_mem h

theorem mem_of_provider {provider : Provider} (h : db.provider id = some provider) :
    provider ∈ db.providers ∧ provider.id = id := lookupBy_mem h

end Database

/-- The registry after several changes. -/
def applyPolicyChanges (changes : List PolicyChange) (db : Database) : Database :=
  changes.foldl (fun db change ↦ change.apply db) db

/-- The providers after several degradations. -/
def degradeAll (timestamp : ℤ) (actorId : ℕ) (requestId : String) (rows : List Provider)
    (db : Database) : Database :=
  rows.foldl (fun db row ↦ (db.updateProvider (row.degrade timestamp)).insertAudit
    [degradationAudit row timestamp actorId requestId]) db

def Database.policiesOf (db : Database) (providerType : String) : List CredentialPolicyRow :=
  db.policies.filter (·.providerType = providerType)

section PolicyChanges

variable {changes : List PolicyChange} {db db' : Database} {providerType : String}

theorem applyPolicyChanges_tables (changes : List PolicyChange) (db : Database) :
    (applyPolicyChanges changes db).providers = db.providers ∧
      (applyPolicyChanges changes db).cases = db.cases ∧
      (applyPolicyChanges changes db).checks = db.checks := by
  induction changes generalizing db with
  | nil => exact ⟨rfl, rfl, rfl⟩
  | cons change changes ih =>
    obtain ⟨hproviders, hcases, hchecks⟩ := ih (change.apply db)
    rw [applyPolicyChanges, List.foldl_cons, ← applyPolicyChanges, hproviders, hcases, hchecks]
    cases change <;> exact ⟨rfl, rfl, rfl⟩

private theorem policiesOf_setActive {version target : String} {active : Bool} :
    ((PolicyChange.setActive target version active).apply db).policiesOf providerType =
      (db.policiesOf providerType).map fun row ↦
        if row.providerType = target ∧ row.version = version then { row with active } else row := by
  rw [Database.policiesOf, Database.policiesOf, PolicyChange.apply, List.filter_map]
  refine congrArg _ (List.filter_congr fun row _ ↦ ?_)
  simp only [Function.comp_apply]
  split <;> rfl

private theorem policiesOf_insert {row : CredentialPolicyRow} :
    ((PolicyChange.insert row).apply db).policiesOf providerType =
      db.policiesOf providerType ++ [row].filter (·.providerType = providerType) := by
  rw [Database.policiesOf, Database.policiesOf, PolicyChange.apply, List.filter_append]

private theorem policiesOf_apply {change : PolicyChange}
    (h : db.policiesOf providerType = db'.policiesOf providerType) :
    (change.apply db).policiesOf providerType = (change.apply db').policiesOf providerType := by
  cases change with
  | insert row => rw [policiesOf_insert, policiesOf_insert, h]
  | setActive target version active => rw [policiesOf_setActive, policiesOf_setActive, h]

private theorem policiesOf_apply_of_ne {change : PolicyChange}
    (h : change.providerType ≠ providerType) :
    (change.apply db).policiesOf providerType = db.policiesOf providerType := by
  cases change with
  | insert row =>
    have hne : row.providerType ≠ providerType := h
    rw [policiesOf_insert, List.filter_cons_of_neg (by simpa using hne), List.filter_nil,
      List.append_nil]
  | setActive target version active =>
    rw [policiesOf_setActive]
    refine (List.map_congr_left fun row hrow ↦ if_neg fun hkey ↦ h ?_).trans (List.map_id' _)
    exact hkey.1.symm.trans (by simpa using List.of_mem_filter hrow)

theorem versions_apply {change : PolicyChange} (h : change.Admissible db)
    (hdb : ((db.policiesOf providerType).map (·.version)).Nodup) :
    (((change.apply db).policiesOf providerType).map (·.version)).Nodup := by
  cases change with
  | insert row =>
    rw [policiesOf_insert, List.map_append, List.nodup_append]
    refine ⟨hdb, ?_, fun a ha b hb he ↦ ?_⟩
    · exact (List.nodup_singleton row.version).sublist (List.filter_sublist.map _)
    · obtain ⟨other, hother, rfl⟩ := List.mem_map.mp ha
      obtain ⟨row', hrow', rfl⟩ := List.mem_map.mp hb
      obtain ⟨hmem, htype⟩ := List.mem_filter.mp hother
      obtain ⟨hrow, htype'⟩ := List.mem_filter.mp hrow'
      obtain rfl := List.mem_singleton.mp hrow
      rw [decide_eq_true_iff] at htype htype'
      exact h.2.1 other hmem ⟨htype.trans htype'.symm, he⟩
  | setActive target version active =>
    rw [policiesOf_setActive, List.map_map]
    refine (List.map_congr_left fun row _ ↦ ?_) ▸ hdb
    rw [Function.comp_apply]
    split <;> rfl

/-- Changes act on each provider type by itself. -/
theorem policiesOf_applyPolicyChanges
    (h : db.policiesOf providerType = db'.policiesOf providerType) :
    (applyPolicyChanges changes db).policiesOf providerType =
      (applyPolicyChanges changes db').policiesOf providerType := by
  induction changes generalizing db db' with
  | nil => exact h
  | cons change changes ih => exact ih (policiesOf_apply h)

theorem policiesOf_applyPolicyChanges_of_ne
    (h : ∀ change ∈ changes, change.providerType ≠ providerType) :
    (applyPolicyChanges changes db).policiesOf providerType = db.policiesOf providerType := by
  induction changes generalizing db with
  | nil => rfl
  | cons change changes ih =>
    rw [List.forall_mem_cons] at h
    exact (ih h.2).trans (policiesOf_apply_of_ne h.1)

private theorem mem_policies_apply (change : PolicyChange) {row : CredentialPolicyRow}
    (h : row ∈ db.policies) : ∃ row' ∈ (change.apply db).policies,
      row'.providerType = row.providerType ∧ row'.version = row.version ∧
        row'.policySnapshot = row.policySnapshot := by
  cases change with
  | insert other => exact ⟨row, List.mem_append_left _ h, rfl, rfl, rfl⟩
  | setActive target version active =>
    refine ⟨_, List.mem_map_of_mem h, ?_⟩
    split <;> exact ⟨rfl, rfl, rfl⟩

theorem mem_policies_applyPolicyChanges {row : CredentialPolicyRow} (h : row ∈ db.policies) :
    ∃ row' ∈ (applyPolicyChanges changes db).policies, row'.providerType = row.providerType ∧
      row'.version = row.version ∧ row'.policySnapshot = row.policySnapshot := by
  induction changes generalizing db row with
  | nil => exact ⟨row, h, rfl, rfl, rfl⟩
  | cons change changes ih =>
    obtain ⟨row₁, h₁, htype₁, hversion₁, hsnapshot₁⟩ := mem_policies_apply change h
    obtain ⟨row₂, h₂, htype₂, hversion₂, hsnapshot₂⟩ := ih h₁
    exact ⟨row₂, h₂, htype₂.trans htype₁, hversion₂.trans hversion₁, hsnapshot₂.trans hsnapshot₁⟩

end PolicyChanges

section Degradations

variable {rows : List Provider} {db : Database} {timestamp : ℤ} {actorId : ℕ} {requestId : String}

theorem degradeAll_tables (rows : List Provider) (db : Database) :
    (degradeAll timestamp actorId requestId rows db).cases = db.cases ∧
      (degradeAll timestamp actorId requestId rows db).checks = db.checks ∧
      (degradeAll timestamp actorId requestId rows db).policies = db.policies ∧
      (degradeAll timestamp actorId requestId rows db).providers.map (·.id) =
        db.providers.map (·.id) := by
  induction rows generalizing db with
  | nil => exact ⟨rfl, rfl, rfl, rfl⟩
  | cons row rows ih =>
    obtain ⟨hcases, hchecks, hpolicies, hids⟩ :=
      ih ((db.updateProvider (row.degrade timestamp)).insertAudit
        [degradationAudit row timestamp actorId requestId])
    refine ⟨hcases, hchecks, hpolicies, hids.trans ?_⟩
    exact map_key_replaceBy _ _

theorem provider_degradeAll_of_not_mem {id : ℕ} (h : id ∉ rows.map (·.id)) :
    (degradeAll timestamp actorId requestId rows db).provider id = db.provider id := by
  induction rows generalizing db with
  | nil => rfl
  | cons row rows ih =>
    rw [List.map_cons, List.mem_cons, not_or] at h
    refine (ih h.2).trans ?_
    rw [Database.provider_insertAudit, Database.provider_updateProvider]
    exact if_neg h.1

theorem provider_degradeAll_of_mem (hnodup : (rows.map (·.id)).Nodup) {row : Provider}
    (hrow : row ∈ rows) (hstored : db.provider row.id = some row) :
    (degradeAll timestamp actorId requestId rows db).provider row.id =
      some (row.degrade timestamp) := by
  induction rows generalizing db with
  | nil => exact absurd hrow List.not_mem_nil
  | cons first rows ih =>
    rw [List.map_cons, List.nodup_cons] at hnodup
    rcases List.mem_cons.mp hrow with rfl | hrow
    · refine (provider_degradeAll_of_not_mem hnodup.1).trans ?_
      rw [Database.provider_insertAudit, Database.provider_updateProvider, hstored]
      exact if_pos rfl
    · refine ih hnodup.2 hrow ?_
      rw [Database.provider_insertAudit, Database.provider_updateProvider]
      refine (if_neg fun he ↦ hnodup.1 ?_).trans hstored
      exact he ▸ List.mem_map_of_mem hrow

end Degradations

/-! ## The invariant

Its parts, the relation between two moments, and what a lock on a row keeps others from changing.
-/

/-- A case and the decision it stores. -/
structure DecidedAs (db : Database) (c : VerificationCase) (policy : CredentialTierPolicy) (now : ℤ)
    (decision : PersistedTierDecision) : Prop where
  provider : ∃ provider, db.provider c.providerId = some provider ∧
    provider.providerType = policy.providerType
  decidedAt : c.decidedAt = some (1000 * now)
  snapshot : ∃ doc, c.policySnapshot = some doc ∧ parseCredentialTierPolicy doc = .ok policy
  decides : Decides policy ((db.checksOf c.id).map (·.toRecorded)) now decision
  outcome : c.tierOutcome = some decision.tier
  reasons : c.decisionReasons = decision.reasons
  expiry : c.tierExpiresAt = decision.tierExpiresAt.map (1000 * ·)

/-- What holds of every committed store. -/
structure StoreInvariant (db : Database) : Prop where
  provider_ids : (db.providers.map (·.id)).Nodup
  case_ids : (db.cases.map (·.id)).Nodup
  case_provider : ∀ c ∈ db.cases, ∃ provider, db.provider c.providerId = some provider
  /-- No provider has two active cases. -/
  one_active : ∀ c ∈ db.cases, ∀ c' ∈ db.cases, c.providerId = c'.providerId →
    c.status = .reviewRequired → c'.status = .reviewRequired → c = c'
  undecided : ∀ c ∈ db.cases, c.status = .reviewRequired → c.decidedAt = none ∧ c.tierOutcome = none
  checks : StoredChecks db.checks
  policy_versions : ∀ providerType, ((db.policiesOf providerType).map (·.version)).Nodup
  /-- Every decided case stores the decision its checks call for. -/
  decided : ∀ c ∈ db.cases, c.status = .decided →
    ∃ policy now decision, DecidedAs db c policy now decision

/-- What no commit takes back. -/
structure Grows (db db' : Database) : Prop where
  provider : ∀ id, (db'.provider id).map (fun p ↦ (p.userId, p.providerType)) =
    (db.provider id).map fun p ↦ (p.userId, p.providerType)
  case : ∀ id c, db.case id = some c → ∃ c', db'.case id = some c' ∧ c'.providerId = c.providerId
  /-- A decided case is final, and so are its checks. -/
  decided : ∀ id c, db.case id = some c → c.status = .decided →
    db'.case id = some c ∧ db'.checksOf id = db.checksOf id
  checks : db.checks <+: db'.checks
  policy : ∀ row ∈ db.policies, ∃ row' ∈ db'.policies, row'.providerType = row.providerType ∧
    row'.version = row.version ∧ row'.policySnapshot = row.policySnapshot

/-- What stays as it is while another session holds the key. -/
def LockKey.Protects : LockKey → Database → Database → Prop
  | .provider id, db, db' => db'.provider id = db.provider id
  | .verificationCase id, db, db' => ∀ c, db.case id = some c →
    db'.case id = some c ∧ db'.checksOf id = db.checksOf id
  | .activeCaseOf providerId, db, db' => ∀ c ∈ db'.cases, c.providerId = providerId →
    c.status = .reviewRequired →
    ∃ c' ∈ db.cases, c'.id = c.id ∧ c'.providerId = providerId ∧ c'.status = .reviewRequired
  | .policiesOf providerType, db, db' => db'.policiesOf providerType = db.policiesOf providerType
  | _, _, _ => True

/-- The number is no identifier and no sequence number of a row. -/
structure Database.Unused (db : Database) (n : ℕ) : Prop where
  case : ∀ c ∈ db.cases, c.id ≠ n
  check : ∀ check ∈ db.checks, check.id ≠ n ∧ check.recordedSequence ≠ n

namespace Grows

theorem refl (db : Database) : Grows db db where
  provider _ := rfl
  case _ c h := ⟨c, h, rfl⟩
  decided _ _ h _ := ⟨h, rfl⟩
  checks := List.prefix_refl _
  policy row h := ⟨row, h, rfl, rfl, rfl⟩

theorem trans {db₁ db₂ db₃ : Database} (h₁ : Grows db₁ db₂) (h₂ : Grows db₂ db₃) :
    Grows db₁ db₃ where
  provider id := (h₂.provider id).trans (h₁.provider id)
  case id c h := by
    obtain ⟨c', hc', hp'⟩ := h₁.case id c h
    obtain ⟨c'', hc'', hp''⟩ := h₂.case id c' hc'
    exact ⟨c'', hc'', hp''.trans hp'⟩
  decided id c h hd := by
    obtain ⟨hc, hchecks⟩ := h₁.decided id c h hd
    obtain ⟨hc', hchecks'⟩ := h₂.decided id c hc hd
    exact ⟨hc', hchecks'.trans hchecks⟩
  checks := h₁.checks.trans h₂.checks
  policy row h := by
    obtain ⟨row', h', ht', hv', hs'⟩ := h₁.policy row h
    obtain ⟨row'', h'', ht'', hv'', hs''⟩ := h₂.policy row' h'
    exact ⟨row'', h'', ht''.trans ht', hv''.trans hv', hs''.trans hs'⟩

/-- The type of a provider is final. -/
theorem providerType {db db' : Database} (h : Grows db db') {id : ℕ} {provider : Provider}
    (hp : db.provider id = some provider) : ∃ provider', db'.provider id = some provider' ∧
      provider'.userId = provider.userId ∧ provider'.providerType = provider.providerType := by
  have hmap := h.provider id
  rw [hp, Option.map_some, Option.map_eq_some_iff] at hmap
  obtain ⟨provider', hp', heq⟩ := hmap
  exact ⟨provider', hp', (Prod.mk.inj heq).1, (Prod.mk.inj heq).2⟩

end Grows

namespace LockKey

theorem protects_refl (key : LockKey) (db : Database) : key.Protects db db := by
  cases key with
  | provider id => rfl
  | verificationCase id => exact fun c h ↦ ⟨h, rfl⟩
  | activeCaseOf providerId => exact fun c h hp hs ↦ ⟨c, h, rfl, hp, hs⟩
  | policiesOf providerType => rfl
  | _ => exact trivial

theorem protects_trans {key : LockKey} {db₁ db₂ db₃ : Database} (h₁ : key.Protects db₁ db₂)
    (h₂ : key.Protects db₂ db₃) : key.Protects db₁ db₃ := by
  cases key with
  | provider id => exact Eq.trans h₂ h₁
  | verificationCase id =>
    intro c h
    obtain ⟨hc, hchecks⟩ := h₁ c h
    obtain ⟨hc', hchecks'⟩ := h₂ c hc
    exact ⟨hc', hchecks'.trans hchecks⟩
  | activeCaseOf providerId =>
    intro c h hp hs
    obtain ⟨c', h', hid', hp', hs'⟩ := h₂ c h hp hs
    obtain ⟨c'', h'', hid'', hp'', hs''⟩ := h₁ c' h' hp' hs'
    exact ⟨c'', h'', hid''.trans hid', hp'', hs''⟩
  | policiesOf providerType => exact Eq.trans h₂ h₁
  | _ => exact trivial

end LockKey

end Nayasetu
