import Mathlib.Logic.Relation
import Nayasetu.Identity.Requests

/-!
# The discipline of accounts, sessions and delegations

What the routes do to the tables that say who is who comes in eight steps (`IdentityStep`): rows
are added under numbers of their own and, where a key has to be unique, under its lock; accounts
are activated, sessions revoked and delegations closed under the lock on their row. From this
follows what lasts (`Service.Later`) and the invariant of every run.
-/

namespace Nayasetu

open Values RowLock Collections

/-! ## What lasts

What an account, a session and a delegation may become later: an account keeps its address and,
once active, stays so; a session keeps its digest and account, and is revoked for good; a
delegation keeps its parties, and is closed for good.
-/

/-- The account is the same, unless it was pending and has become active. -/
def UserAccount.Later (account later : UserAccount) : Prop :=
  later = account ∨
    (account.status = "PENDING_PROFILE" ∧ later = { account with status := "ACTIVE" })

/-- The session is the same, unless it has been revoked. -/
def AuthSession.Later (session later : AuthSession) : Prop :=
  later = session ∨
    (session.revokedAt = none ∧ ∃ timestamp, later = { session with revokedAt := some timestamp })

/-- The delegation is the same, unless it has been closed. -/
def OperatorDelegation.Later (delegation later : OperatorDelegation) : Prop :=
  later = delegation ∨
    (delegation.endedAt = none ∧ ∃ timestamp, later = { delegation with endedAt := some timestamp })

theorem UserAccount.Later.refl (a : UserAccount) : a.Later a := .inl rfl

theorem UserAccount.Later.trans {a b c : UserAccount} (h₁ : a.Later b) (h₂ : b.Later c) :
    a.Later c := by
  rcases h₁ with rfl | ⟨hpending, rfl⟩
  · exact h₂
  · rcases h₂ with rfl | ⟨hactive, -⟩
    · exact .inr ⟨hpending, rfl⟩
    · exact absurd hactive (by simp)

theorem AuthSession.Later.refl (a : AuthSession) : a.Later a := .inl rfl

theorem AuthSession.Later.trans {a b c : AuthSession} (h₁ : a.Later b) (h₂ : b.Later c) :
    a.Later c := by
  rcases h₁ with rfl | ⟨hnone, t, rfl⟩
  · exact h₂
  · rcases h₂ with rfl | ⟨hrevoked, -⟩
    · exact .inr ⟨hnone, t, rfl⟩
    · exact nomatch hrevoked

theorem OperatorDelegation.Later.refl (a : OperatorDelegation) : a.Later a := .inl rfl

theorem OperatorDelegation.Later.trans {a b c : OperatorDelegation} (h₁ : a.Later b)
    (h₂ : b.Later c) : a.Later c := by
  rcases h₁ with rfl | ⟨hnone, t, rfl⟩
  · exact h₂
  · rcases h₂ with rfl | ⟨hended, -⟩
    · exact .inr ⟨hnone, t, rfl⟩
    · exact nomatch hended

/-- What is so later than in `s`: nothing is gone, and an account that has changed has a profile. -/
structure Service.Later (s s' : Service) : Prop where
  accounts : Extends (·.id) UserAccount.Later s.accounts s'.accounts
  sessions : Extends (·.id) AuthSession.Later s.sessions s'.sessions
  delegations : Extends (·.id) OperatorDelegation.Later s.database.delegations
    s'.database.delegations
  profiles : ∀ id, (s.profile id).isSome → (s'.profile id).isSome
  activated : ∀ id a b, s.account id = some a → s'.account id = some b → b ≠ a →
    (s'.profile id).isSome

namespace Service.Later

variable {s s₁ s₂ s₃ : Service}

theorem refl (s : Service) : s.Later s where
  accounts := .refl UserAccount.Later.refl _
  sessions := .refl AuthSession.Later.refl _
  delegations := .refl OperatorDelegation.Later.refl _
  profiles _ h := h
  activated _ _ _ ha hb hne := absurd (Option.some.inj (hb.symm.trans ha)) hne

theorem trans (h₁ : s₁.Later s₂) (h₂ : s₂.Later s₃) : s₁.Later s₃ where
  accounts := h₁.accounts.trans (fun _ _ _ h h' ↦ h.trans h') h₂.accounts
  sessions := h₁.sessions.trans (fun _ _ _ h h' ↦ h.trans h') h₂.sessions
  delegations := h₁.delegations.trans (fun _ _ _ h h' ↦ h.trans h') h₂.delegations
  profiles id h := h₂.profiles id (h₁.profiles id h)
  activated id a c ha hc hne := by
    obtain ⟨b, hb, -⟩ := h₁.accounts id a ha
    by_cases hba : b = a
    · exact h₂.activated id b c hb hc fun h ↦ hne (h.trans hba)
    · exact h₂.profiles id (h₁.activated id a b ha hb hba)

end Service.Later

/-! ## Steps

For each step: what it leaves as it was for the sessions that hold other locks, that what has to
be different stays different, and that nothing is taken back.
-/

/-- The number is that of no account, session or delegation. -/
def Service.Unused (n : ℕ) (s : Service) : Prop :=
  (∀ account ∈ s.accounts, account.id ≠ n) ∧ (∀ session ∈ s.sessions, session.id ≠ n) ∧
    ∀ delegation ∈ s.database.delegations, delegation.id ≠ n

/-- What the routes do to the tables, holding `held` and with numbers from `drawn`. -/
inductive IdentityStep (held : ServiceKey → Prop) (drawn : ℕ → Prop) (s : Service) : Service → Prop
  /-- Other tables are changed. -/
  | other {s' : Service} (haccounts : s'.accounts = s.accounts)
      (hsessions : s'.sessions = s.sessions) (hprofiles : s'.profiles = s.profiles)
      (hdelegations : s'.database.delegations = s.database.delegations) :
      IdentityStep held drawn s s'
  | account {row : UserAccount} {email : JsString} (hdrawn : drawn row.id)
      (hunused : ∀ account ∈ s.accounts, account.id ≠ row.id) (hemail : row.email = some email)
      (hheld : held (.accountEmail email)) (hfresh : s.accountOf email = none) :
      IdentityStep held drawn s (s.insertAccount row)
  | session {row : AuthSession} (hdrawn : drawn row.id)
      (hunused : ∀ session ∈ s.sessions, session.id ≠ row.id)
      (hheld : held (.sessionDigest row.tokenDigest))
      (hfresh : ∀ session ∈ s.sessions, session.tokenDigest ≠ row.tokenDigest) :
      IdentityStep held drawn s (s.insertSession row)
  | delegation {row : OperatorDelegation} {terms : DelegationTerms} (hdrawn : drawn row.id)
      (hunused : ∀ delegation ∈ s.database.delegations, delegation.id ≠ row.id) :
      IdentityStep held drawn s (s.insertDelegation row terms)
  | profile {row : CitizenProfile} : IdentityStep held drawn s (s.putProfile row)
  | activate {id : ℕ} (hheld : held (.account id)) (hprofile : (s.profile id).isSome) :
      IdentityStep held drawn s (s.activate id)
  | revoke {id : ℕ} {timestamp : ℤ} (hheld : held (.session id))
      (hlive : ∀ session ∈ s.sessions, session.id = id → session.revokedAt = none) :
      IdentityStep held drawn s (s.revokeSession id timestamp)
  | close {id : ℕ} {timestamp : ℤ} (hheld : held (.delegation id)) :
      IdentityStep held drawn s (s.closeDelegation id timestamp)

def ServiceKey.Guards : ServiceKey → Service → Service → Prop
  | .row _, _, _ => True
  | .account id, s, s' => ∀ account, s.account id = some account → s'.account id = some account
  | .accountEmail email, s, s' => s.accountOf email = none → s'.accountOf email = none
  | .session id, s, s' => ∀ session, lookupBy (·.id) id s.sessions = some session →
      lookupBy (·.id) id s'.sessions = some session
  | .sessionDigest digest, s, s' => (∀ session ∈ s.sessions, session.tokenDigest ≠ digest) →
      ∀ session ∈ s'.sessions, session.tokenDigest ≠ digest
  | .delegation id, s, s' => ∀ delegation,
      lookupBy (·.id) id s.database.delegations = some delegation →
        lookupBy (·.id) id s'.database.delegations = some delegation

/-- Accounts, sessions and delegations are told apart by their numbers, accounts also by their
addresses and sessions by their digests. -/
structure Service.Distinct (s : Service) : Prop where
  accounts : (s.accounts.map (·.id)).Nodup
  emails : (s.accounts.filterMap (·.email)).Nodup
  sessions : (s.sessions.map (·.id)).Nodup
  digests : (s.sessions.map (·.tokenDigest)).Nodup
  delegations : (s.database.delegations.map (·.id)).Nodup

theorem Service.Later.exists_session {s s' : Service} (hs : s.Distinct) (h : s.Later s')
    {session : AuthSession} (hsession : session ∈ s.sessions) :
    ∃ later ∈ s'.sessions, session.Later later := by
  obtain ⟨later, hfound, hsame⟩ := h.sessions session.id session
    ((lookupBy_eq_some_iff hs.sessions).mpr ⟨hsession, rfl⟩)
  exact ⟨later, (lookupBy_mem hfound).1, hsame⟩

theorem Service.Later.exists_delegation {s s' : Service} (hs : s.Distinct) (h : s.Later s')
    {delegation : OperatorDelegation} (hdelegation : delegation ∈ s.database.delegations) :
    ∃ later ∈ s'.database.delegations, delegation.Later later := by
  obtain ⟨later, hfound, hsame⟩ := h.delegations delegation.id delegation
    ((lookupBy_eq_some_iff hs.delegations).mpr ⟨hdelegation, rfl⟩)
  exact ⟨later, (lookupBy_mem hfound).1, hsame⟩

theorem OperatorDelegation.Later.parties {delegation later : OperatorDelegation}
    (h : delegation.Later later) : later.id = delegation.id ∧
      later.operatorUserId = delegation.operatorUserId ∧
      later.citizenUserId = delegation.citizenUserId := by
  rcases h with rfl | ⟨-, _, rfl⟩ <;> exact ⟨rfl, rfl, rfl⟩

section Steps

theorem UserAccount.activate_id (id : ℕ) (a : UserAccount) : (a.activate id).id = a.id := by
  rw [activate]
  split <;> rfl

theorem UserAccount.activate_email (id : ℕ) (a : UserAccount) :
    (a.activate id).email = a.email := by
  rw [activate]
  split <;> rfl

theorem UserAccount.later_activate (id : ℕ) (a : UserAccount) : a.Later (a.activate id) := by
  rw [activate]
  split
  next h => exact .inr ⟨h.2, rfl⟩
  next => exact .inl rfl

theorem AuthSession.revoke_id (id : ℕ) (t : ℤ) (x : AuthSession) : (x.revoke id t).id = x.id := by
  rw [revoke]
  split <;> rfl

theorem AuthSession.revoke_tokenDigest (id : ℕ) (t : ℤ) (x : AuthSession) :
    (x.revoke id t).tokenDigest = x.tokenDigest := by
  rw [revoke]
  split <;> rfl

theorem OperatorDelegation.close_id (id : ℕ) (t : ℤ) (d : OperatorDelegation) :
    (d.close id t).id = d.id := by
  rw [close]
  split <;> rfl

theorem OperatorDelegation.later_close (id : ℕ) (t : ℤ) (d : OperatorDelegation) :
    d.Later (d.close id t) := by
  rw [close]
  split
  next h => exact .inr ⟨h.2, t, rfl⟩
  next => exact .inl rfl

variable {held : ServiceKey → Prop} {drawn : ℕ → Prop} {s s' : Service}

theorem account_activate (id k : ℕ) :
    (s.activate id).account k = (s.account k).map (·.activate id) :=
  lookupBy_map (UserAccount.activate_id id) k s.accounts

theorem accountOf_activate (id : ℕ) (email : JsString) :
    (s.activate id).accountOf email = (s.accountOf email).map (·.activate id) :=
  lookupBy_map (UserAccount.activate_email id) (some email) s.accounts

theorem profile_putProfile (row : CitizenProfile) (k : ℕ) :
    (s.putProfile row).profile k = if k = row.userId then some row else s.profile k := by
  rw [Service.profile, Service.putProfile]
  dsimp only
  by_cases hold : ∃ other ∈ s.profiles, other.userId = row.userId
  · rw [if_pos hold, lookupBy_replaceBy]
    by_cases hk : k = row.userId
    · -- somebody with that number is there
      rw [if_pos hk, if_pos hk]
      cases hl : lookupBy (·.userId) k s.profiles with
      | none =>
        obtain ⟨other, hmem, hid⟩ := hold
        exact absurd (hid.trans hk.symm) (lookupBy_eq_none_iff.mp hl other hmem)
      | some _ => rfl
    · rw [if_neg hk, if_neg hk]
      rfl
  · rw [if_neg hold, lookupBy_append_singleton]
    by_cases hk : k = row.userId
    · rw [lookupBy_eq_none_iff.mpr fun a ha he ↦ hold ⟨a, ha, he.trans hk⟩, Option.none_or,
        if_pos hk.symm, if_pos hk]
    · rw [if_neg (Ne.symm hk), if_neg hk, Option.or_none]
      rfl

theorem activated_of_eq (haccounts : s'.accounts = s.accounts) (id : ℕ) (a b : UserAccount)
    (ha : s.account id = some a) (hb : s'.account id = some b) (hne : b ≠ a) :
    (s'.profile id).isSome := by
  rw [Service.account, haccounts] at hb
  exact absurd (Option.some.inj (hb.symm.trans ha)) hne

/-- Nothing is lost. -/
theorem IdentityStep.later (h : IdentityStep held drawn s s') : s.Later s' := by
  have haccounts : Extends (·.id) UserAccount.Later s.accounts s.accounts :=
    .refl UserAccount.Later.refl _
  have hsessions : Extends (·.id) AuthSession.Later s.sessions s.sessions :=
    .refl AuthSession.Later.refl _
  have hdelegations : Extends (·.id) OperatorDelegation.Later s.database.delegations
      s.database.delegations := .refl OperatorDelegation.Later.refl _
  cases h with
  | other ha hs hp hd =>
    refine ⟨ha ▸ haccounts, hs ▸ hsessions, hd ▸ hdelegations, fun id h ↦ ?_, activated_of_eq ha⟩
    rw [Service.profile, hp]
    exact h
  | @account row _ _ _ _ _ _ =>
    refine ⟨.append UserAccount.Later.refl _ _, hsessions, hdelegations, fun _ h ↦ h,
      fun id a b ha hb hne ↦ ?_⟩
    have hsame : lookupBy (·.id) id (s.accounts ++ [row]) = some a := by
      rw [lookupBy_append_singleton, ← Service.account, ha]
      rfl
    exact absurd (Option.some.inj (hb.symm.trans hsame)) hne
  | session _ _ _ _ =>
    exact ⟨haccounts, .append AuthSession.Later.refl _ _, hdelegations, fun _ h ↦ h,
      activated_of_eq rfl⟩
  | delegation _ _ =>
    exact ⟨haccounts, hsessions, .append OperatorDelegation.Later.refl _ _, fun _ h ↦ h,
      activated_of_eq rfl⟩
  | profile =>
    refine ⟨haccounts, hsessions, hdelegations, fun id h ↦ ?_, activated_of_eq rfl⟩
    rw [profile_putProfile]
    split
    · rfl
    · exact h
  | @activate id _ hprofile =>
    refine ⟨.map (UserAccount.activate_id id) fun a _ ↦ a.later_activate id,
      hsessions, hdelegations, fun _ h ↦ h, fun k a b ha hb hne ↦ ?_⟩
    rw [account_activate, ha, Option.map_some] at hb
    obtain rfl := Option.some.inj hb
    -- only the account with the number is concerned
    by_cases hid : a.id = id
    · rw [← (lookupBy_mem ha).2, hid]
      exact hprofile
    · rw [UserAccount.activate, if_neg fun h ↦ hid h.1] at hne
      exact absurd rfl hne
  | @revoke id t _ hlive =>
    refine ⟨haccounts, .map (AuthSession.revoke_id id t) fun x hx ↦ ?_, hdelegations, fun _ h ↦ h,
      activated_of_eq rfl⟩
    rw [AuthSession.revoke]
    split
    next hid => exact .inr ⟨hlive x hx hid, t, rfl⟩
    next => exact .inl rfl
  | @close id t _ =>
    exact ⟨haccounts, hsessions,
      .map (OperatorDelegation.close_id id t) fun d _ ↦ d.later_close id t, fun _ h ↦ h,
      activated_of_eq rfl⟩

/-- The rows stay told apart. -/
theorem IdentityStep.distinct (h : IdentityStep held drawn s s') (hs : s.Distinct) :
    s'.Distinct := by
  cases h with
  | other ha hse hp hd =>
    exact ⟨ha ▸ hs.accounts, ha ▸ hs.emails, hse ▸ hs.sessions, hse ▸ hs.digests,
      hd ▸ hs.delegations⟩
  | @account row email _ hunused hemail _ hfresh =>
    refine ⟨nodup_map_append hs.accounts hunused, ?_, hs.sessions, hs.digests, hs.delegations⟩
    change ((s.accounts ++ [row]).filterMap (·.email)).Nodup
    have hrow : [row].filterMap (·.email) = [email] := by simp [hemail]
    rw [List.filterMap_append, hrow]
    refine List.nodup_append.mpr ⟨hs.emails, List.nodup_singleton _, fun e he e' he' heq ↦ ?_⟩
    obtain ⟨a, ha, hae⟩ := List.mem_filterMap.mp he
    rw [heq, List.mem_singleton.mp he'] at hae
    exact lookupBy_eq_none_iff.mp hfresh a ha hae
  | session _ hunused _ hfresh =>
    exact ⟨hs.accounts, hs.emails, nodup_map_append hs.sessions hunused,
      nodup_map_append hs.digests hfresh, hs.delegations⟩
  | delegation _ hunused =>
    exact ⟨hs.accounts, hs.emails, hs.sessions, hs.digests, nodup_map_append hs.delegations hunused⟩
  | profile => exact ⟨hs.accounts, hs.emails, hs.sessions, hs.digests, hs.delegations⟩
  | @activate id _ _ =>
    refine ⟨?_, ?_, hs.sessions, hs.digests, hs.delegations⟩
    · exact (map_key_map (UserAccount.activate_id id) s.accounts).symm ▸ hs.accounts
    · change ((s.accounts.map (·.activate id)).filterMap (·.email)).Nodup
      rw [List.filterMap_map]
      have hsame : UserAccount.email ∘ UserAccount.activate id = UserAccount.email :=
        funext (UserAccount.activate_email id)
      rw [hsame]
      exact hs.emails
  | @revoke id t _ _ =>
    refine ⟨hs.accounts, hs.emails, ?_, ?_, hs.delegations⟩
    · exact (map_key_map (AuthSession.revoke_id id t) s.sessions).symm ▸ hs.sessions
    · exact (map_key_map (AuthSession.revoke_tokenDigest id t) s.sessions).symm ▸ hs.digests
  | @close id t _ =>
    exact ⟨hs.accounts, hs.emails, hs.sessions, hs.digests,
      (map_key_map (OperatorDelegation.close_id id t) s.database.delegations).symm ▸ hs.delegations⟩

/-- Numbers of others stay unused. -/
theorem IdentityStep.unused (h : IdentityStep held drawn s s') {n : ℕ} (hn : ¬ drawn n)
    (hs : s.Unused n) : s'.Unused n := by
  obtain ⟨haccounts, hsessions, hdelegations⟩ := hs
  have hnew {k : ℕ} (hk : drawn k) : k ≠ n := fun he ↦ hn (he ▸ hk)
  cases h with
  | other ha hse hp hd => exact ⟨ha ▸ haccounts, hse ▸ hsessions, hd ▸ hdelegations⟩
  | account hdrawn _ _ _ _ =>
    exact ⟨List.forall_mem_append.mpr ⟨haccounts, List.forall_mem_singleton.mpr (hnew hdrawn)⟩,
      hsessions, hdelegations⟩
  | session hdrawn _ _ _ =>
    exact ⟨haccounts, List.forall_mem_append.mpr
      ⟨hsessions, List.forall_mem_singleton.mpr (hnew hdrawn)⟩, hdelegations⟩
  | delegation hdrawn _ =>
    exact ⟨haccounts, hsessions, List.forall_mem_append.mpr
      ⟨hdelegations, List.forall_mem_singleton.mpr (hnew hdrawn)⟩⟩
  | profile => exact ⟨haccounts, hsessions, hdelegations⟩
  | @activate id _ _ =>
    exact ⟨List.forall_mem_map.mpr fun a ha ↦ by rw [a.activate_id]; exact haccounts a ha,
      hsessions, hdelegations⟩
  | @revoke id t _ _ =>
    exact ⟨haccounts, List.forall_mem_map.mpr fun x hx ↦ by rw [x.revoke_id]; exact hsessions x hx,
      hdelegations⟩
  | @close id t _ =>
    exact ⟨haccounts, hsessions,
      List.forall_mem_map.mpr fun d hd ↦ by rw [d.close_id]; exact hdelegations d hd⟩

theorem IdentityStep.guards (h : IdentityStep held drawn s s') {key : ServiceKey}
    (hkey : ¬ held key) : key.Guards s s' := by
  cases key with
  | row _ => trivial
  | account id =>
    intro account haccount
    cases h with
    | other ha _ _ _ => rw [Service.account, ha, ← Service.account, haccount]
    | account _ _ _ _ _ =>
      exact (lookupBy_append_singleton id s.accounts _).trans
        (by rw [← Service.account, haccount]; rfl)
    | @activate id' hheld _ =>
      -- only the account that the session has locked is activated
      have hne : account.id ≠ id' := fun he ↦ hkey ((lookupBy_mem haccount).2 ▸ he ▸ hheld)
      rw [account_activate, haccount, Option.map_some, UserAccount.activate, if_neg fun h ↦ hne h.1]
    | _ => exact haccount
  | accountEmail email =>
    intro hnone
    cases h with
    | other ha _ _ _ => rw [Service.accountOf, ha, ← Service.accountOf, hnone]
    | account _ _ hemail hheld _ =>
      refine (lookupBy_append_singleton (some email) s.accounts _).trans ?_
      -- a new account comes under the key of its address, which this session does not hold
      rw [← Service.accountOf, hnone, Option.none_or, if_neg fun he ↦ hkey ?_]
      rw [hemail] at he
      exact Option.some.inj he ▸ hheld
    | @activate id' _ _ => rw [accountOf_activate, hnone, Option.map_none]
    | _ => exact hnone
  | session id =>
    intro session hsession
    cases h with
    | other _ hs _ _ => rw [hs, hsession]
    | session _ _ _ _ =>
      exact (lookupBy_append_singleton id s.sessions _).trans (by rw [hsession]; rfl)
    | @revoke id' t hheld _ =>
      have hne : session.id ≠ id' := fun he ↦ hkey ((lookupBy_mem hsession).2 ▸ he ▸ hheld)
      refine (lookupBy_map (AuthSession.revoke_id id' t) id s.sessions).trans ?_
      rw [hsession, Option.map_some, AuthSession.revoke, if_neg hne]
    | _ => exact hsession
  | sessionDigest digest =>
    intro hfresh
    cases h with
    | other _ hs _ _ => exact hs ▸ hfresh
    | session _ _ hheld _ =>
      exact List.forall_mem_append.mpr ⟨hfresh, List.forall_mem_singleton.mpr fun he ↦
        hkey (he ▸ hheld)⟩
    | @revoke id' t _ _ =>
      refine List.forall_mem_map.mpr fun x hx ↦ ?_
      rw [x.revoke_tokenDigest]
      exact hfresh x hx
    | _ => exact hfresh
  | delegation id =>
    intro delegation hdelegation
    cases h with
    | other _ _ _ hd => rw [hd, hdelegation]
    | delegation _ _ =>
      exact (lookupBy_append_singleton id s.database.delegations _).trans (by rw [hdelegation]; rfl)
    | @close id' t hheld =>
      have hne : delegation.id ≠ id' := fun he ↦ hkey ((lookupBy_mem hdelegation).2 ▸ he ▸ hheld)
      refine (lookupBy_map (OperatorDelegation.close_id id' t) id s.database.delegations).trans ?_
      rw [hdelegation, Option.map_some, OperatorDelegation.close, if_neg fun h ↦ hne h.1]
    | _ => exact hdelegation

end Steps

/-! ## The discipline

A commit is a sequence of steps. The rules for one step extend to sequences.
-/

/-- What holds in every reachable configuration. -/
structure ServiceInvariant (s : Shared Service ServiceKey ServiceRequest) : Prop where
  distinct : s.store.Distinct
  drawn : ∀ n, s.minted.length ≤ n → s.store.Unused n
  /-- Every commit has lost nothing. -/
  record : ∀ e ∈ s.history, e.before.Later e.after

theorem ServiceKey.guards_refl (key : ServiceKey) (s : Service) : key.Guards s s := by
  cases key with
  | row _ => trivial
  | account _ | session _ | delegation _ => exact fun _ h ↦ h
  | accountEmail _ | sessionDigest _ => exact fun h ↦ h

theorem ServiceKey.guards_trans (key : ServiceKey) (s₁ s₂ s₃ : Service) (h₁ : key.Guards s₁ s₂)
    (h₂ : key.Guards s₂ s₃) : key.Guards s₁ s₃ := by
  cases key with
  | row _ => trivial
  | account _ | session _ | delegation _ => exact fun a h ↦ h₂ a (h₁ a h)
  | accountEmail _ | sessionDigest _ => exact fun h ↦ h₂ (h₁ h)

/-- The discipline of accounts, sessions and delegations. -/
def serviceDiscipline : Discipline Service ServiceKey ServiceRequest where
  Inv := ServiceInvariant
  Keep := ServiceKey.Guards
  Unused := Service.Unused
  Mono := Service.Later
  keep_refl := ServiceKey.guards_refl
  keep_trans := ServiceKey.guards_trans
  mono_refl := .refl
  mono_trans _ _ _ h₁ h₂ := h₁.trans h₂
  unused_of_inv _ n h hn := h.drawn n hn
  inv_of_same _ _ hstore hhistory hminted _ _ h :=
    ⟨hstore ▸ h.distinct, fun n hn ↦ hstore ▸ h.drawn n (hminted.length_le.trans hn),
      hhistory ▸ h.record⟩

abbrev IdentitySteps (held : ServiceKey → Prop) (drawn : ℕ → Prop) : Service → Service → Prop :=
  Relation.ReflTransGen (IdentityStep held drawn)

section Commits

variable {held : ServiceKey → Prop} {drawn : ℕ → Prop} {s s' : Service}

theorem IdentitySteps.later (h : IdentitySteps held drawn s s') : s.Later s' := by
  induction h with
  | refl => exact .refl s
  | tail _ hstep ih => exact ih.trans hstep.later

theorem IdentitySteps.distinct (h : IdentitySteps held drawn s s') (hs : s.Distinct) :
    s'.Distinct := by
  induction h with
  | refl => exact hs
  | tail _ hstep ih => exact hstep.distinct ih

theorem IdentitySteps.unused (h : IdentitySteps held drawn s s') {n : ℕ} (hn : ¬ drawn n)
    (hs : s.Unused n) : s'.Unused n := by
  induction h with
  | refl => exact hs
  | tail _ hstep ih => exact hstep.unused hn ih

theorem IdentitySteps.guards (h : IdentitySteps held drawn s s') {key : ServiceKey}
    (hkey : ¬ held key) : key.Guards s s' := by
  induction h with
  | refl => exact key.guards_refl s
  | tail _ hstep ih => exact key.guards_trans _ _ _ ih (hstep.guards hkey)

variable {i : ℕ} {r : ServiceRequest} {w : View Service ServiceKey ServiceRequest}

theorem mayCommit_of_steps
    (h : ∀ s, serviceDiscipline.Since i w.shared s → ServiceInvariant s →
      IdentitySteps (fun k ↦ s.holder k = some i) (fun n ↦ s.minted[n]? = some (some i)) s.store
        (w.pending s.store)) : MayCommit serviceDiscipline i r w := by
  intro s hs hinv
  have hsteps := h s hs hinv
  refine ⟨⟨hsteps.distinct hinv.distinct, fun n hn ↦ ?_, ?_⟩, ?_⟩
  · refine hsteps.unused (fun hdrawn ↦ ?_) (hinv.drawn n hn)
    exact absurd (List.getElem?_eq_some_iff.mp hdrawn).1 (Nat.not_lt.mpr hn)
  · exact List.forall_mem_append.mpr ⟨hinv.record, List.forall_mem_singleton.mpr hsteps.later⟩
  · exact Discipline.rely_commit (fun k hk ↦ hsteps.guards hk) (fun n hn ↦ hsteps.unused hn)
      hsteps.later

end Commits

end Nayasetu
