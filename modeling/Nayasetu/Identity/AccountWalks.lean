import Nayasetu.Identity.Authority
import Nayasetu.Identity.Discipline

/-!
# Walks through the routes of accounts, sessions and delegations

The routes that change who is who take the steps of the discipline. What they have prepared to write
may still be committed later, since the locks they took and the numbers they drew stay their own
(`Arranged`).
-/

namespace Nayasetu

open Values RowLock RowLock.Discipline Collections

/-! ## Addresses

The account of an address is found by its address, and stays the account of that address.
-/

section Addresses

variable {s s' : Service} {email : JsString}

theorem accountOf_mem {a : UserAccount} (h : s.accountOf email = some a) :
    a ∈ s.accounts ∧ a.email = some email := lookupBy_mem h

theorem Service.Distinct.accountOf_eq (hs : s.Distinct) {a : UserAccount} (ha : a ∈ s.accounts)
    (hemail : a.email = some email) : s.accountOf email = some a := by
  cases h : s.accountOf email with
  | none => exact absurd hemail (lookupBy_eq_none_iff.mp h a ha)
  | some b =>
    obtain ⟨hb, hbe⟩ := accountOf_mem h
    by_contra hne
    have hab : b ≠ a := fun he ↦ hne (congrArg some he)
    obtain ⟨l₁, l₂, hl⟩ := List.append_of_mem hb
    have hnodup := hs.emails
    rw [hl, List.filterMap_append, List.filterMap_cons_some hbe, List.nodup_middle,
      List.nodup_cons] at hnodup
    rw [hl] at ha
    have hmem : a ∈ l₁ ++ l₂ := by
      rcases List.mem_append.mp ha with h | h
      · exact List.mem_append_left _ h
      · exact List.mem_append_right _ ((List.mem_cons.mp h).resolve_left (Ne.symm hab))
    refine hnodup.1 ?_
    rw [← List.filterMap_append]
    exact List.mem_filterMap.mpr ⟨a, hmem, hemail⟩

theorem UserAccount.Later.id_eq {a b : UserAccount} (h : a.Later b) : b.id = a.id := by
  rcases h with rfl | ⟨-, rfl⟩ <;> rfl

theorem UserAccount.Later.email_eq {a b : UserAccount} (h : a.Later b) : b.email = a.email := by
  rcases h with rfl | ⟨-, rfl⟩ <;> rfl

theorem Service.Later.accountOf (h : s.Later s') (hs : s.Distinct) (hs' : s'.Distinct)
    {a : UserAccount} (ha : s.accountOf email = some a) :
    ∃ b, s'.accountOf email = some b ∧ a.Later b := by
  obtain ⟨hmem, hemail⟩ := accountOf_mem ha
  obtain ⟨b, hb, hlater⟩ := h.accounts a.id a ((lookupBy_eq_some_iff hs.accounts).mpr ⟨hmem, rfl⟩)
  exact ⟨b, hs'.accountOf_eq (lookupBy_mem hb).1 (hlater.email_eq.trans hemail), hlater⟩

theorem accountOf_insertAccount {row : UserAccount} (hemail : row.email = some email)
    (h : s.accountOf email = none) : (s.insertAccount row).accountOf email = some row := by
  refine (lookupBy_append_singleton (some email) s.accounts row).trans ?_
  rw [← Service.accountOf, h, Option.none_or, if_pos hemail]

end Addresses

/-! ## Arranged writes

What a transaction has prepared is a sequence of steps whenever it commits, whatever the others
have committed by then.
-/

section Arranged

variable {i : ℕ} {r : ServiceRequest} {v w : View Service ServiceKey ServiceRequest}
  {s s' : Shared Service ServiceKey ServiceRequest} {f g : Service → Service}

/-- A step with the locks and the numbers of a session. -/
abbrev StepOf (i : ℕ) (s : Shared Service ServiceKey ServiceRequest) :
    Service → Service → Prop :=
  IdentityStep (fun key ↦ s.holder key = some i) fun n ↦ s.minted[n]? = some (some i)

/-- At any later moment of the transaction the writes are steps of the discipline. -/
def Arranged (i : ℕ) (s : Shared Service ServiceKey ServiceRequest)
    (f : Service → Service) : Prop :=
  ∀ s', serviceDiscipline.Since i s s' → ServiceInvariant s' →
    Relation.ReflTransGen (StepOf i s') s'.store (f s'.store)

theorem Arranged.nothing : Arranged i s id := fun _ _ _ ↦ .refl

theorem Arranged.later (h : Arranged i s f) (hs : serviceDiscipline.Since i s s') :
    Arranged i s' f := fun s₁ hs₁ ↦ h s₁ (hs.trans hs₁)

theorem Arranged.step (h : Arranged i s f) (hstep : ∀ s', serviceDiscipline.Since i s s' →
    ServiceInvariant s' → StepOf i s' (f s'.store) (g (f s'.store))) :
    Arranged i s (g ∘ f) := fun s' hs' hinv ↦ (h s' hs' hinv).tail (hstep s' hs' hinv)

/-- A write of other tables. -/
theorem Arranged.other (h : Arranged i s f) (hg : KeepsTables g) : Arranged i s (g ∘ f) :=
  h.step fun _ _ _ ↦ .other (hg.accounts _) (hg.sessions _) (hg.profiles _) (hg.delegations _)

theorem Arranged.mayCommit (h : Arranged i w.shared w.pending) :
    MayCommit serviceDiscipline i r w := mayCommit_of_steps h

theorem keepsTables_database {f : Database → Database}
    (h : ∀ db, (f db).delegations = db.delegations) : KeepsTables (databasePart.modify f) :=
  ⟨fun _ ↦ rfl, fun _ ↦ rfl, fun _ ↦ rfl, fun s ↦ h s.database⟩

theorem mayCommit_audit {actor : ActorContext} {input : AuditInput}
    (h : Arranged i w.shared w.pending) : MayCommit serviceDiscipline i r { w with
      pending :=
        databasePart.modify (Database.insertAudit [auditEvent actor input]) ∘ w.pending } := by
  have haudited := h.other (keepsTables_database
    (f := Database.insertAudit [auditEvent actor input]) fun _ ↦ rfl)
  exact mayCommit_of_steps haudited

end Arranged

/-! ## Rules -/

section Rules

variable {i : ℕ} {r : ServiceRequest} {v : View Service ServiceKey ServiceRequest}
  {E : Failure → Prop}

theorem attempt_check {condition : Prop} [Decidable condition] {failure : Failure}
    {Q : Unit → View Service ServiceKey ServiceRequest → Prop} (hfailure : E failure)
    (h : condition → Q () v) :
    serviceDiscipline.Attempt i r Q E (check condition failure) v :=
  attempt_fromExcept (fun _ ha ↦ h (require_eq_ok_iff.mp ha))
    fun _ he ↦ eq_of_require_eq_error he ▸ hfailure

theorem attempt_ensureDatabase {condition : Prop} [Decidable condition] {failure : Failure}
    {Q : Unit → View Service ServiceKey ServiceRequest → Prop} (hfailure : E failure)
    (h : condition → Q () v) :
    serviceDiscipline.Attempt i r Q E (inDatabase (ensure condition failure)) v := by
  rw [inDatabase_ensure]
  exact attempt_check hfailure h

theorem attempt_dateNow {Q : ℤ → View Service ServiceKey ServiceRequest → Prop}
    (h : ∀ w, serviceDiscipline.Onward i v w → Q (w.shared.clock / 1000) w) :
    serviceDiscipline.Attempt i r Q E (inDatabase dateNow) v := by
  change serviceDiscipline.Attempt i r Q E (now >>= fun t ↦ pure (t / 1000)) v
  exact attempt_bind (attempt_now fun w hw ↦ attempt_pure (h w hw))

theorem attempt_requireRequestActor {actor : Option RequestActor} {roles : List Role}
    {Q : RequestActor → View Service ServiceKey ServiceRequest → Prop} (hE : ∀ e, E e)
    (h : ∀ a ∈ actor, a.actorType ∈ roles → Q a v) :
    serviceDiscipline.Attempt i r Q E (requireRequestActor actor roles) v := by
  cases actor with
  | none => exact attempt_throw (hE _)
  | some a =>
    exact attempt_bind (attempt_pure (attempt_bind (attempt_ensureDatabase (hE _) fun hrole ↦
      attempt_pure (h a rfl hrole))))

end Rules

/-! ## Signing in

In the branch where the unique key was taken, the account is there when it is read: nobody deletes
one. So the error that no account was found is never raised.
-/

/-- The failure of a sign-in that finds no account for its address. -/
def unresolvedIdentity : Failure :=
  .error "Google identity could not be resolved to a user account"

section SignIn

variable {i : ℕ} {r : ServiceRequest} {v : View Service ServiceKey ServiceRequest}
  {email : JsString}

/-- The account of the address is found, or a new one is prepared. -/
theorem attempt_googleAccount
    {Q : ℕ × Bool × String → View Service ServiceKey ServiceRequest → Prop}
    (hp : v.pending = id)
    (h : ∀ w userId created status, serviceDiscipline.Since i v.shared w.shared →
      Arranged i w.shared w.pending → (∀ s, (w.pending s).sessions = s.sessions) →
      (∀ s, serviceDiscipline.Since i w.shared s → ServiceInvariant s →
        ∃ account, (w.pending s.store).accountOf email = some account ∧ account.id = userId) →
      Q (userId, created, status) w) :
    serviceDiscipline.Attempt i r Q (· ≠ unresolvedIdentity) (googleAccount email) v := by
  -- an account that was there once is there when it is looked for again
  have hold (w : View Service ServiceKey ServiceRequest) (a : UserAccount)
      (hw : serviceDiscipline.Onward i v w) (ha : w.shared.store.accountOf email = some a) :
      serviceDiscipline.Attempt i r Q (· ≠ unresolvedIdentity) (existingAccount email) w := by
    refine attempt_bind (attempt_snapshot fun w' hw' _ ↦ ?_)
    have hp' : w.pending = id := hw.pending.trans hp
    obtain ⟨b, hb, -⟩ := Service.Later.accountOf hw'.since.mono hw.inv.distinct hw'.inv.distinct ha
    rw [hp', id, hb]
    have hpending : w'.pending = id := hw'.pending.trans hp'
    refine attempt_pure (h w' b.id false b.status (hw.trans hw').since (hpending ▸ .nothing)
      (fun s ↦ by rw [hpending]; rfl) fun s hs hinv ↦ ?_)
    obtain ⟨c, hc, hlater⟩ := Service.Later.accountOf hs.mono hw'.inv.distinct hinv.distinct hb
    rw [hpending]
    exact ⟨c, hc, hlater.id_eq⟩
  refine attempt_bind (attempt_bind (attempt_check (by simp [unresolvedIdentity]) fun _ ↦ ?_))
  refine attempt_bind (attempt_nextval fun w₁ n hw₁ _ hn hunused ↦ ?_)
  refine attempt_bind (attempt_snapshot fun w₂ hw₂ _ ↦ ?_)
  have hp₁ : w₁.pending = id := hw₁.pending.trans hp
  have hp₂ : w₂.pending = id := hw₂.pending.trans hp₁
  rw [hp₁, id]
  cases hfound : w₂.shared.store.accountOf email with
  | some a => exact attempt_pure (hold w₂ a (hw₁.trans hw₂) hfound)
  | none =>
    refine attempt_bind (attempt_lock fun w₃ hw₃ _ hlock ↦ ?_)
    rw [hp₂, id]
    cases hfound₃ : w₃.shared.store.accountOf email with
    | some a => exact attempt_pure (hold w₃ a ((hw₁.trans hw₂).trans hw₃) hfound₃)
    | none =>
      refine attempt_bind (attempt_write (attempt_pure (attempt_pure ?_)))
      have hsince := (hw₂.trans hw₃).since
      have hp₃ : w₃.pending = id := hw₃.pending.trans hp₂
      rw [hp₃]
      -- the address stays free under its lock, and the number unused
      have hfresh (s : Shared Service ServiceKey ServiceRequest)
          (hs : serviceDiscipline.Since i w₃.shared s) : s.store.accountOf email = none :=
        hs.keep (.accountEmail email) hlock hfound₃
      refine h _ n true _ (hw₁.since.trans hsince) (Arranged.nothing.step fun s hs _ ↦ ?_)
        (fun _ ↦ rfl) fun s hs _ ↦ ⟨_, accountOf_insertAccount rfl (hfresh s hs), rfl⟩
      refine .account (hs.drawn (hsince.drawn hn)) ?_ rfl (hs.holds _ hlock) (hfresh s hs)
      exact ((hsince.trans hs).unused n hn hunused).1

theorem attempt_insertSession {Q : ℕ → View Service ServiceKey ServiceRequest → Prop} {userId : ℕ}
    {digest : Digest} {timestamp expiresAt : ℤ}
    (hsessions : ∀ s, (v.pending s).sessions = s.sessions)
    (hprepared : Arranged i v.shared v.pending)
    (h : ∀ w n, serviceDiscipline.Since i v.shared w.shared →
      w.pending = Service.insertSession
        ⟨n, userId, digest, timestamp, expiresAt, none⟩ ∘ v.pending →
      Arranged i w.shared w.pending → Q n w) :
    serviceDiscipline.Attempt i r Q (· ≠ unresolvedIdentity)
      (insertSession userId digest timestamp expiresAt) v := by
  refine attempt_bind (attempt_nextval fun w₁ n hw₁ _ hn hunused ↦ ?_)
  refine attempt_bind (attempt_check (by simp [unresolvedIdentity]) fun _ ↦ ?_)
  refine attempt_bind (attempt_lock fun w₂ hw₂ _ hlock ↦ ?_)
  refine attempt_bind (attempt_check (by simp [unresolvedIdentity]) fun hfresh ↦ ?_)
  refine attempt_bind (attempt_write (attempt_pure ?_))
  rw [hw₁.pending, hsessions] at hfresh
  have hp₂ : w₂.pending = v.pending := (hw₁.trans hw₂).pending
  have hprepared' : Arranged i w₂.shared
      (Service.insertSession ⟨n, userId, digest, timestamp, expiresAt, none⟩ ∘ v.pending) := by
    refine (hprepared.later (hw₁.trans hw₂).since).step fun s hs _ ↦ ?_
    refine .session (hs.drawn (hw₂.since.drawn hn)) ?_ (hs.holds _ hlock) ?_
    · rw [hsessions]
      exact ((hw₂.since.trans hs).unused n hn hunused).2.1
    · rw [hsessions]
      exact hs.keep (.sessionDigest digest) hlock hfresh
  rw [hp₂]
  exact h _ n (hw₁.trans hw₂).since rfl hprepared'

/-- The account has the address, and a session under the digest. -/
structure IssuedFor (email : JsString) (digest : Digest)
    (issued : IssuedGoogleSession) (s : Service) : Prop where
  account : ∃ account, s.account issued.userId = some account ∧ account.email = some email
  session : ∃ session, lookupBy (·.id) session.id s.sessions = some session ∧
    session.userId = issued.userId ∧ session.tokenDigest = digest ∧
    session.expiresAt = issued.expiresAt * 1000

theorem IssuedFor.later {digest : Digest} {issued : IssuedGoogleSession} {s s' : Service}
    (h : IssuedFor email digest issued s) (hs : s.Later s') : IssuedFor email digest issued s' := by
  obtain ⟨⟨account, haccount, hemail⟩, session, hsession, huser, hdigest, hexpires⟩ := h
  refine ⟨?_, ?_⟩
  · obtain ⟨later, hlater, hsame⟩ := hs.accounts _ account haccount
    exact ⟨later, hlater, hsame.email_eq.trans hemail⟩
  · obtain ⟨later, hlater, hsame⟩ := hs.sessions _ session hsession
    rcases hsame with rfl | ⟨-, t, rfl⟩
    · exact ⟨later, hlater, huser, hdigest, hexpires⟩
    · exact ⟨{ session with revokedAt := some t }, hlater, huser, hdigest, hexpires⟩

theorem attempt_issueInTransaction {token : JsString} {digest : Digest} {ttlHours : ℤ}
    {requestId : String} {timestamp : ℤ} (hp : v.pending = id) :
    serviceDiscipline.Attempt i r (fun issued w ↦ (MayCommit serviceDiscipline i r w ∧
      ∀ s, serviceDiscipline.Since i w.shared s → ServiceInvariant s →
        IssuedFor email digest issued (w.pending s.store)) ∧ issued.sessionToken = token)
      (· ≠ unresolvedIdentity)
      (issueInTransaction email token digest ttlHours requestId timestamp) v := by
  refine attempt_bind (attempt_googleAccount hp fun w₁ userId created status _ hprepared hsessions
    haccount ↦ ?_)
  refine attempt_bind (attempt_write (attempt_bind (attempt_dateNow fun w₂ hw₂ ↦ ?_)))
  have hgranted := hprepared.other (keepsTables_database
    (f := Database.insertRoleGrant ⟨userId, .citizen, ""⟩) fun _ ↦ rfl)
  refine attempt_bind (attempt_insertSession (fun s ↦ ?_) ?_ fun w₃ n hs₃ hp₃ hprepared₃ ↦ ?_)
  · rw [hw₂.pending]
    exact hsessions s
  · rw [hw₂.pending]
    exact hgranted.later hw₂.since
  refine attempt_bind (attempt_write (attempt_pure ⟨⟨mayCommit_audit hprepared₃, ?_⟩, rfl⟩))
  intro s hs hinv
  have hdistinct := IdentitySteps.distinct (hprepared₃ s hs hinv) hinv.distinct
  obtain ⟨account, haccount, hid⟩ := haccount s (hw₂.since.trans (hs₃.trans hs)) hinv
  obtain ⟨hmem, hemail⟩ := accountOf_mem haccount
  rw [hp₃, hw₂.pending] at hdistinct ⊢
  refine ⟨⟨account, (lookupBy_eq_some_iff hdistinct.accounts).mpr ⟨hmem, hid⟩, hemail⟩,
    ⟨n, userId, digest, timestamp, (w₂.shared.clock / 1000 + ttlHours * 3600000) * 1000, none⟩,
    (lookupBy_eq_some_iff hdistinct.sessions).mpr ⟨?_, rfl⟩, rfl, rfl, rfl⟩
  exact List.mem_append_right _ (List.mem_singleton_self _)

/-- A sign-in that succeeds has a session for the one account of its address. -/
def Server.Issued (server : Server) (callback : GoogleCallback) (issued : IssuedGoogleSession)
    (s : Service) : Prop :=
  ∃ email, fetchGoogleVerifiedEmail callback.userinfoResponse = .ok email ∧
    IssuedFor email (digestSessionToken server.hmacSha256 issued.sessionToken
      (server.config.sessionTokenPepper.getD [])) issued s

theorem pepper_of_requireLiveGoogleAuth {config : LoadedConfig} {pepper : JsString}
    (h : requireLiveGoogleAuth config = .ok pepper) :
    config.sessionTokenPepper.getD [] = pepper := by
  rw [requireLiveGoogleAuth] at h
  split at h
  · cases h
  · exact Except.ok.inj h

theorem answers_googleCallback {server : Server} {requestId : String} {callback : GoogleCallback}
    (hp : v.pending = id) :
    serviceDiscipline.Answers i r (fun issued w ↦ server.Issued callback issued w.shared.store)
      (· ≠ unresolvedIdentity)
      (googleCallback server.hmacSha256 server.config requestId callback) v := by
  refine answers_bind (attempt_check (by simp [unresolvedIdentity]) fun _ ↦ ?_)
  refine answers_bind (attempt_check (by simp [unresolvedIdentity]) fun _ ↦ ?_)
  refine answers_bind (attempt_fromExcept (fun pepper hpepper ↦ ?_) fun e he ↦ ?_)
  · refine answers_bind (attempt_dateNow fun w₁ hw₁ ↦ ?_)
    refine answers_bind (attempt_check (by simp [unresolvedIdentity]) fun _ ↦ ?_)
    dsimp only
    split
    next => exact answers_throw (by simp [unresolvedIdentity])
    next email hemail =>
      refine answers_transaction fun w₂ hw₂ ↦ ?_
      have hp₂ : w₂.pending = id := hw₂.pending.trans (hw₁.pending.trans hp)
      refine attempt_mono
        (fun issued w ⟨⟨hcommit, hissued⟩, htoken⟩ ↦ ⟨hcommit, fun s hs hinv ↦ ?_⟩)
        (fun _ he ↦ he) (attempt_issueInTransaction hp₂)
      refine ⟨email, fetchGoogleVerifiedEmail_of_ok hemail, ?_⟩
      rw [htoken, pepper_of_requireLiveGoogleAuth hpepper]
      exact hissued s hs hinv
  · rw [requireLiveGoogleAuth] at he
    split at he
    · cases he
      simp [unresolvedIdentity]
    · cases he

end SignIn

/-! ## Sessions and profiles

A session that was looked up under a lock is the same at the commit.
-/

section Rows

variable {i : ℕ} {r : ServiceRequest} {v : View Service ServiceKey ServiceRequest}
  {actor : Option RequestActor}

theorem AuthSession.Later.id_eq {a b : AuthSession} (h : a.Later b) : b.id = a.id := by
  rcases h with rfl | ⟨-, t, rfl⟩ <;> rfl

theorem AuthSession.Later.tokenDigest_eq {a b : AuthSession} (h : a.Later b) :
    b.tokenDigest = a.tokenDigest := by
  rcases h with rfl | ⟨-, t, rfl⟩ <;> rfl

theorem AuthSession.Later.userId_eq {a b : AuthSession} (h : a.Later b) : b.userId = a.userId := by
  rcases h with rfl | ⟨-, t, rfl⟩ <;> rfl

theorem liveSession_eq_some {s : Service} {digest : Digest} {timestamp : ℤ} {session : AuthSession}
    (h : s.liveSession digest timestamp = some session) :
    session ∈ s.sessions ∧ session.Live digest timestamp := by
  rw [Service.liveSession] at h
  exact ⟨List.mem_of_find?_eq_some h, by simpa using List.find?_some h⟩

/-- The session under a lock is the one that was found, since no two have one digest. -/
theorem attempt_selectSessionForUpdate {digest : Digest} {timestamp : ℤ} {E : Failure → Prop}
    {Q : Option AuthSession → View Service ServiceKey ServiceRequest → Prop} (hp : v.pending = id)
    (hnone : ∀ w, serviceDiscipline.Onward i v w → Q none w)
    (hsome : ∀ w session, serviceDiscipline.Onward i v w →
      w.shared.holder (.session session.id) = some i → session ∈ w.shared.store.sessions →
      session.Live digest timestamp → Q (some session) w) :
    serviceDiscipline.Attempt i r Q E (selectSessionForUpdate digest timestamp) v := by
  refine attempt_bind (attempt_snapshot fun w₁ hw₁ _ ↦ ?_)
  rw [hp, id]
  cases hfound : w₁.shared.store.liveSession digest timestamp with
  | none => exact attempt_pure (hnone w₁ hw₁)
  | some session =>
    refine attempt_bind (attempt_lock fun w₂ hw₂ _ hlock ↦ attempt_pure ?_)
    rw [hw₁.pending, hp, id]
    cases hlocked : w₂.shared.store.liveSession digest timestamp with
    | none => exact hnone w₂ (hw₁.trans hw₂)
    | some locked =>
      obtain ⟨hmem, hlive⟩ := liveSession_eq_some hfound
      obtain ⟨hmem', hlive'⟩ := liveSession_eq_some hlocked
      obtain ⟨later, hlater, hsame⟩ := hw₂.since.mono.sessions session.id session
        ((lookupBy_eq_some_iff hw₁.inv.distinct.sessions).mpr ⟨hmem, rfl⟩)
      have heq : locked = later :=
        List.inj_on_of_nodup_map hw₂.inv.distinct.digests hmem' (lookupBy_mem hlater).1
          ((hlive'.1.trans hlive.1.symm).trans hsame.tokenDigest_eq.symm)
      refine hsome w₂ locked (hw₁.trans hw₂) ?_ hmem' hlive'
      rw [heq, hsame.id_eq]
      exact hlock

theorem serves_revokeSession {server : Server} {headers : Headers} (hp : v.pending = id) :
    serviceDiscipline.Serves i r (fun _ ↦ True)
      (revokeSession server.hmacSha256 server.config headers actor) v := by
  cases actor with
  | none => exact serves_throw trivial
  | some a =>
    refine serves_bind (attempt_pure (serves_bind (attempt_check trivial fun _ ↦ ?_)))
    cases bearerToken headers with
    | none => exact serves_throw trivial
    | some token =>
      refine serves_transaction fun w₁ hw₁ ↦ ?_
      have hp₁ : w₁.pending = id := hw₁.pending.trans hp
      refine attempt_bind (attempt_selectSessionForUpdate hp₁ (fun w₂ hw₂ ↦ ?_)
        fun w₂ session hw₂ hlock hmem hlive ↦ ?_)
      · have hp₂ : w₂.pending = id := hw₂.pending.trans hp₁
        exact attempt_pure (Arranged.mayCommit (hp₂ ▸ .nothing))
      · have hp₂ : w₂.pending = id := hw₂.pending.trans hp₁
        refine attempt_bind (attempt_check trivial fun _ ↦ ?_)
        refine attempt_bind (attempt_write (attempt_bind (attempt_write (attempt_pure ?_))))
        rw [hp₂]
        refine mayCommit_audit (w := { w₂ with pending := _ })
          (Arranged.nothing.step fun s hs hinv ↦ ?_)
        refine .revoke (hs.holds _ hlock) fun other hother hid ↦ ?_
        have hkept := hs.keep (.session session.id) hlock session
          ((lookupBy_eq_some_iff hw₂.inv.distinct.sessions).mpr ⟨hmem, rfl⟩)
        rw [List.inj_on_of_nodup_map hinv.distinct.sessions hother (lookupBy_mem hkept).1 hid]
        exact hlive.2.1

theorem serves_completeProfile {body : ProfileBody} (hp : v.pending = id) :
    serviceDiscipline.Serves i r (fun _ ↦ True) (completeProfile actor body) v := by
  refine serves_bind (attempt_requireRequestActor (fun _ ↦ trivial) fun a _ _ ↦ ?_)
  generalize body.trimmed = body
  refine serves_bind (attempt_ensureDatabase trivial fun _ ↦ serves_transaction fun w₁ hw₁ ↦ ?_)
  have hp₁ : w₁.pending = id := hw₁.pending.trans hp
  refine attempt_bind (attempt_selectForUpdate (fun w₂ hw₂ _ ↦ attempt_throw trivial)
    fun w₂ account hw₂ hlock haccount ↦ ?_)
  have hp₂ : w₂.pending = id := hw₂.pending.trans hp₁
  refine attempt_bind (attempt_ensureDatabase trivial fun _ ↦ ?_)
  refine attempt_bind (attempt_write (attempt_bind (attempt_write (attempt_write ?_))))
  rw [hp₂]
  refine mayCommit_audit (w := { w₂ with pending := _ })
    ((Arranged.nothing.step fun s hs _ ↦ .profile).step
    fun s hs _ ↦ .activate (hs.holds _ hlock) ?_)
  change ((Service.putProfile _ s.store).profile a.actorId).isSome
  rw [profile_putProfile]
  split
  · rfl
  · contradiction

/-! ## Delegations -/

theorem serves_openDelegation {body : DelegationBody} (hp : v.pending = id) :
    serviceDiscipline.Serves i r (fun _ ↦ True) (openDelegation actor body) v := by
  refine serves_bind (attempt_requireRequestActor (fun _ ↦ trivial) fun a _ _ ↦ ?_)
  refine serves_bind (attempt_ensureDatabase trivial fun _ ↦ serves_transaction fun w₁ hw₁ ↦ ?_)
  have hp₁ : w₁.pending = id := hw₁.pending.trans hp
  refine attempt_bind
    (attempt_snapshot fun w₂ hw₂ _ ↦ attempt_bind (attempt_check trivial fun _ ↦ ?_))
  refine attempt_bind (attempt_ensureDatabase trivial fun _ ↦ ?_)
  refine attempt_bind (attempt_check trivial fun _ ↦ ?_)
  refine attempt_bind (attempt_nextval fun w₃ n hw₃ _ hn hunused ↦ ?_)
  have hp₃ : w₃.pending = id := hw₃.pending.trans (hw₂.pending.trans hp₁)
  refine attempt_bind (attempt_write (attempt_bind (attempt_write (attempt_pure ?_))))
  rw [hp₃]
  refine mayCommit_audit (w := { w₃ with pending := _ }) (Arranged.nothing.step fun s hs _ ↦ ?_)
  exact .delegation (hs.drawn hn) (hs.unused n hn hunused).2.2

theorem serves_closeDelegation {delegationId : ℕ} (hp : v.pending = id) :
    serviceDiscipline.Serves i r (fun _ ↦ True) (closeDelegation actor delegationId) v := by
  refine serves_bind (attempt_requireRequestActor (fun _ ↦ trivial) fun a _ _ ↦ ?_)
  refine serves_transaction fun w₁ hw₁ ↦ ?_
  have hp₁ : w₁.pending = id := hw₁.pending.trans hp
  refine attempt_bind (attempt_selectForUpdate (fun w₂ hw₂ _ ↦ attempt_throw trivial)
    fun w₂ delegation hw₂ hlock hopen ↦ ?_)
  have hp₂ : w₂.pending = id := hw₂.pending.trans hp₁
  have hid : delegation.id = delegationId := by
    have hfound := List.find?_some hopen
    simp only [Bool.and_eq_true, decide_eq_true_eq] at hfound
    exact hfound.1.1
  refine attempt_bind
    (attempt_snapshot fun w₃ hw₃ _ ↦ attempt_bind (attempt_check trivial fun _ ↦ ?_))
  refine attempt_bind (attempt_write (attempt_bind (attempt_write (attempt_pure ?_))))
  rw [hw₃.pending, hp₂]
  refine mayCommit_audit (w := { w₃ with pending := _ }) (Arranged.nothing.step fun s hs _ ↦ ?_)
  exact .close (hid ▸ hs.holds _ (hw₃.since.holds _ hlock))

end Rows

/-! ## Every request

The walks of this module and of the routes on the database, put together for the system of
requests.
-/

section Requests

variable {server : Server} {i : ℕ} {r : ServiceRequest}
  {v : View Service ServiceKey ServiceRequest} {E : Failure → Prop}

theorem attempt_onRequest {headers : Headers} {completion : Bool}
    {Q : Option RequestActor → View Service ServiceKey ServiceRequest → Prop}
    (hE : ∀ e, e ≠ unresolvedIdentity → E e)
    (h : ∀ actor w, serviceDiscipline.Onward i v w → Q actor w) (hinv : ServiceInvariant v.shared) :
    serviceDiscipline.Attempt i r Q E
      (onRequest server.hmacSha256 server.config headers completion) v := by
  have hrest {actor : Option RequestActor} {w : View Service ServiceKey ServiceRequest}
      (hw : serviceDiscipline.Onward i v w) : serviceDiscipline.Attempt i r Q E (do
        check (completion = true ∨ ∀ a ∈ actor, ¬ RequestActor.Pending a)
          (.app 403 "ACCOUNT_PENDING_PROFILE"
            "Profile completion is required before using the product")
        return actor) w :=
    attempt_bind
      (attempt_check (hE _ (by simp [unresolvedIdentity])) fun _ ↦ attempt_pure (h _ w hw))
  have hstart : serviceDiscipline.Onward i v v := .refl hinv
  refine attempt_bind ?_
  rw [resolveActorFromRequest]
  split
  next => exact attempt_pure (hrest hstart)
  next =>
    split
    next => exact attempt_pure (hrest hstart)
    next =>
      split
      next =>
        refine attempt_bind
          (attempt_now fun w₁ hw₁ ↦ attempt_bind (attempt_snapshot fun w₂ hw₂ _ ↦ ?_))
        split
        next => exact attempt_pure (hrest (hw₁.trans hw₂))
        next => exact attempt_pure (hrest (hw₁.trans hw₂))
      next => exact attempt_pure (hrest hstart)

/-- What a request may fail with: a sign-in always finds the account of its address. -/
def ServiceRequest.MayFail (r : ServiceRequest) (e : Failure) : Prop :=
  ∀ request callback, r = .http request → request.call = .googleCallback callback →
    e ≠ unresolvedIdentity

def Server.Answered (server : Server) (r : ServiceRequest)
    (response : ServiceResponse) (s : Service) : Prop :=
  ∀ request callback issued, r = .http request → request.call = .googleCallback callback →
    response = .signedIn issued → server.Issued callback issued s

theorem mayCommit_of_keepsTables {s : Shared Service ServiceKey ServiceRequest} {snap : Service}
    {f : Service → Service} (h : KeepsTables f) (hs : ServiceInvariant s) :
    ServiceInvariant (s.commit i r snap f) ∧
      ∀ j, j ≠ i → serviceDiscipline.Rely j s (s.commit i r snap f) :=
  mayCommit_of_steps (w := ⟨s, f, snap⟩)
    (fun _ _ _ ↦ .single (.other (h.accounts _) (h.sessions _) (h.profiles _) (h.delegations _)))
    s (.refl s) hs

/-- The calls that change other tables only. -/
theorem serves_http {request : HttpRequest} (hcall : ¬ request.call.Identity)
    (hp : v.pending = id) :
    serviceDiscipline.Serves i r (fun _ ↦ True) (server.program (.http request)) v :=
  serves_of_traced (fun _ _ _ hw hs ↦
      mayCommit_of_keepsTables (hw.tables.resolve_left hcall) hs)
    (fun _ _ he ↦ ⟨he, trivial⟩) hp fun _ ↦ traced_http

theorem serves_maintain {change : Database → Database} {events : List AuditEvent}
    (hp : v.pending = id) :
    serviceDiscipline.Serves i r (fun _ ↦ True) (server.program (.maintain change events)) v :=
  serves_of_traced (fun _ _ _ hw hs ↦ mayCommit_of_keepsTables hw.2 hs)
    (fun _ _ he ↦ ⟨he, trivial⟩) hp fun _ ↦ traced_maintain

/-- **Every request is answered under the discipline.** -/
theorem answers_program {s : Shared Service ServiceKey ServiceRequest} (hs : ServiceInvariant s) :
    serviceDiscipline.Answers i r (fun response w ↦ server.Answered r response w.shared.store)
      r.MayFail (server.program r) ⟨s, id, s.store⟩ := by
  -- of the other calls there is nothing to say
  have hother (hr : ∀ request callback, r = .http request → request.call ≠ .googleCallback callback)
      (h : serviceDiscipline.Serves i r (fun _ ↦ True) (server.program r) ⟨s, id, s.store⟩) :
      serviceDiscipline.Answers i r (fun response w ↦ server.Answered r response w.shared.store)
        r.MayFail (server.program r) ⟨s, id, s.store⟩ := fun hv ↦
    Protocol.wp_mono
      (fun _ _ _ request callback _ hrequest hcall ↦ absurd hcall (hr request callback hrequest))
      (fun _ _ he ↦
        ⟨he.1, fun request callback hrequest hcall ↦ absurd hcall (hr request callback hrequest)⟩)
      (h hv)
  cases r with
  | maintain change events => exact hother (fun _ _ h ↦ nomatch h) (serves_maintain rfl)
  | http request =>
    obtain ⟨headers, call⟩ := request
    cases call with
    | googleCallback callback =>
      refine answers_bind (attempt_onRequest (fun e he _ _ _ _ ↦ he) (fun actor w hw ↦ ?_) hs)
      refine fun hv ↦ Protocol.wp_bind (Protocol.wp_mono (fun issued w hw ↦ ?_)
        (fun e _ he ↦ ⟨he.1, fun _ _ _ _ ↦ he.2⟩)
        (answers_googleCallback (hw.pending.trans rfl) hv))
      refine Protocol.wp_pure fun request callback' issued' hrequest hcall hresponse ↦ ?_
      cases hrequest
      cases hcall
      cases hresponse
      exact hw
    | revokeSession =>
      refine hother (fun _ _ h hcall ↦ ?_) (serves_bind (attempt_onRequest (fun _ _ ↦ trivial)
        (fun actor w hw ↦ serves_map (serves_revokeSession hw.pending)) hs))
      cases h
      cases hcall
    | completeProfile body =>
      refine hother (fun _ _ h hcall ↦ ?_) (serves_bind (attempt_onRequest (fun _ _ ↦ trivial)
        (fun actor w hw ↦ serves_map (serves_completeProfile hw.pending)) hs))
      cases h
      cases hcall
    | openDelegation body =>
      refine hother (fun _ _ h hcall ↦ ?_) (serves_bind (attempt_onRequest (fun _ _ ↦ trivial)
        (fun actor w hw ↦ serves_map (serves_openDelegation hw.pending)) hs))
      cases h
      cases hcall
    | closeDelegation delegationId =>
      refine hother (fun _ _ h hcall ↦ ?_) (serves_bind (attempt_onRequest (fun _ _ ↦ trivial)
        (fun actor w hw ↦ serves_map (serves_closeDelegation hw.pending)) hs))
      cases h
      cases hcall
    | _ =>
      refine hother (fun _ _ h hcall ↦ ?_) (serves_http id rfl)
      cases h
      cases hcall

end Requests

end Nayasetu
