import Nayasetu.Identity.Requests
import Nayasetu.Identity.Walks

/-!
# Who may have a request served

A request is served on evidence: a token that stood for its actor since the request began, and for
each call what its route has to have seen. `traced_http` walks from the headers of a request to
its last statement. What is committed on the way is `Explained` by what was met: audit rows and
requests for help name a delegation only if it was seen to be open, but for the three actions
whose routes take the header at its word.

## The three actions

Opening and closing a delegation and signing out write audit rows that carry the delegation of the
headers without a look at it. For these rows nothing is claimed but their action.
-/

namespace Nayasetu

open Values RowLock Collections

def databases (met : List Service) : List Database := met.map Service.database

theorem databases_subset {met met' : List Service} (h : met ⊆ met') :
    databases met ⊆ databases met' := List.map_subset _ h

/-! ## Evidence

What each call has to have seen (`Call.Warrant`), and what has to have been seen of the actor.
-/

def Call.Warrant (actor : RequestActor) (met : List Service) : Call → Prop
  | .createNeed body => actor.Entitled (databases met) body.citizenUserId
  | .referral needId | .directory needId _ | .select needId _ =>
    actor.EntitledToNeed (databases met) needId
  | .rotate needId rosterId =>
    actor.EntitledToNeed (databases met) needId ∨ actor.GrantedRoster (databases met) rosterId
  | .accept bookingId | .decline bookingId _ => actor.ProvidesBooking (databases met) bookingId
  | .cancel bookingId _ => actor.ProvidesBooking (databases met) bookingId ∨
      actor.EntitledToBooking (databases met) bookingId
  | .quote body =>
    actor.actorType = .provider ∧ actor.ProvidesMatter (databases met) body.matterId
  | .matterStatus matterId =>
    actor.actorType = .admin ∨ actor.EntitledToMatter (databases met) matterId
  | .readPayment paymentId => ∃ s ∈ met, ∃ payment ∈ s.payments, payment.id = paymentId ∧
      actor.AccessesMatter (databases met) payment.matterId
  | .openGrievance _ =>
    actor.Entitled (databases met) (actor.onBehalfOfCitizenId.getD actor.actorId)
  | .openDelegation body => actor.actorType = .operator ∧ actor.actorId ≠ body.citizenUserId ∧
      ∃ s ∈ met, ∃ grant ∈ s.database.roleGrants,
        grant.userId = body.citizenUserId ∧ grant.role = .citizen
  | .closeDelegation delegationId => actor.actorType = .operator ∧
      ∃ s ∈ met, ∃ delegation ∈ s.database.delegations, delegation.id = delegationId ∧
        delegation.operatorUserId = actor.actorId ∧ delegation.endedAt = none
  | .createOwnProvider _ | .completeProfile _ | .readProfile => actor.actorType = .citizen
  | .createProvider userId _ =>
    actor.actorType = .admin ∨ (actor.actorType = .provider ∧ actor.actorId = userId)
  | .revokeSession | .me | .providerSlots _ => True
  | .googleCallback _ | .createBooking | .closeMatter _ | .createIntent
  | .acknowledgeOffline _ => False

namespace Server

variable (server : Server)

def tokenDigest (headers : Headers) : Option Digest :=
  (bearerToken headers).map fun token ↦
    digestSessionToken server.hmacSha256 token (server.config.sessionTokenPepper.getD [])

/-- The token in the headers was seen to stand for the actor: its session was live at a time since
the request began, its account was there, and so was a grant of its role. -/
def SignedIn (headers : Headers) (actor : RequestActor) (w : Trace Service) : Prop :=
  ∃ digest ∈ server.tokenDigest headers, ∃ s ∈ w.met,
    (∃ timestamp, w.begun ≤ timestamp ∧ ∃ session ∈ s.sessions,
      session.Live digest timestamp ∧ session.userId = actor.actorId) ∧
    (∃ account ∈ s.accounts, account.id = actor.actorId ∧
      actor.accountStatus = (some account.status).filter (· ≠ "")) ∧
    ∃ grant ∈ s.database.roleGrants, grant.userId = actor.actorId ∧ grant.role = actor.actorType

/-- The actor is the one the headers name, or the one their token stands for. -/
structure Authentic (headers : Headers) (actor : RequestActor) (w : Trace Service) : Prop where
  role : headers.actorRole.bind roleSchema = some actor.actorType
  actsBy : actor.ActsBy headers
  source : (server.config.authMode = .header ∧
    actorFromRequest server.config headers = some actor) ∨
    (server.config.authMode = .session ∧ server.SignedIn headers actor w)

/-- The callback brings a state that the server has signed lately, and an address that is
verified. -/
def SignsIn (callback : GoogleCallback) (w : Trace Service) : Prop :=
  (∃ pepper, requireLiveGoogleAuth server.config = .ok pepper ∧ ∃ time, w.begun / 1000 ≤ time ∧
    verifyOAuthState server.hmacSha256 (callback.state.getD []) pepper stateMaxAgeMs
      (.finite time) = true) ∧
  ∃ email, fetchGoogleVerifiedEmail callback.userinfoResponse = .ok email

/-- A request is served for an actor who is authentic, is let through by the hook and has what the
call needs; or it is the callback of somebody who signs in. -/
def Permits (request : HttpRequest) (w : Trace Service) : Prop :=
  (∃ callback, request.call = .googleCallback callback ∧ server.SignsIn callback w) ∨
    ∃ actor, server.Authentic request.headers actor w ∧
      (request.call.completion = true ∨ ¬ actor.Pending) ∧ request.call.Warrant actor w.met

variable {server} {headers : Headers} {actor : RequestActor} {w w' : Trace Service}

theorem Authentic.inOrder (h : server.Authentic headers actor w) : actor.InOrder := h.actsBy.inOrder

theorem Authentic.mono (hw : w.Since w') (h : server.Authentic headers actor w) :
    server.Authentic headers actor w' := by
  refine ⟨h.role, h.actsBy, h.source.imp_right fun ⟨hmode, digest, hdigest, s, hs, hseen⟩ ↦ ?_⟩
  rw [← hw.begun] at hseen
  exact ⟨hmode, digest, hdigest, s, hw.met.subset hs, hseen⟩

end Server

/-! ## What is committed

A write is explained by the stores met. Explanations compose, and other writes than those of audit
rows and requests need none.
-/

/-- The actions whose audit rows name a delegation without having looked it up. -/
def takenAtTheirWord : List String :=
  ["delegation.opened", "delegation.closed", "auth.session.revoked"]

/-- The calls that write these rows. -/
def Call.AtTheirWord : Call → Prop
  | .openDelegation _ | .closeDelegation _ | .revokeSession => True
  | _ => False

/-- The row says about its delegation what the headers of such a call say. -/
def Call.Word (call : Call) (actor : Option RequestActor) (event : AuditEvent) : Prop :=
  call.AtTheirWord ∧ event.action ∈ takenAtTheirWord ∧
    ∃ a ∈ actor, event.SignedBy a.toActorContext

/-- The delegation is open in the store, of the actor and for the citizen of the audit row. -/
def AuditEvent.NamesOpen (event : AuditEvent) (delegationId : ℕ) (s : Service) : Prop :=
  ∃ delegation ∈ s.database.delegations, delegation.id = delegationId ∧ delegation.endedAt = none ∧
    delegation.operatorUserId = event.actorId ∧
      event.onBehalfOfUserId = some delegation.citizenUserId

/-- If the audit row names a delegation, it was seen to be open. -/
def AuditEvent.Covered (event : AuditEvent) (met : List Service) : Prop :=
  ∀ id ∈ event.delegationId, ∃ s ∈ met, event.NamesOpen id s

/-- If the request for help is filed under a delegation, it was seen to be open, and for its
citizen. -/
def NeedRequest.Covered (need : NeedRequest) (met : List Service) : Prop :=
  ∀ id ∈ need.operatorDelegationId, ∃ s ∈ met, ∃ delegation ∈ s.database.delegations,
    delegation.id = id ∧ delegation.endedAt = none ∧ delegation.citizenUserId = need.citizenUserId

/-- The write adds audit rows and requests for help only with what was seen of their delegations,
but for audit rows of the kind `word`. -/
structure Explained (word : AuditEvent → Prop) (met : List Service) (f : Service → Service) :
    Prop where
  audit : ∀ s, ∃ events, (f s).database.auditEvents = s.database.auditEvents ++ events ∧
    ∀ event ∈ events, word event ∨ event.Covered met
  needs : ∀ s, ∀ need ∈ (f s).database.needs,
    (∃ s' ∈ s :: met, ∃ other ∈ s'.database.needs, need.FiledAs other) ∨ need.Covered met

section Explained

variable {word word' : AuditEvent → Prop} {met met' : List Service} {f g : Service → Service}
  {actor : RequestActor}

theorem AuditEvent.Covered.mono (hmet : met ⊆ met') {event : AuditEvent} (h : event.Covered met) :
    event.Covered met' := by
  intro id hid
  obtain ⟨s, hs, hdelegation⟩ := h id hid
  exact ⟨s, hmet hs, hdelegation⟩

theorem NeedRequest.Covered.mono (hmet : met ⊆ met') {need : NeedRequest} (h : need.Covered met) :
    need.Covered met' := by
  intro id hid
  obtain ⟨s, hs, hdelegation⟩ := h id hid
  exact ⟨s, hmet hs, hdelegation⟩

theorem NeedRequest.FiledAs.covered {need other : NeedRequest} (h : need.FiledAs other)
    (hother : other.Covered met) : need.Covered met := by
  intro id hid
  rw [h.2] at hid
  rw [h.1]
  exact hother id hid

namespace Explained

theorem mono (hmet : met ⊆ met') (h : Explained word met f) : Explained word met' f where
  audit s := by
    obtain ⟨events, hevents, hcovered⟩ := h.audit s
    exact ⟨events, hevents, fun event hevent ↦ (hcovered event hevent).imp_right (·.mono hmet)⟩
  needs s need hneed := by
    refine (h.needs s need hneed).imp (fun ⟨s', hs', hother⟩ ↦ ⟨s', ?_, hother⟩) (·.mono hmet)
    exact List.cons_subset_cons s hmet hs'

theorem imp (hword : ∀ event, word event → word' event) (h : Explained word met f) :
    Explained word' met f where
  audit s := by
    obtain ⟨events, hevents, hcovered⟩ := h.audit s
    exact ⟨events, hevents, fun event hevent ↦ (hcovered event hevent).imp_left (hword event)⟩
  needs := h.needs

theorem comp (f g : Service → Service) (hf : Explained word met f) (hg : Explained word met g) :
    Explained word met (f ∘ g) where
  audit s := by
    obtain ⟨events, hevents, hcovered⟩ := hf.audit (g s)
    obtain ⟨events', hevents', hcovered'⟩ := hg.audit s
    refine ⟨events' ++ events, ?_, List.forall_mem_append.mpr ⟨hcovered', hcovered⟩⟩
    rw [Function.comp_apply, hevents, hevents', List.append_assoc]
  needs s need hneed := by
    rcases hf.needs (g s) need hneed with ⟨s', hs', other, hother, hsame⟩ | hcovered
    · rcases List.mem_cons.mp hs' with rfl | hs'
      · rcases hg.needs s other hother with ⟨s', hs', other', hother', hsame'⟩ | hcovered
        · exact .inl ⟨s', hs', other', hother', hsame.1.trans hsame'.1, hsame.2.trans hsame'.2⟩
        · exact .inr (hsame.covered hcovered)
      · exact .inl ⟨s', List.mem_cons_of_mem s hs', other, hother, hsame⟩
    · exact .inr hcovered

/-- A write of other tables. -/
theorem other (haudit : ∀ s, (f s).database.auditEvents = s.database.auditEvents)
    (hneeds : ∀ s, (f s).database.needs = s.database.needs) : Explained word met f where
  audit s := ⟨[], (haudit s).trans (List.append_nil _).symm, List.forall_mem_nil _⟩
  needs s need hneed := .inl ⟨s, List.mem_cons_self, need, hneeds s ▸ hneed, rfl, rfl⟩

theorem nothing : Explained word met id := other (fun _ ↦ rfl) fun _ ↦ rfl

theorem insertAudit {events : List AuditEvent}
    (h : ∀ event ∈ events, word event ∨ event.Covered met) :
    Explained word met (databasePart.modify (Database.insertAudit events)) where
  audit _ := ⟨events, rfl, h⟩
  needs s need hneed := .inl ⟨s, List.mem_cons_self, need, hneed, rfl, rfl⟩

end Explained

/-- The delegation of the actor was seen to be open, and for the citizen the actor names. -/
def RequestActor.Covered (actor : RequestActor) (met : List Service) : Prop :=
  ∀ id ∈ actor.delegationId, ∃ s ∈ met, ∃ delegation ∈ s.database.delegations,
    delegation.id = id ∧ delegation.endedAt = none ∧ delegation.operatorUserId = actor.actorId ∧
      actor.onBehalfOfCitizenId = some delegation.citizenUserId

/-- Whoever is not an operator names no delegation. -/
theorem RequestActor.InOrder.covered (h : actor.InOrder) (hrole : actor.actorType ≠ .operator) :
    actor.Covered met := by
  rcases h with ⟨-, hnone⟩ | ⟨hoperator, -⟩
  · intro id hid
    rw [hnone] at hid
    exact nomatch hid
  · exact absurd hoperator hrole

/-- Who may act for a citizen does so under a delegation that was seen to be open. -/
theorem covered_of_entitled {citizenUserId : ℕ} (horder : actor.InOrder)
    (h : actor.Entitled (databases met) citizenUserId) : actor.Covered met := by
  rcases h with ⟨hcitizen, -⟩ | ⟨-, hcitizen, db, hdb, delegation, hdelegation, hpermits⟩
  · exact horder.covered (by rw [hcitizen]; decide)
  · intro id hid
    obtain ⟨s, hs, rfl⟩ := List.mem_map.mp hdb
    obtain ⟨hnamed, hoperator, rfl, hopen⟩ := hpermits
    rw [hnamed] at hid
    exact ⟨s, hs, delegation, hdelegation, Option.some.inj hid, hopen, hoperator, hcitizen⟩

theorem AuditEvent.SignedBy.covered {event : AuditEvent} (h : event.SignedBy actor.toActorContext)
    (hactor : actor.Covered met) : event.Covered met := by
  obtain ⟨hid, hnone | ⟨hdelegation, hcitizen⟩⟩ := h
  · intro id hid'
    rw [hnone] at hid'
    exact nomatch hid'
  · intro id hid'
    rw [hdelegation] at hid'
    simp only [AuditEvent.NamesOpen, hid, hcitizen]
    exact hactor id hid'

theorem NeedRequest.FiledBy.covered {need : NeedRequest}
    (h : need.FiledBy actor.toActorContext (databases met)) (horder : actor.InOrder) :
    need.Covered met := by
  obtain ⟨hdelegation, hentitled⟩ := h
  intro id hid
  rw [hdelegation] at hid
  obtain ⟨s, hs, delegation, hmem, hid, hopen, -, hcitizen⟩ :=
    covered_of_entitled horder hentitled id hid
  refine ⟨s, hs, delegation, hmem, hid, hopen, ?_⟩
  rcases hentitled with ⟨hrole, -⟩ | ⟨-, hcitizen', -⟩
  · -- citizens act for nobody else
    rcases horder with ⟨hnone, -⟩ | ⟨hoperator, -⟩
    · exact absurd (hcitizen.symm.trans hnone) (by simp)
    · exact absurd (hrole.symm.trans hoperator) (by decide)
  · exact Option.some.inj (hcitizen.symm.trans hcitizen')

/-- What is done in the name of an actor whose delegation was seen is accounted for. -/
theorem explained_of_actsAs {f : Database → Database} (horder : actor.InOrder)
    (hcovered : actor.Covered met) (h : ActsAs actor.toActorContext (databases met) f) :
    Explained word met (databasePart.modify f) where
  audit s := by
    obtain ⟨events, hevents, hsigned⟩ := h.audit s.database
    exact ⟨events, hevents, fun event hevent ↦ .inr ((hsigned event hevent).covered hcovered)⟩
  needs s need hneed := by
    rcases h.needs s.database need hneed with ⟨db, hdb, hother⟩ | hfiled
    · rcases List.mem_cons.mp hdb with rfl | hdb
      · exact .inl ⟨s, List.mem_cons_self, hother⟩
      · obtain ⟨s', hs', rfl⟩ := List.mem_map.mp hdb
        exact .inl ⟨s', List.mem_cons_of_mem s hs', hother⟩
    · exact .inr (hfiled.covered horder)

end Explained

/-! ## The hook

The actor the hook returns is authentic, and is not a citizen whose account is pending unless the
path is one of those that complete a profile.
-/

section Hook

variable {server : Server} {headers : Headers} {w : Trace Service} {C : Trace Service → Prop}
  {Q : Option RequestActor → Trace Service → Prop} {E : Failure → Trace Service → Prop}

theorem traced_resolveActorFromRequest (hp : w.pending = id) (hbegun : w.begun ≤ w.clock)
    (h : ∀ actor w', w.Onward w' → w'.pending = id →
      (∀ a ∈ actor, server.Authentic headers a w') → Q actor w') :
    (resolveActorFromRequest server.hmacSha256 server.config headers).Traced C Q E w := by
  rw [resolveActorFromRequest]
  split
  next hmode =>
    refine traced_pure (h _ w (.refl _) hp fun a ha ↦ ?_)
    obtain ⟨hrole, hacts⟩ := actorFromRequest_actsBy ha
    exact ⟨hrole, hacts, .inl ⟨hmode, ha⟩⟩
  next =>
    split
    next => exact traced_pure (h _ w (.refl _) hp fun _ ha ↦ nomatch ha)
    next hconfigured =>
      split
      next token role htoken hrole =>
        refine traced_bind (traced_now fun t ht ↦ traced_bind (traced_snapshot fun s ↦ ?_))
        have honward : w.Onward (Trace.meet s { w with clock := t }) :=
          (Trace.Onward.now ht).trans (.meet s _)
        split
        next => exact traced_pure (h _ _ honward hp fun _ ha ↦ nomatch ha)
        next found hfound =>
          refine traced_pure (h _ _ honward hp fun a ha ↦ ?_)
          obtain ⟨hid, htype, hacts, hstatus⟩ := SessionActor.requestActor_eq_some ha
          rw [hp] at hfound
          obtain ⟨hsameRole, hsession, ⟨account, haccount, haccountId, hsame⟩, hgrant⟩ :=
            Service.sessionActor_eq_some hfound
          refine ⟨hrole.trans (congrArg some (htype.trans hsameRole).symm), hacts,
            .inr ⟨(not_or.mp hconfigured).1 |> not_not.mp, _,
              Option.map_eq_some_iff.mpr ⟨token, htoken, rfl⟩, s, List.mem_cons_self, ?_, ?_, ?_⟩⟩
          · exact ⟨t, Int.le_trans hbegun ht, hid ▸ hsession⟩
          · exact ⟨account, haccount, haccountId.trans hid.symm, hsame ▸ hstatus⟩
          · rw [hid, htype, hsameRole]
            exact hgrant
      next => exact traced_pure (h _ w (.refl _) hp fun _ ha ↦ nomatch ha)

/-- The hook lets an authentic actor through, if any, and no pending citizen but to the routes that
complete a profile. -/
theorem traced_onRequest {completion : Bool} (hp : w.pending = id) (hbegun : w.begun ≤ w.clock)
    (h : ∀ actor w', w.Onward w' → w'.pending = id → (∀ a ∈ actor, server.Authentic headers a w') →
      (completion = true ∨ ∀ a ∈ actor, ¬ RequestActor.Pending a) → Q actor w')
    (hE : ∀ e w', w.Onward w' → E e w') :
    (onRequest server.hmacSha256 server.config headers completion).Traced C Q E w := by
  refine traced_bind (traced_resolveActorFromRequest hp hbegun fun actor w' hw' hp' hactor ↦ ?_)
  refine traced_bind (traced_require (fun hpass ↦ ?_) (hE _ w' hw'))
  exact traced_pure (h actor w' hw' hp' hactor hpass)

end Hook

/-! ## The routes

The judgement of this module, `ServesOn`: a route answers and commits only with its warrant, and
what it commits is explained.
-/

/-- The write leaves the tables alone that say who is who. -/
structure KeepsTables (f : Service → Service) : Prop where
  accounts : ∀ s, (f s).accounts = s.accounts
  sessions : ∀ s, (f s).sessions = s.sessions
  profiles : ∀ s, (f s).profiles = s.profiles
  delegations : ∀ s, (f s).database.delegations = s.database.delegations

theorem KeepsTables.comp {f g : Service → Service} (hf : KeepsTables f) (hg : KeepsTables g) :
    KeepsTables (f ∘ g) where
  accounts s := (hf.accounts (g s)).trans (hg.accounts s)
  sessions s := (hf.sessions (g s)).trans (hg.sessions s)
  profiles s := (hf.profiles (g s)).trans (hg.profiles s)
  delegations s := (hf.delegations (g s)).trans (hg.delegations s)

theorem KeepsTables.nothing : KeepsTables id := ⟨fun _ ↦ rfl, fun _ ↦ rfl, fun _ ↦ rfl, fun _ ↦ rfl⟩

/-- The calls that are there to change these tables. -/
def Call.Identity : Call → Prop
  | .googleCallback _ | .revokeSession | .completeProfile _ | .openDelegation _
  | .closeDelegation _ => True
  | _ => False

/-- What a commit of a call has done: it is accounted for, and of the tables that say who is who
only the calls change anything that are there for it. -/
structure Call.Commits (call : Call) (actor : Option RequestActor) (v : Trace Service) : Prop where
  explained : Explained (call.Word actor) v.met v.pending
  tables : call.Identity ∨ KeepsTables v.pending

/-- The route answers and commits only on the evidence `P`, and commits nothing if it fails. -/
def ServesOn (call : Call) (actor : Option RequestActor) (P : Trace Service → Prop) {α : Type}
    (route : ServiceTx α)
    (w : Trace Service) : Prop :=
  route.Traced (fun v ↦ P v ∧ call.Commits actor v) (fun _ v ↦ P v) (fun _ v ↦ v.committed = false) w

section ServesOn

variable {call : Call} {P P' : Trace Service → Prop} {α β : Type} {w : Trace Service}
  {actor : Option RequestActor}

theorem ServesOn.mono {p : ServiceTx α} (h : ∀ v, P v → P' v) (hp : ServesOn call actor P p w) :
    ServesOn call actor P' p w :=
  traced_mono (fun v hv ↦ ⟨h v hv.1, hv.2⟩) (fun _ v ↦ h v) (fun _ _ hv ↦ hv) hp

/-- What a route makes of its result does not matter. -/
theorem ServesOn.map {p : ServiceTx α} {f : α → ServiceTx β} (hf : ∀ a, ∃ b, f a = pure b)
    (hp : ServesOn call actor P p w) : ServesOn call actor P (p >>= f) w := by
  refine traced_bind (traced_mono (fun _ hv ↦ hv) (fun a v hv ↦ ?_) (fun _ _ hv ↦ hv) hp)
  obtain ⟨b, hb⟩ := hf a
  rw [hb]
  exact traced_pure hv

theorem servesOn_authenticated_bind {f : RequestActor → ServiceTx α} (hc : w.committed = false)
    (h : ∀ a ∈ actor, ServesOn call actor P (f a) w) : ServesOn call actor P (authenticated actor >>= f) w := by
  cases actor with
  | none => exact traced_throw hc
  | some a => exact h a rfl

theorem servesOn_check_bind {condition : Prop} [Decidable condition] {failure : Failure}
    {f : Unit → ServiceTx α} (hc : w.committed = false) (h : condition → ServesOn call actor P (f ()) w) :
    ServesOn call actor P (check condition failure >>= f) w := traced_bind (traced_require h hc)

theorem inDatabase_ensure {condition : Prop} [Decidable condition] {failure : Failure} :
    inDatabase (ensure condition failure) = check condition failure := within_fromExcept

theorem servesOn_ensure_bind {condition : Prop} [Decidable condition] {failure : Failure}
    {f : Unit → ServiceTx α} (hc : w.committed = false) (h : condition → ServesOn call actor P (f ()) w) :
    ServesOn call actor P (inDatabase (ensure condition failure) >>= f) w := by
  rw [inDatabase_ensure]
  exact servesOn_check_bind hc h

theorem servesOn_requireRequestActor_bind {roles : List Role} {f : RequestActor → ServiceTx α}
    (hc : w.committed = false) (h : ∀ a ∈ actor, a.actorType ∈ roles → ServesOn call actor P (f a) w) :
    ServesOn call actor P (requireRequestActor actor roles >>= f) w := by
  cases actor with
  | none => exact traced_throw hc
  | some a =>
    refine traced_bind (traced_bind (traced_pure (traced_bind ?_)))
    change (inDatabase (ensure _ _)).Traced _ _ _ _
    rw [inDatabase_ensure]
    exact traced_require (fun hrole ↦ traced_pure (h a rfl hrole)) hc

theorem servesOn_inDatabase {a : RequestActor} {R : List Database → Prop} {route : Tx α}
    (horder : a.InOrder) (hR : ∀ met, R (databases met) → a.Covered met) (hp : w.pending = id)
    (hc : w.committed = false) (h : Guards a.toActorContext R route) :
    ServesOn call actor (fun v ↦ R (databases v.met)) (inDatabase route) w := by
  refine traced_within (fun v u hv hu ↦ ?_) (fun _ v u hv hu ↦ ?_) (fun _ v u hv hu ↦ ?_)
    (w := ⟨id, databases w.met, w.begun, w.clock, false⟩) ⟨hp, rfl, rfl, rfl, hc⟩ (h _ rfl rfl)
  · obtain ⟨hu, hacts⟩ := hu
    rw [hv.met] at hu hacts
    have haccounts : Explained (call.Word actor) v.met (databasePart.modify u.pending) :=
      explained_of_actsAs horder (hR v.met hu) hacts
    rw [← hv.pending] at haccounts
    refine ⟨hu, haccounts, .inr ?_⟩
    rw [hv.pending]
    exact ⟨fun _ ↦ rfl, fun _ ↦ rfl, fun _ ↦ rfl, fun s ↦ hacts.delegations s.database⟩
  · rw [hv.met] at hu
    exact hu
  · exact hv.committed.trans hu

end ServesOn

/-! ## Operations on the whole store

Rules for the routes that are not routes of the database, in the style of the walks before.
-/

section Operations

variable {call : Call} {actor : Option RequestActor} {P : Trace Service → Prop} {α : Type}
  {w : Trace Service}

theorem ServesOn.since {p : ServiceTx α} (h : ServesOn call actor P p w) :
    ServesOn call actor (fun v ↦ w.Since v ∧ P v) p w :=
  traced_mono (fun _ hv ↦ ⟨⟨hv.1, hv.2.1⟩, hv.2.2⟩) (fun _ _ hv ↦ hv) (fun _ _ hv ↦ hv.2)
    (traced_since (.refl w) h)

/-- The walk through an operation, up to its commit. -/
def PassesOn (call : Call) (actor : Option RequestActor) (P : Trace Service → Prop)
    (operation : ServiceTx α)
    (w : Trace Service) : Prop :=
  operation.Traced (fun v ↦ P v ∧ call.Commits actor v) (fun _ v ↦ P v ∧ call.Commits actor v)
    (fun _ v ↦ v.committed = false) w

theorem servesOn_serviceTransaction {operation : ℤ → ServiceTx α} (hp : w.pending = id)
    (hc : w.committed = false) (hcommit : ∀ v, P v → P v.commit)
    (h : ∀ t w', w.Onward w' → w'.pending = id → w'.committed = false →
      PassesOn call actor P (operation t) w') :
    ServesOn call actor P (serviceTransaction operation) w := by
  refine traced_transaction fun t ht ↦ ?_
  refine traced_mono (fun _ hv ↦ hv) (fun _ v hv ↦ ⟨hv, hcommit v hv.1⟩) (fun _ _ hv ↦ hv) ?_
  exact h t _ (.now ht) hp hc

theorem passesOn_check_bind {β : Type} {condition : Prop} [Decidable condition] {failure : Failure}
    {f : Unit → ServiceTx β} (hc : w.committed = false) (h : condition → PassesOn call actor P (f ()) w) :
    PassesOn call actor P (check condition failure >>= f) w := traced_bind (traced_require h hc)

theorem passesOn_rest {operation : ServiceTx α} (hP : ∀ v, w.Onward v → P v) (hp : w.pending = id)
    (hc : w.committed = false) (h : operation.Writes (Explained (call.Word actor) w.met))
    (htables : call.Identity ∨ operation.Writes KeepsTables) : PassesOn call actor P operation w := by
  have hwalk := traced_of_writes (C := fun v ↦ P v ∧ call.Commits actor v) Explained.comp h (w := w)
    (hp ▸ Explained.nothing)
  rcases htables with hidentity | htables
  · refine traced_mono (fun _ h ↦ h) (fun _ v hv ↦ ⟨hP v hv.1, ?_, .inl hidentity⟩)
      (fun _ v hv ↦ hv.committed.trans hc) hwalk
    exact hv.2.mono hv.1.met.subset
  · refine traced_mono (fun _ h ↦ h.1) (fun _ v hv ↦ ⟨hP v hv.1.1, ?_, .inr hv.2.2⟩)
      (fun _ v hv ↦ hv.1.committed.trans hc) (traced_and hwalk
        (traced_of_writes (C := fun _ ↦ True) (fun _ _ ↦ KeepsTables.comp) htables
          (hp ▸ KeepsTables.nothing)))
    exact hv.1.2.mono hv.1.1.met.subset

theorem traced_inDatabase_reads {p : Tx α} (R : α → List Database → Prop)
    {C : Trace Service → Prop} {Q : α → Trace Service → Prop} {E : Failure → Trace Service → Prop}
    (hread : p.Writes (· = id)) (hp : w.pending = id)
    (hR : ∀ u : Trace Database, u.pending = id → u.committed = w.committed →
      p.Traced (fun _ ↦ True) (fun a u' ↦ R a u'.met) (fun _ _ ↦ True) u)
    (h : ∀ a w', w.Onward w' → w'.pending = id → R a (databases w'.met) → Q a w')
    (hE : ∀ e w', w.Onward w' → E e w') : (inDatabase p).Traced C Q E w := by
  have hwalk : (inDatabase p).Traced C (fun _ w' ↦ w.Onward w' ∧ w'.pending = id)
      (fun _ w' ↦ w.Onward w') w :=
    traced_of_writes (W := (· = id)) (fun _ _ hf hg ↦ by rw [hf, hg]; rfl)
      (writes_within (fun f hf ↦ by rw [hf]; rfl) hread) hp
  have hseen : (inDatabase p).Traced (fun _ ↦ True) (fun a w' ↦ R a (databases w'.met))
      (fun _ _ ↦ True) w := by
    refine traced_within (fun _ _ _ _ ↦ trivial) (fun a v u hv hu ↦ ?_) (fun _ _ _ _ _ ↦ trivial)
      (w := ⟨id, databases w.met, w.begun, w.clock, w.committed⟩) ⟨hp, rfl, rfl, rfl, rfl⟩
      (hR _ rfl rfl)
    rw [hv.met] at hu
    exact hu
  exact traced_mono (fun _ hv ↦ hv.1) (fun a v hv ↦ h a v hv.1.1 hv.1.2 hv.2)
    (fun e v hv ↦ hE e v hv.1) (traced_and hwalk hseen)

/-- Who files a grievance is entitled. -/
theorem passesOn_assertCitizenAuthority_bind {a : RequestActor} {citizenUserId : ℕ}
    {f : Unit → ServiceTx α} (hp : w.pending = id) (hc : w.committed = false)
    (h : ∀ w', w.Onward w' → w'.pending = id → a.Entitled (databases w'.met) citizenUserId →
      PassesOn call actor P (f ()) w') :
    PassesOn call actor P
      (inDatabase (assertCitizenAuthority a.toActorContext citizenUserId) >>= f) w := by
  refine traced_bind (traced_inDatabase_reads (fun _ met ↦ a.Entitled met citizenUserId)
    writes_assertCitizenAuthority hp (fun u hu _ ↦ ?_)
      (fun _ ↦ h) fun _ _ hw' ↦ hw'.committed.trans hc)
  exact traced_assertCitizenAuthority hu (fun _ _ _ hentitled ↦ hentitled) fun _ _ _ ↦ trivial

theorem writes_writeAudit_covered {a : RequestActor} {met : List Service} {input : AuditInput}
    (hcovered : a.Covered met) :
    (inDatabase (writeAudit a.toActorContext input)).Writes (Explained word met) := by
  refine writes_write (.insertAudit fun event hevent ↦ .inr ?_)
  rw [List.mem_singleton.mp hevent]
  exact AuditEvent.SignedBy.covered ⟨rfl, .inr ⟨rfl, rfl⟩⟩ hcovered

theorem writes_writeAudit_takenAtTheirWord {a : RequestActor} {met : List Service}
    {input : AuditInput} (ha : a ∈ actor) (hcall : call.AtTheirWord)
    (h : input.action ∈ takenAtTheirWord) :
    (inDatabase (writeAudit a.toActorContext input)).Writes (Explained (call.Word actor) met) := by
  refine writes_write (.insertAudit fun event hevent ↦ .inl ?_)
  rw [List.mem_singleton.mp hevent]
  exact ⟨hcall, h, a, ha, rfl, .inr ⟨rfl, rfl⟩⟩

end Operations

/-! ## Routes of their own -/

section Routes

variable {actor : Option RequestActor} {w : Trace Service}

theorem servesOn_matterStatus {config : LoadedConfig} {matterId : ℕ} (hp : w.pending = id)
    (hc : w.committed = false) :
    ServesOn (.matterStatus matterId) actor
      (fun v ↦ ∃ a ∈ actor, Call.Warrant a v.met (.matterStatus matterId))
      (withActor actor (matterStatus config · matterId)) w := by
  refine servesOn_authenticated_bind hc fun a ha ↦ traced_inDatabase_reads
    (fun _ met ↦ a.actorType = .admin ∨ a.EntitledToMatter met matterId) writes_matterStatus hp
    (fun u hu hcu ↦ ?_) (fun _ _ _ _ h ↦ ⟨a, ha, h⟩) fun _ _ hw' ↦ hw'.committed.trans hc
  exact traced_mono (fun _ _ ↦ trivial) (fun _ _ h ↦ h) (fun _ _ _ ↦ trivial)
    (guards_matterStatus u hu (hcu.trans hc))

theorem servesOn_readPayment {paymentId : ℕ} (hp : w.pending = id) (hc : w.committed = false) :
    ServesOn (.readPayment paymentId) actor
      (fun v ↦ ∃ a ∈ actor, Call.Warrant a v.met (.readPayment paymentId))
      (readPayment actor paymentId) w := by
  refine servesOn_requireRequestActor_bind hc fun a ha _ ↦ traced_bind (traced_snapshot fun s ↦ ?_)
  rw [hp, id]
  cases hpayment : s.payment paymentId with
  | none => exact traced_throw hc
  | some payment =>
    obtain ⟨hmem, hid⟩ := lookupBy_mem hpayment
    refine traced_bind (traced_inDatabase_reads
      (fun _ met ↦ a.AccessesMatter met payment.matterId) writes_assertMatterAccess hp
      (fun u hu hcu ↦ ?_) (fun _ w' hw' hp' hentitled ↦ traced_pure ?_)
      fun _ _ hw' ↦ hw'.committed.trans hc)
    · exact traced_mono (fun _ _ ↦ trivial) (fun _ _ h ↦ h) (fun _ _ _ ↦ trivial)
        (guards_assertMatterAccess u hu (hcu.trans hc))
    · exact ⟨a, ha, s, hw'.mem List.mem_cons_self, payment, hmem, hid, hentitled⟩

theorem servesOn_providerSlots {providerId : ℕ} (hc : w.committed = false) :
    ServesOn (.providerSlots providerId) actor
      (fun v ↦ ∃ a ∈ actor, Call.Warrant a v.met (.providerSlots providerId))
      (providerSlots actor providerId) w :=
  servesOn_requireRequestActor_bind hc fun a ha _ ↦ traced_pure ⟨a, ha, trivial⟩

/-- A route that is not available answers and commits nothing, so on whatever evidence. -/
theorem servesOn_unavailable {call : Call} {P : Trace Service → Prop} {roles : List Role}
    {failure : Failure} (hc : w.committed = false) :
    ServesOn call actor P (unavailable actor roles failure) w :=
  servesOn_requireRequestActor_bind hc fun _ _ _ ↦ traced_throw hc

theorem servesOn_openGrievance {body : GrievanceBody} (horder : ∀ a ∈ actor, a.InOrder)
    (hp : w.pending = id) (hc : w.committed = false) :
    ServesOn (.openGrievance body) actor (fun v ↦ ∃ a ∈ actor, Call.Warrant a v.met (.openGrievance body))
      (openGrievance actor body) w := by
  refine servesOn_requireRequestActor_bind hc fun a ha _ ↦ servesOn_ensure_bind hc fun _ ↦ ?_
  refine servesOn_serviceTransaction hp hc (fun _ hv ↦ hv) fun t w₁ _ hp₁ hc₁ ↦ ?_
  refine passesOn_assertCitizenAuthority_bind hp₁ hc₁ fun w₂ hw₂ hp₂ hentitled ↦ ?_
  refine passesOn_rest (fun v hv ↦ ⟨a, ha, ?_⟩) hp₂ (hw₂.committed.trans hc₁) ?_ (.inr ?_)
  · exact hentitled.mono (databases_subset hv.met.subset)
  · refine writes_bind (writes_within (fun _ h ↦ h) writes_ensure) fun _ ↦ ?_
    refine writes_bind writes_nextval fun n ↦ ?_
    refine writes_bind (writes_write (.other (fun _ ↦ rfl) fun _ ↦ rfl)) fun _ ↦ ?_
    exact writes_bind (writes_writeAudit_covered (covered_of_entitled (horder a ha) hentitled))
      fun _ ↦ writes_pure
  · have hkeeps {f : Service → Service} (haccounts : ∀ s, (f s).accounts = s.accounts)
        (hsessions : ∀ s, (f s).sessions = s.sessions)
        (hprofiles : ∀ s, (f s).profiles = s.profiles)
        (hdelegations : ∀ s, (f s).database.delegations = s.database.delegations) : KeepsTables f :=
      ⟨haccounts, hsessions, hprofiles, hdelegations⟩
    refine writes_bind (writes_within (fun _ h ↦ h) writes_ensure) fun _ ↦ ?_
    refine writes_bind writes_nextval fun n ↦ ?_
    refine writes_bind (writes_write (hkeeps (fun _ ↦ rfl) (fun _ ↦ rfl) (fun _ ↦ rfl) fun _ ↦ rfl))
      fun _ ↦ ?_
    exact writes_bind (writes_write (hkeeps (fun _ ↦ rfl) (fun _ ↦ rfl) (fun _ ↦ rfl) fun _ ↦ rfl))
      fun _ ↦ writes_pure

theorem servesOn_openDelegation {body : DelegationBody} (hp : w.pending = id)
    (hc : w.committed = false) :
    ServesOn (.openDelegation body) actor
      (fun v ↦ ∃ a ∈ actor, Call.Warrant a v.met (.openDelegation body))
      (openDelegation actor body) w := by
  refine servesOn_requireRequestActor_bind hc fun a ha hrole ↦ servesOn_ensure_bind hc fun _ ↦ ?_
  refine servesOn_serviceTransaction hp hc (fun _ hv ↦ hv) fun t w₁ _ hp₁ hc₁ ↦ ?_
  refine traced_bind (traced_snapshot fun s ↦ passesOn_check_bind hc₁ fun hgrant ↦ ?_)
  rw [hp₁] at hgrant
  refine traced_bind ?_
  rw [ensureText, inDatabase_ensure]
  refine traced_require (fun _ ↦ passesOn_check_bind hc₁ fun hself ↦ ?_) hc₁
  refine passesOn_rest
    (fun v hv ↦ ⟨a, ha, List.mem_singleton.mp hrole, hself, s, ?_, hgrant⟩) hp₁ hc₁ ?_
    (.inl trivial)
  · exact hv.mem List.mem_cons_self
  · refine writes_bind writes_nextval fun n ↦ ?_
    refine writes_bind (writes_write (.other (fun _ ↦ rfl) fun _ ↦ rfl)) fun _ ↦ ?_
    exact writes_bind (writes_writeAudit_takenAtTheirWord ha trivial (by simp [takenAtTheirWord]))
      fun _ ↦ writes_pure

theorem servesOn_closeDelegation {delegationId : ℕ} (hp : w.pending = id)
    (hc : w.committed = false) :
    ServesOn (.closeDelegation delegationId) actor
      (fun v ↦ ∃ a ∈ actor, Call.Warrant a v.met (.closeDelegation delegationId))
      (closeDelegation actor delegationId) w := by
  refine servesOn_requireRequestActor_bind hc fun a ha hrole ↦ ?_
  refine servesOn_serviceTransaction hp hc (fun _ hv ↦ hv) fun t w₁ _ hp₁ hc₁ ↦ ?_
  refine traced_bind (traced_selectForUpdate fun w₂ s hw₂ hp₂ hs ↦ ?_)
  have hc₂ := hw₂.committed.trans hc₁
  rw [hp₁, id]
  cases hopen : s.openDelegation delegationId a.actorId with
  | none => exact traced_throw hc₂
  | some delegation =>
    have hfound := List.find?_some hopen
    simp only [Bool.and_eq_true, decide_eq_true_eq, Option.isNone_iff_eq_none] at hfound
    refine passesOn_rest (fun v hv ↦ ⟨a, ha, List.mem_singleton.mp hrole, s, hv.mem hs, delegation,
      List.mem_of_find?_eq_some hopen, hfound.1.1, hfound.1.2, hfound.2⟩) (hp₂.trans hp₁) hc₂ ?_
      (.inl trivial)
    refine writes_bind writes_snapshot fun _ ↦ writes_bind writes_fromExcept fun _ ↦ ?_
    refine writes_bind (writes_write (.other (fun _ ↦ rfl) fun _ ↦ rfl)) fun _ ↦ ?_
    exact writes_bind (writes_writeAudit_takenAtTheirWord ha trivial (by simp [takenAtTheirWord]))
      fun _ ↦ writes_pure

theorem writes_googleAccount {W : (Service → Service) → Prop}
    (hW : ∀ row, W (Service.insertAccount row)) {email : JsString} :
    (googleAccount email).Writes W := by
  refine writes_bind (writes_bind writes_fromExcept fun _ ↦ writes_bind writes_nextval fun n ↦ ?_)
    fun id ↦ ?_
  · refine writes_bind writes_snapshot fun s ↦ ?_
    cases s.accountOf email with
    | some _ => exact writes_pure
    | none =>
      refine writes_bind writes_lock fun s ↦ ?_
      cases s.accountOf email with
      | some _ => exact writes_pure
      | none => exact writes_bind (writes_write (hW _)) fun _ ↦ writes_pure
  · cases id with
    | some _ => exact writes_pure
    | none =>
      refine writes_bind writes_snapshot fun s ↦ ?_
      cases s.accountOf email with
      | none => exact writes_throw
      | some _ => exact writes_pure

theorem writes_insertSession {W : (Service → Service) → Prop}
    (hW : ∀ row, W (Service.insertSession row)) {userId : ℕ} {digest : Digest}
    {timestamp expiresAt : ℤ} : (insertSession userId digest timestamp expiresAt).Writes W := by
  refine writes_bind writes_nextval fun n ↦ writes_bind writes_fromExcept fun _ ↦ ?_
  refine writes_bind writes_lock fun _ ↦ writes_bind writes_fromExcept fun _ ↦ ?_
  exact writes_bind (writes_write (hW _)) fun _ ↦ writes_pure

theorem writes_issueInTransaction {met : List Service} {email token : JsString} {digest : Digest}
    {ttlHours : ℤ} {requestId : String} {timestamp : ℤ} :
    (issueInTransaction email token digest ttlHours requestId timestamp).Writes
      (Explained word met) := by
  have hother {f : Service → Service}
    (haudit : ∀ s, (f s).database.auditEvents = s.database.auditEvents)
      (hneeds : ∀ s, (f s).database.needs = s.database.needs) : Explained word met f :=
    .other haudit hneeds
  refine writes_bind (writes_googleAccount fun _ ↦ hother (fun _ ↦ rfl) fun _ ↦ rfl) fun found ↦ ?_
  refine writes_bind (writes_write (hother (fun _ ↦ rfl) fun _ ↦ rfl)) fun _ ↦ ?_
  refine writes_bind (fun _ ↦ trivial) fun _ ↦ ?_
  refine writes_bind (writes_insertSession fun _ ↦ hother (fun _ ↦ rfl) fun _ ↦ rfl) fun n ↦ ?_
  refine writes_bind
    (writes_writeAudit_covered (a := ⟨⟨found.1, .citizen, [], requestId, none, none⟩, none⟩)
      fun _ h ↦ nomatch h) fun _ ↦ writes_pure

theorem fetchGoogleVerifiedEmail_of_ok {tokenResponse userinfoResponse : Option FetchResponse}
    {email : JsString}
    (h : (do
      let _ ← exchangeGoogleAuthorizationCode tokenResponse
      fetchGoogleVerifiedEmail userinfoResponse) = .ok email) :
    fetchGoogleVerifiedEmail userinfoResponse = .ok email := by
  cases htoken : exchangeGoogleAuthorizationCode tokenResponse with
  | error e =>
    rw [htoken] at h
    cases h
  | ok token =>
    rw [htoken] at h
    exact h

theorem servesOn_googleCallback {server : Server} {requestId : String} {callback : GoogleCallback}
    (hp : w.pending = id) (hc : w.committed = false) (hbegun : w.begun ≤ w.clock) :
    ServesOn (.googleCallback callback) actor (server.SignsIn callback)
      (googleCallback server.hmacSha256 server.config requestId callback) w := by
  refine servesOn_check_bind hc fun _ ↦ servesOn_check_bind hc fun _ ↦ ?_
  refine traced_bind (traced_fromExcept (fun pepper hpepper ↦ ?_) fun _ _ ↦ hc)
  refine traced_bind (traced_bind (traced_now fun t ht ↦ traced_pure ?_))
  refine servesOn_check_bind hc fun hstate ↦ ?_
  dsimp only
  split
  next => exact traced_throw hc
  next email hemail =>
    have hsigns : server.SignsIn callback { w with clock := t } :=
      ⟨⟨pepper, hpepper, t / 1000, Int.ediv_le_ediv (by decide) (Int.le_trans hbegun ht), hstate⟩,
        email, fetchGoogleVerifiedEmail_of_ok hemail⟩
    refine servesOn_serviceTransaction hp hc (fun _ hv ↦ hv) fun t' w₁ hw₁ hp₁ hc₁ ↦ ?_
    refine passesOn_rest (fun v hv ↦ ?_) hp₁ hc₁ writes_issueInTransaction (.inl trivial)
    have hsame : v.begun = w.begun := hv.begun.trans hw₁.begun
    rw [Server.SignsIn, hsame]
    exact hsigns

theorem servesOn_revokeSession {server : Server} {headers : Headers} (hp : w.pending = id)
    (hc : w.committed = false) :
    ServesOn .revokeSession actor (fun v ↦ ∃ a ∈ actor, Call.Warrant a v.met .revokeSession)
      (revokeSession server.hmacSha256 server.config headers actor) w := by
  refine servesOn_authenticated_bind hc fun a ha ↦ servesOn_check_bind hc fun _ ↦ ?_
  cases bearerToken headers with
  | none => exact traced_throw hc
  | some token =>
    refine servesOn_serviceTransaction hp hc (fun _ hv ↦ hv) fun t w₁ _ hp₁ hc₁ ↦ ?_
    refine passesOn_rest (fun _ _ ↦ ⟨a, ha, trivial⟩) hp₁ hc₁ (writes_bind ?_ fun found ↦ ?_)
      (.inl trivial)
    · refine writes_bind writes_snapshot fun s ↦ ?_
      split
      · exact writes_pure
      · exact writes_bind writes_lock fun _ ↦ writes_pure
    · cases found with
      | none => exact writes_pure
      | some session =>
        refine writes_bind writes_fromExcept fun _ ↦ ?_
        refine writes_bind (writes_write (.other (fun _ ↦ rfl) fun _ ↦ rfl)) fun _ ↦ ?_
        exact writes_bind (writes_writeAudit_takenAtTheirWord ha trivial (by simp [takenAtTheirWord]))
          fun _ ↦ writes_pure

theorem servesOn_completeProfile {body : ProfileBody} (horder : ∀ a ∈ actor, a.InOrder)
    (hp : w.pending = id) (hc : w.committed = false) :
    ServesOn (.completeProfile body) actor
      (fun v ↦ ∃ a ∈ actor, Call.Warrant a v.met (.completeProfile body))
      (completeProfile actor body) w := by
  refine servesOn_requireRequestActor_bind hc fun a ha hrole ↦ ?_
  have hcitizen := List.mem_singleton.mp hrole
  -- the body stays what it is
  generalize body.trimmed = body
  refine servesOn_ensure_bind hc fun _ ↦ ?_
  refine servesOn_serviceTransaction hp hc (fun _ hv ↦ hv) fun t w₁ _ hp₁ hc₁ ↦ ?_
  refine passesOn_rest (fun _ _ ↦ ⟨a, ha, hcitizen⟩) hp₁ hc₁ ?_ (.inl trivial)
  refine writes_bind writes_selectForUpdate fun found ↦ ?_
  cases found with
  | none => exact writes_throw
  | some account =>
    refine writes_bind (writes_within (fun _ h ↦ h) writes_ensure) fun _ ↦ ?_
    refine writes_bind (writes_write (.other (fun _ ↦ rfl) fun _ ↦ rfl)) fun _ ↦ ?_
    refine writes_bind (writes_write (.other (fun _ ↦ rfl) fun _ ↦ rfl)) fun _ ↦ ?_
    exact writes_writeAudit_covered ((horder a ha).covered (by rw [hcitizen]; decide))

theorem servesOn_readProfile (hc : w.committed = false) :
    ServesOn .readProfile actor (fun v ↦ ∃ a ∈ actor, Call.Warrant a v.met .readProfile)
      (readProfile actor) w :=
  servesOn_requireRequestActor_bind hc fun a ha hrole ↦
    traced_bind (traced_snapshot fun _ ↦ traced_pure ⟨a, ha, List.mem_singleton.mp hrole⟩)

theorem servesOn_me (hc : w.committed = false) :
    ServesOn .me actor (fun v ↦ ∃ a ∈ actor, Call.Warrant a v.met .me) (me actor) w :=
  servesOn_authenticated_bind hc fun a ha ↦
    traced_bind (traced_snapshot fun _ ↦ traced_bind (traced_snapshot fun _ ↦
      traced_bind (traced_snapshot fun _ ↦ traced_pure ⟨a, ha, trivial⟩)))

end Routes

/-! ## Whose delegation is covered

A warrant of an actor with a delegation contains that the delegation was seen to be open. The
calls whose warrant does not are listed by `Call.Own`.
-/

section Covered

variable {actor : RequestActor} {met : List Service}

theorem covered_of_entitledToNeed {needId : ℕ} (horder : actor.InOrder)
    (h : actor.EntitledToNeed (databases met) needId) : actor.Covered met := by
  obtain ⟨_, -, _, -, -, hentitled⟩ := h
  exact covered_of_entitled horder hentitled

theorem covered_of_grantedRoster {rosterId : ℕ} (horder : actor.InOrder)
    (h : actor.GrantedRoster (databases met) rosterId) : actor.Covered met :=
  horder.covered (by rw [h.1]; decide)

theorem covered_of_providesBooking {bookingId : ℕ} (horder : actor.InOrder)
    (h : actor.ProvidesBooking (databases met) bookingId) : actor.Covered met :=
  horder.covered (by rw [h.1]; decide)

theorem covered_of_entitledToBooking {bookingId : ℕ} (horder : actor.InOrder)
    (h : actor.EntitledToBooking (databases met) bookingId) : actor.Covered met := by
  obtain ⟨_, -, _, -, -, _, -, _, -, -, hentitled⟩ := h
  exact covered_of_entitled horder hentitled

theorem covered_of_entitledToMatter {matterId : ℕ} (horder : actor.InOrder)
    (h : actor.EntitledToMatter (databases met) matterId) : actor.Covered met := by
  rcases h with ⟨hrole, -⟩ | ⟨_, -, _, -, -, ⟨hrole, -⟩ | hentitled⟩
  · exact horder.covered hrole
  · exact horder.covered hrole
  · exact covered_of_entitled horder hentitled

/-- The calls that look at no delegation: those that concern nobody but the caller, and the slots of
a provider. -/
def Call.Own : Call → Prop
  | .googleCallback _ | .revokeSession | .me | .openDelegation _ | .closeDelegation _
  | .providerSlots _ => True
  | _ => False

/-- Whoever has what another call needs acts under a delegation that was seen to be open, if under
any. -/
theorem covered_of_warrant {call : Call} (hcall : ¬ call.Own) (horder : actor.InOrder)
    (h : call.Warrant actor met) : actor.Covered met := by
  cases call with
  | createNeed _ | openGrievance _ => exact covered_of_entitled horder h
  | referral _ | directory _ _ | select _ _ => exact covered_of_entitledToNeed horder h
  | rotate _ _ => exact h.elim (covered_of_entitledToNeed horder) (covered_of_grantedRoster horder)
  | accept _ | decline _ _ => exact covered_of_providesBooking horder h
  | cancel _ _ =>
    exact h.elim (covered_of_providesBooking horder) (covered_of_entitledToBooking horder)
  | quote _ => exact horder.covered (by rw [h.1]; decide)
  | matterStatus _ =>
    exact h.elim (fun hrole ↦ horder.covered (by rw [hrole]; decide))
      (covered_of_entitledToMatter horder)
  | readPayment _ =>
    obtain ⟨_, -, _, -, -, hentitled⟩ := h
    rcases hentitled with ⟨hrole, -⟩ | ⟨_, -, _, -, -, hentitled⟩
    · exact horder.covered (by rw [hrole]; decide)
    · exact covered_of_entitled horder hentitled
  | createOwnProvider _ | completeProfile _ | readProfile =>
    have hrole : actor.actorType = .citizen := h
    exact horder.covered (by rw [hrole]; decide)
  | createProvider _ _ =>
    refine horder.covered fun hrole ↦ ?_
    rcases h with hadmin | ⟨hprovider, -⟩
    · exact absurd (hadmin.symm.trans hrole) (by decide)
    · exact absurd (hprovider.symm.trans hrole) (by decide)
  | createBooking | closeMatter _ | createIntent | acknowledgeOffline _ => exact h.elim
  | googleCallback _ | revokeSession | me | openDelegation _ | closeDelegation _
  | providerSlots _ => exact absurd trivial hcall

end Covered

/-! ## Every call

One case for each call, by the walks above, and the hook in front of them.
-/

def Server.Passes (server : Server) (actor : Option RequestActor) (call : Call)
    (v : Trace Service) : Prop :=
  (∃ callback, call = .googleCallback callback ∧ server.SignsIn callback v) ∨
    ∃ a ∈ actor, call.Warrant a v.met

section Calls

variable {server : Server} {headers : Headers} {actor : Option RequestActor} {w : Trace Service}

theorem servesOn_call {α : Type} {route : ActorContext → Tx α} {f : α → ServiceTx ServiceResponse}
    {call : Call} {R : ActorContext → List Database → Prop} (horder : ∀ a ∈ actor, a.InOrder)
    (hp : w.pending = id) (hc : w.committed = false) (hf : ∀ x, ∃ b, f x = pure b)
    (hcall : ¬ call.Own)
    (hguards : ∀ a : ActorContext, (a.actorType = .operator ∨ a.onBehalfOfCitizenId = none) →
      Guards a (R a) (route a))
    (hwarrant : ∀ (a : RequestActor) met, R a.toActorContext (databases met) → call.Warrant a met) :
    ServesOn call actor (server.Passes actor call) (withActor actor route >>= f) w := by
  refine ServesOn.map hf (servesOn_authenticated_bind hc fun a ha ↦ ?_)
  refine (servesOn_inDatabase (horder a ha) (fun met hR ↦ ?_) hp hc
    (hguards a.toActorContext ?_)).mono
    fun v hv ↦ .inr ⟨a, ha, hwarrant a v.met hv⟩
  · exact covered_of_warrant hcall (horder a ha) (hwarrant a met hR)
  · exact (horder a ha).elim (fun h ↦ .inr h.1) fun h ↦ .inl h.1

theorem servesOn_route (horder : ∀ a ∈ actor, a.InOrder) (hp : w.pending = id)
    (hc : w.committed = false) (hbegun : w.begun ≤ w.clock) (call : Call) :
    ServesOn call actor (server.Passes actor call) (server.route headers actor call) w := by
  have hwarrant (v : Trace Service) (h : ∃ a ∈ actor, call.Warrant a v.met) :
      server.Passes actor call v := .inr h
  -- the routes on the database by their guards, the others by their own walks
  cases call with
  | createNeed body =>
    exact servesOn_call horder hp hc (fun _ ↦ ⟨_, rfl⟩) id
      (fun _ _ ↦ guards_createNeed) fun _ _ h ↦ h
  | referral needId =>
    exact servesOn_call horder hp hc (fun _ ↦ ⟨_, rfl⟩) id (fun _ _ ↦ guards_referral) fun _ _ h ↦ h
  | directory needId query =>
    exact servesOn_call horder hp hc (fun _ ↦ ⟨_, rfl⟩) id
      (fun _ _ ↦ guards_directory) fun _ _ h ↦ h
  | select needId providerId =>
    exact servesOn_call horder hp hc (fun _ ↦ ⟨_, rfl⟩) id (fun _ _ ↦ guards_select) fun _ _ h ↦ h
  | rotate needId rosterId =>
    exact servesOn_call horder hp hc (fun _ ↦ ⟨_, rfl⟩) id (fun _ _ ↦ guards_rotate) fun _ _ h ↦ h
  | accept bookingId =>
    exact servesOn_call horder hp hc (fun _ ↦ ⟨_, rfl⟩) id (fun _ _ ↦ guards_accept) fun _ _ h ↦ h
  | decline bookingId reasonCode =>
    exact servesOn_call horder hp hc (fun _ ↦ ⟨_, rfl⟩) id (fun _ _ ↦ guards_decline) fun _ _ h ↦ h
  | cancel bookingId reasonCode =>
    exact servesOn_call horder hp hc (fun _ ↦ ⟨_, rfl⟩) id
      (fun _ ha ↦ guards_cancel ha) fun _ _ h ↦ h
  | quote body =>
    exact servesOn_call horder hp hc (fun _ ↦ ⟨_, rfl⟩) id (fun _ _ ↦ guards_quote) fun _ _ h ↦ h
  | matterStatus matterId =>
    exact (ServesOn.map (fun _ ↦ ⟨_, rfl⟩) (servesOn_matterStatus hp hc)).mono hwarrant
  | readPayment paymentId =>
    exact (ServesOn.map (fun _ ↦ ⟨_, rfl⟩) (servesOn_readPayment hp hc)).mono hwarrant
  | providerSlots providerId =>
    exact (ServesOn.map (fun _ ↦ ⟨_, rfl⟩) (servesOn_providerSlots hc)).mono hwarrant
  | createBooking => exact ServesOn.map (fun _ ↦ ⟨_, rfl⟩) (servesOn_unavailable hc)
  | closeMatter matterId => exact ServesOn.map (fun _ ↦ ⟨_, rfl⟩) (servesOn_unavailable hc)
  | createIntent => exact ServesOn.map (fun _ ↦ ⟨_, rfl⟩) (servesOn_unavailable hc)
  | acknowledgeOffline paymentId => exact ServesOn.map (fun _ ↦ ⟨_, rfl⟩) (servesOn_unavailable hc)
  | openGrievance body =>
    exact (ServesOn.map (fun _ ↦ ⟨_, rfl⟩) (servesOn_openGrievance horder hp hc)).mono hwarrant
  | openDelegation body =>
    exact (ServesOn.map (fun _ ↦ ⟨_, rfl⟩) (servesOn_openDelegation hp hc)).mono hwarrant
  | closeDelegation delegationId =>
    exact (ServesOn.map (fun _ ↦ ⟨_, rfl⟩) (servesOn_closeDelegation hp hc)).mono hwarrant
  | createOwnProvider body =>
    exact servesOn_call horder hp hc (fun _ ↦ ⟨_, rfl⟩) id
      (fun _ _ ↦ guards_createOwnProvider) fun _ _ h ↦ h
  | createProvider userId body =>
    exact servesOn_call horder hp hc (fun _ ↦ ⟨_, rfl⟩) id
      (fun _ _ ↦ guards_createProvider) fun _ _ h ↦ h
  | googleCallback callback =>
    exact (ServesOn.map (fun _ ↦ ⟨_, rfl⟩) (servesOn_googleCallback hp hc hbegun)).mono
      fun v hv ↦ .inl ⟨callback, rfl, hv⟩
  | revokeSession =>
    exact (ServesOn.map (fun _ ↦ ⟨_, rfl⟩) (servesOn_revokeSession hp hc)).mono hwarrant
  | completeProfile body =>
    exact (ServesOn.map (fun _ ↦ ⟨_, rfl⟩) (servesOn_completeProfile horder hp hc)).mono hwarrant
  | readProfile => exact (ServesOn.map (fun _ ↦ ⟨_, rfl⟩) (servesOn_readProfile hc)).mono hwarrant
  | me => exact (ServesOn.map (fun _ ↦ ⟨_, rfl⟩) (servesOn_me hc)).mono hwarrant

/-- What a request commits: it is permitted, and accounted for. -/
structure Server.Commits (server : Server) (request : HttpRequest) (w : Trace Service) : Prop where
  permits : server.Permits request w
  commits : ∃ actor : Option RequestActor, (∀ a ∈ actor, server.Authentic request.headers a w) ∧
    request.call.Commits actor w

theorem Server.Commits.tables {request : HttpRequest} (h : server.Commits request w) :
    request.call.Identity ∨ KeepsTables w.pending := by
  obtain ⟨_, -, hcommits⟩ := h.commits
  exact hcommits.tables

/-- **Every request is served on evidence**, whatever stores its statements meet. -/
theorem traced_http {request : HttpRequest} {t : ℤ} :
    (server.program (.http request)).Traced (server.Commits request)
      (fun _ w ↦ server.Permits request w) (fun _ w ↦ w.committed = false) (.start t) := by
  refine traced_bind (traced_onRequest rfl (Int.le_refl _) (fun actor w hw hp hactor hpass ↦ ?_)
    fun _ _ hw ↦ hw.committed)
  have hbegun : w.begun ≤ w.clock := hw.begun ▸ hw.clock
  have hroute : ServesOn request.call actor (server.Passes actor request.call)
      (server.route request.headers actor request.call) w :=
    servesOn_route (fun a ha ↦ (hactor a ha).inOrder) hp hw.committed hbegun request.call
  have hpermits (v : Trace Service) (hv : w.Since v ∧ server.Passes actor request.call v) :
      server.Permits request v := by
    refine hv.2.imp_right fun ⟨a, ha, hwarrant⟩ ↦ ⟨a, (hactor a ha).mono hv.1, ?_, hwarrant⟩
    exact hpass.imp_right fun h ↦ h a ha
  refine traced_mono (fun v hv ↦ ⟨hpermits v hv.1, actor, fun a ha ↦ ?_, hv.2⟩)
    (fun _ v hv ↦ hpermits v hv) (fun _ _ hv ↦ hv) hroute.since
  exact (hactor a ha).mono hv.1.1

/-- What is maintained is accounted for, and leaves the tables alone that say who is who. -/
theorem traced_maintain {change : Database → Database} {events : List AuditEvent} {t : ℤ} :
    (server.program (.maintain change events)).Traced
      (fun w ↦ Explained (fun _ ↦ False) w.met w.pending ∧ KeepsTables w.pending) (fun _ _ ↦ True)
      (fun _ w ↦ w.committed = false) (.start t) := by
  have hcommit (met : List Service) :
    Explained (fun _ ↦ False) met (databasePart.modify (Database.maintain change events)) ∧
      KeepsTables (databasePart.modify (Database.maintain change events)) := by
    refine ⟨⟨fun s ↦ ⟨_, rfl, fun event hevent ↦ .inr ?_⟩, fun s need hneed ↦ ?_⟩, ?_⟩
    · obtain ⟨_, -, rfl⟩ := List.mem_map.mp hevent
      exact fun _ h ↦ nomatch h
    · exact .inl ⟨s, List.mem_cons_self, need, hneed, rfl, rfl⟩
    · exact ⟨fun _ ↦ rfl, fun _ ↦ rfl, fun _ ↦ rfl, fun _ ↦ rfl⟩
  have hdatabase : (withTransaction fun _ ↦ write (Database.maintain change events)).Traced
      (fun u ↦ u.pending = Database.maintain change events) (fun _ _ ↦ True)
      (fun _ u ↦ u.committed = false) (.start t) :=
    traced_transaction fun t' _ ↦ traced_write ⟨rfl, trivial⟩
  refine traced_bind (traced_within (fun v u hv hu ↦ ?_) (fun _ v u hv hu ↦ ?_)
    (fun _ v u hv hu ↦ hv.committed.trans hu) ⟨rfl, rfl, rfl, rfl, rfl⟩ hdatabase)
  · rw [hv.pending, hu]
    exact hcommit v.met
  · exact traced_pure trivial

end Calls

end Nayasetu
