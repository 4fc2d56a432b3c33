import Nayasetu.Identity.Runs

/-!
# On whose behalf

Who touches what belongs to a citizen, and what the audit log says of it.

A request about something that belongs to a citizen is served to that citizen, to an operator who
names the citizen and whose delegation was seen to be open, and, for the status of a matter, to the
user of its provider (`object_authority`).

The audit rows of such requests name a delegation of their actor, for the citizen they name. This
is not so of the three routes that take the headers at their word: an operator who opens or closes
a delegation or signs out may name the delegation of somebody else (`audit_misattributed`). In a run
in which nobody does that every row is attributed rightly (`audit_attributed`).
-/

namespace Nayasetu

open Values RowLock RowLock.Discipline Collections

/-! ## What belongs to a citizen -/

section Objects

variable {actor : RequestActor} {met : List Service}

end Objects

section Runs

variable {server : Server} {store : Service} {clock : ℤ} {drawn : ℕ}
  {now moment : List (Action ServiceRequest)} {c c₁ : ServiceConfig} {i : ℕ}
  {u : ServiceSession}

end Runs

/-- If the row names a delegation, it is one of the actor of the row, for the citizen of the row. -/
def AuditEvent.Attributed (event : AuditEvent) (s : Service) : Prop :=
  ∀ id ∈ event.delegationId, ∃ delegation ∈ s.database.delegations, delegation.id = id ∧
    delegation.operatorUserId = event.actorId ∧
      event.onBehalfOfUserId = some delegation.citizenUserId

/-- The audit log names delegations only of those who acted, for those they acted for. -/
def Service.Attributed (s : Service) : Prop := ∀ event ∈ s.database.auditEvents, event.Attributed s

instance (event : AuditEvent) (s : Service) : Decidable (event.Attributed s) := by
  unfold AuditEvent.Attributed
  infer_instance

instance (s : Service) : Decidable s.Attributed := by
  unfold Service.Attributed
  infer_instance

/-- The request is one of the user, by its header or by the session of its token. -/
def Server.ComesFrom (server : Server) (headers : Headers) (s : Service) (userId : ℕ) : Prop :=
  (server.config.authMode = .header ∧ headers.actorId = .uuid userId) ∨
    (server.config.authMode = .session ∧ ∃ digest ∈ server.tokenDigest headers,
      ∃ session ∈ s.sessions, session.tokenDigest = digest ∧ session.userId = userId)

/-- If the headers name a delegation, it is one of the user they come from, for the citizen they
name. -/
def Server.NamesOwn (server : Server) (headers : Headers) (s : Service) : Prop :=
  match headers.delegationId with
  | .uuid id => ∃ delegation ∈ s.database.delegations, delegation.id = id ∧
      headers.onBehalfOfCitizenId = .uuid delegation.citizenUserId ∧
        server.ComesFrom headers s delegation.operatorUserId
  | _ => True

/-- A commit of a request that opens or closes a delegation or signs out names no other delegation
than one of its own. -/
def Server.KeepsToOwn (server : Server) (e : Entry Service ServiceRequest) : Prop :=
  match e.request with
  | .http request => request.call.AtTheirWord → server.NamesOwn request.headers e.before
  | .maintain _ _ => True

instance (server : Server) (headers : Headers) (s : Service) :
    Decidable (server.NamesOwn headers s) := by
  unfold Server.NamesOwn Server.ComesFrom
  cases headers.delegationId <;> infer_instance

instance (call : Call) : Decidable call.AtTheirWord := by
  cases call <;> first | exact isTrue trivial | exact isFalse id

instance (server : Server) (e : Entry Service ServiceRequest) :
    Decidable (server.KeepsToOwn e) := by
  unfold Server.KeepsToOwn
  cases e.request <;> infer_instance

section Attributed

variable {server : Server} {headers : Headers} {actor : RequestActor} {s s' : Service}
  {event : AuditEvent}

theorem AuditEvent.Attributed.later (hs : s.Distinct) (hlater : s.Later s')
    (h : event.Attributed s) : event.Attributed s' := by
  intro id hid
  obtain ⟨delegation, hmem, rfl, hoperator, hcitizen⟩ := h id hid
  obtain ⟨later, hmem', hsame⟩ := hlater.exists_delegation hs hmem
  obtain ⟨hsameId, hsameOperator, hsameCitizen⟩ := hsame.parties
  refine ⟨later, hmem', hsameId, hsameOperator.trans hoperator, ?_⟩
  rw [hcitizen, hsameCitizen]

theorem AuditEvent.NamesOpen.attributed {id : ℕ} (h : event.NamesOpen id s)
    (hid : id ∈ event.delegationId) : event.Attributed s := by
  intro id' hid'
  obtain rfl := Option.some.inj (hid.symm.trans hid')
  obtain ⟨delegation, hmem, hsame, -, hoperator, hcitizen⟩ := h
  exact ⟨delegation, hmem, hsame, hoperator, hcitizen⟩

/-- The user a request comes from is its actor. -/
theorem Server.Authentic.comesFrom {w : Trace Service} (h : server.Authentic headers actor w)
    (hs : s.Distinct) (hmet : ∀ s' ∈ w.met, s'.Distinct ∧ s'.Later s) {userId : ℕ}
    (hfrom : server.ComesFrom headers s userId) : userId = actor.actorId := by
  rcases hfrom with ⟨hmode, hid⟩ | ⟨hmode, digest, hdigest, session, hsession, hsame, huser⟩
  · rcases h.source with ⟨-, hactor⟩ | ⟨hmode', -⟩
    · exact IdHeader.uuid.inj (hid.symm.trans (actorFromRequest_actorId hactor))
    · exact absurd (hmode.symm.trans hmode') (by decide)
  · rcases h.source with ⟨hmode', -⟩ | ⟨-, digest', hdigest', s', hs', ⟨_, -, row, hrow, hlive,
      hid⟩, -⟩
    · exact absurd (hmode'.symm.trans hmode) (by decide)
    · obtain rfl := Option.some.inj (hdigest.symm.trans hdigest')
      obtain ⟨hdistinct', hlater⟩ := hmet s' hs'
      obtain ⟨later, hmem, hkept⟩ := hlater.exists_session hdistinct' hrow
      have hsameRow : session = later := List.inj_on_of_nodup_map hs.digests hsession hmem
        (hsame.trans (hlive.1.symm.trans hkept.tokenDigest_eq.symm))
      rw [← huser, hsameRow, hkept.userId_eq, hid]

/-- A row that says what the headers say is attributed rightly if they name a delegation of their
own. -/
theorem AuditEvent.SignedBy.attributed {w : Trace Service}
    (hsigned : event.SignedBy actor.toActorContext) (h : server.Authentic headers actor w)
    (hs : s.Distinct) (hmet : ∀ s' ∈ w.met, s'.Distinct ∧ s'.Later s)
    (hown : server.NamesOwn headers s) : event.Attributed s := by
  intro id hid
  obtain ⟨hactor, hnone | ⟨hdelegation, hcitizen⟩⟩ := hsigned
  · rw [hnone] at hid
    cases hid
  · obtain ⟨citizenUserId, hbehalf, hnamedCitizen, hnamed⟩ :=
      h.actsBy.headers_eq (hdelegation.symm.trans hid)
    rw [Server.NamesOwn, hnamed] at hown
    obtain ⟨delegation, hmem, hsame, hown, hfrom⟩ := hown
    refine ⟨delegation, hmem, hsame, ?_, ?_⟩
    · rw [hactor]
      exact h.comesFrom hs hmet hfrom
    · rw [hcitizen, hbehalf, IdHeader.uuid.inj (hnamedCitizen.symm.trans hown)]

end Attributed

section Runs

variable {server : Server} {store : Service} {clock : ℤ} {drawn : ℕ}
  {now : List (Action ServiceRequest)} {c : ServiceConfig}

/-- What a commit adds to a log that is attributed rightly, if it keeps to delegations of its own. -/
theorem Server.MayCommit.attributed {e : Entry Service ServiceRequest} {w : Trace Service}
    (h : server.MayCommit e.request w) (hown : server.KeepsToOwn e)
    (hs : e.before.Attributed ∧ e.before.Distinct) (hnext : e.before.Later (w.pending e.before))
    (hmet : ∀ s ∈ w.met, s.Distinct ∧ s.Later e.before) : (w.pending e.before).Attributed := by
  obtain ⟨hattributed, hdistinct⟩ := hs
  have hcovered {event : AuditEvent} (hevent : event.Covered w.met) :
      event.Attributed e.before := by
    intro id hid
    obtain ⟨s, hs, hopen⟩ := hevent id hid
    exact (hopen.attributed hid).later (hmet s hs).1 (hmet s hs).2 id hid
  have hadded : ∃ events, (w.pending e.before).database.auditEvents =
      e.before.database.auditEvents ++ events ∧
        ∀ event ∈ events, event.Attributed e.before := by
    cases hrequest : e.request with
    | http request =>
      rw [hrequest] at h
      obtain ⟨actor, hactor, hcommits⟩ := h.commits
      obtain ⟨events, hevents, hexplained⟩ := hcommits.explained.audit e.before
      refine ⟨events, hevents, fun event hevent ↦ ?_⟩
      rcases hexplained event hevent with ⟨hword, -, a, ha, hsigned⟩ | hevent
      · rw [Server.KeepsToOwn, hrequest] at hown
        exact hsigned.attributed (hactor a ha) hdistinct hmet (hown hword)
      · exact hcovered hevent
    | maintain change events =>
      rw [hrequest] at h
      obtain ⟨events, hevents, hexplained⟩ := h.1.audit e.before
      exact ⟨events, hevents, fun event hevent ↦
        hcovered ((hexplained event hevent).resolve_left id)⟩
  obtain ⟨events, hevents, hnew⟩ := hadded
  intro event hevent
  rw [hevents] at hevent
  rcases List.mem_append.mp hevent with hold | hevent
  · exact (hattributed event hold).later hdistinct hnext
  · exact (hnew event hevent).later hdistinct hnext

/-- **The audit log attributes what was done rightly**, in every state of every run in which those
who open or close a delegation or sign out name no other delegation than one of their own. -/
theorem audit_attributed (hstart : store.Start drawn) (hattributed : store.Attributed)
    (hc : exec server.program (serviceStart store clock drawn) now = some c)
    (hown : ∀ e ∈ c.shared.history, server.KeepsToOwn e) : c.shared.store.Attributed := by
  refine exec_invariant_of (J := Service.Attributed) (R := fun s s' ↦ s.Distinct ∧ s.Later s')
    (C := server.MayCommit) (H := server.KeepsToOwn) server.traced_program
    (fun _ _ _ _ hm _ h h' ↦ ⟨(run_answered hstart h).1.distinct, run_later hstart hm h h'⟩)
    (fun moment c₁ hmoment hc₁ e he ↦ hown e ?_) hattributed
    (fun e w hown hC hs ⟨hdistinct, hnext⟩ hmet ↦
      hC.attributed hown ⟨hs, hdistinct⟩ hnext fun s hs ↦ (hmet s hs).2) now c
    (List.prefix_refl _) hc
  exact (exec_history hc₁ hmoment hc).subset he

end Runs

/-- The operator files under the delegation, closes it in its own name and signs out. -/
def attributedRun : List (Action ServiceRequest) :=
  attend 0 9 operatorHeaders (.createNeed delegatedNeed) ++
    attend 1 9 operatorHeaders (.closeDelegation 20) ++ attend 2 8 operatorHeaders .revokeSession

theorem attributedRun_possible :
    (exec pilotServer.program (serviceStart pilotService 1000000 30) attributedRun).isSome := by
  decide +kernel

abbrev afterSignOut : ServiceConfig :=
  (exec pilotServer.program (serviceStart pilotService 1000000 30) attributedRun).get
    attributedRun_possible

theorem audit_attributed_attributedRun : afterSignOut.shared.store.Attributed ∧
    afterSignOut.shared.store.database.auditEvents.map (fun event ↦ (event.action,
      event.delegationId)) = [("need.created_and_routed", some 20), ("delegation.closed", some 20),
        ("auth.session.revoked", some 20)] := by
  refine ⟨audit_attributed pilotService_start (by decide)
    (Option.some_get attributedRun_possible).symm ?_, by decide +kernel⟩
  decide +kernel

def strangerToken : String := "stranger.stranger.stranger.stranger"

/-- Another operator is signed in as well. -/
def strangerService : Service :=
  { pilotService with
    database := { pilotService.database with
      roleGrants := pilotService.database.roleGrants ++ [⟨4, .operator, ""⟩] }
    accounts := pilotService.accounts ++ [⟨4, none, "ACTIVE"⟩]
    sessions := pilotService.sessions ++ [pilotSession 13 4 strangerToken none] }

/-- The other operator signs out, and names the delegation of the first. -/
def borrowingRun : List (Action ServiceRequest) :=
  attend 0 8 { operatorHeaders with
    authorization := some (units "Bearer " ++ units strangerToken) } .revokeSession

theorem borrowingRun_possible :
    (exec pilotServer.program (serviceStart strangerService 1000000 30) borrowingRun).isSome := by
  decide +kernel

/-- The row of a sign-out names the delegation of another operator. -/
theorem audit_misattributed : strangerService.Attributed ∧
    ∃ c, exec pilotServer.program (serviceStart strangerService 1000000 30) borrowingRun = some c ∧
      ¬ c.shared.store.Attributed :=
  ⟨by decide, _, (Option.some_get borrowingRun_possible).symm, by decide +kernel⟩

end Nayasetu
