import Nayasetu.Identity.AccountWalks

/-!
# The service over runs

What the walks come to when requests are served side by side, each as far as it gets between the
statements of the others: who gets something served and committed, on whose behalf it is put on
record, and what a session, a delegation or an account is good for once it has been ended.

A theorem here speaks about a request of a run at some moment, and about what had been committed
when the request began. What is ended by then (a session, a delegation) stays so at every later
moment, by the relation `Service.Later`, and evidence that needs it cannot be met after the
request began. So the request is neither answered nor does it commit.
-/

namespace Nayasetu

open Values RowLock RowLock.Discipline Collections

abbrev ServiceConfig := Config Service ServiceKey Failure ServiceResponse ServiceRequest

abbrev ServiceSession := Session Service ServiceKey Failure ServiceResponse ServiceRequest

/-- The service has started with the tables, at the time, with numbers drawn for their rows. -/
abbrev serviceStart (store : Service) (clock : ℤ) (drawn : ℕ) : ServiceConfig :=
  Config.initial store clock drawn

/-- Tables the service may start with. -/
structure Service.Start (store : Service) (drawn : ℕ) : Prop where
  distinct : store.Distinct
  unused : ∀ n, drawn ≤ n → store.Unused n

namespace Server

variable {server : Server}

/-- What a request may commit. -/
def MayCommit (server : Server) : ServiceRequest → Trace Service → Prop
  | .http request, w => server.Commits request w
  | .maintain _ _, w => Explained (fun _ ↦ False) w.met w.pending ∧ KeepsTables w.pending

/-- On what a request is answered. -/
def MayAnswer (server : Server) : ServiceRequest → Trace Service → Prop
  | .http request, w => server.Permits request w
  | .maintain _ _, _ => True

theorem traced_program (r : ServiceRequest) (t : ℤ) :
    (server.program r).Traced (server.MayCommit r) (fun _ w ↦ server.MayAnswer r w)
      (fun _ w ↦ w.committed = false) (.start t) := by
  cases r with
  | http request => exact traced_http
  | maintain change events => exact traced_maintain

theorem MayCommit.explained {r : ServiceRequest} {w : Trace Service} (h : server.MayCommit r w) :
    Explained (·.action ∈ takenAtTheirWord) w.met w.pending := by
  cases r with
  | http request =>
    obtain ⟨_, -, hcommits⟩ := h.commits
    exact hcommits.explained.imp fun _ hword ↦ hword.2.1
  | maintain change events => exact h.1.imp fun _ hfalse ↦ hfalse.elim

end Server

section Runs

variable {server : Server} {store : Service} {clock : ℤ} {drawn : ℕ}
  {now first : List (Action ServiceRequest)} {c c₁ : ServiceConfig} {i : ℕ}
  {u : ServiceSession}

theorem run_traced (hc : exec server.program (serviceStart store clock drawn) now = some c) :
    TracedRun server.program (serviceStart store clock drawn) server.MayCommit
      (fun r _ w ↦ server.MayAnswer r w) (fun _ _ w ↦ w.committed = false) now c :=
  exec_traced (C := server.MayCommit) server.traced_program hc

/-- The invariant, and what is right of all answers and failures. -/
theorem run_answered (hstart : store.Start drawn)
    (hc : exec server.program (serviceStart store clock drawn) now = some c) :
    ServiceInvariant c.shared ∧
      (∀ (i : ℕ) (u : ServiceSession) response, c.sessions[i]? = some u →
        u.program = some (.pure response) → server.Answered u.request response c.shared.store) ∧
      ∀ (i : ℕ) (u : ServiceSession) e, c.sessions[i]? = some u → u.program = some (.throw e) →
        c.shared.commitsOf i = [] ∧ u.request.MayFail e := by
  have hstable (i : ℕ) (r : ServiceRequest) : serviceDiscipline.toProtocol.Stable i
      fun response w ↦ server.Answered r response w.shared.store := by
    intro response v s h hs request callback issued hrequest hcall hresponse
    obtain ⟨email, hemail, hissued⟩ := h request callback issued hrequest hcall hresponse
    exact ⟨email, hemail, hissued.later (Discipline.Rely.mono hs.rely)⟩
  refine answered_each hstable (fun i r s hs ↦ answers_program hs) ?_ (Reaches.of_exec .refl hc)
  refine ⟨hstart.distinct, fun n hn ↦ hstart.unused n ?_, List.forall_mem_nil _⟩
  rwa [Config.initial, List.length_replicate] at hn

/-- Nothing is lost between two moments. -/
theorem run_later (hstart : store.Start drawn) (hle : first <+: now)
    (hfirst : exec server.program (serviceStart store clock drawn) first = some c₁)
    (hc : exec server.program (serviceStart store clock drawn) now = some c) :
    c₁.shared.store.Later c.shared.store := by
  obtain ⟨as, rfl⟩ := hle
  rw [exec_append, hfirst, Option.bind_some] at hc
  have hrun : exec server.program (serviceStart store clock drawn) (first ++ as) = some c := by
    rw [exec_append, hfirst, Option.bind_some, hc]
  exact (Reaches.of_exec .refl hc).store_rel .refl (fun _ _ _ h h' ↦ h.trans h')
    (run_answered hstart hrun).1.record

end Runs

/-! ## A concrete service

An operator, the citizen of the delegation, and a citizen whose profile is missing. One run files
under the delegation and closes it, the next one goes on from there and is refused, and a third
one signs somebody in who was not known before. The theorems below are applied to them.
-/

/-- A server whose digests are the beginnings of the tokens. -/
def pilotServer : Server where
  config := {
    nodeEnv := .test, host := [], port := 3000, databaseUrl := [], databaseExpectedUser := none
    databasePoolMax := 10, logLevel := .info, authMode := .session
    sessionTokenPepper := some (units "pepper"), sessionTtlHours := 720
    authGoogle := {
      mode := .live, clientId := some (units "client"), clientSecret := some (units "secret")
      redirectUri := some (units "https://example.org/callback")
      frontendUrl := some (units "https://example.org"), authUri := [], tokenUri := []
      userinfoUri := [] }
    taxonomyCodes := [], providerInitialStatus := none, providerActiveStatuses := []
    districtFeeFloors := [], credentialRevalidationActorId := none, publicStatsMinimumCellSize :=
    none
    capabilities := ⟨⟨.off, .off, .off, .off, .off, .off, .off, .off⟩, rfl⟩
    ecourtsPublicUrl := [], evidenceSigningSecret := none }
  policy := ⟨.test, ["TENANCY"], [], []⟩
  providerInitialStatus := none
  seededKey a b := a ++ b
  hmacSha256 _ text := ⟨(List.range 32).map fun k ↦ (text.getD k 0).toUInt8, by simp⟩

def bearer (token role : String) : Headers where
  requestId := "pilot"
  authorization := some (units "Bearer " ++ units token)
  actorRole := some role

def operatorToken : String := "operator.operator.operator.operator"

def citizenToken : String := "citizen.citizen.citizen.citizen.citizen"

/-- The token of a citizen without a profile. -/
def pendingToken : String := "pending.pending.pending.pending.pending"

def pilotSession (id userId : ℕ) (token : String) (revokedAt : Option ℤ) : AuthSession where
  id := id
  userId := userId
  tokenDigest := pilotServer.hmacSha256 [] (units token)
  createdAt := 0
  expiresAt := 1800000000
  revokedAt := revokedAt

/-- What the operator files for the citizen. -/
def delegatedNeed : NeedBody where
  citizenUserId := 2
  taxonomyCode := some "TENANCY"
  narrative := none
  district := "Pune"
  language := "mr"
  modePreference := "REMOTE"
  feeCeiling := none
  urgency := "NORMAL"
  channel := "OPERATOR"
  selfDeclaredSection12Category := none

/-- The operator, acting under the delegation. -/
def operatorHeaders : Headers :=
  { bearer operatorToken "OPERATOR" with
    onBehalfOfCitizenId := .uuid 2
    delegationId := .uuid 20 }

/-- Two citizens, and an operator who may act for one of them and has filed a request before. -/
def pilotService : Service where
  database := {
    roleGrants := [⟨1, .citizen, ""⟩, ⟨2, .citizen, ""⟩, ⟨3, .operator, ""⟩]
    delegations := [⟨20, 3, 2, none⟩]
    needs := [⟨25, 2, some 20, "TENANCY", "Pune", "mr", "REMOTE", none, "NORMAL",
      "OPERATOR", 0, none, none, none⟩] }
  accounts := [⟨1, some (units "new@example.org"), "PENDING_PROFILE"⟩,
    ⟨2, some (units "citizen@example.org"), "ACTIVE"⟩, ⟨3, none, "ACTIVE"⟩]
  sessions := [pilotSession 10 1 pendingToken none, pilotSession 11 2 citizenToken (some 500),
    pilotSession 12 3 operatorToken none]

theorem pilotService_start : pilotService.Start 30 := by
  refine ⟨⟨by decide, by decide, by decide, by decide, by decide⟩, fun n hn ↦ ⟨?_, ?_, ?_⟩⟩ <;>
    simp [pilotService, pilotSession] <;> omega

/-- Session `i` serves a call in `n` statements. -/
def attend (i n : ℕ) (headers : Headers) (call : Call) : List (Action ServiceRequest) :=
  .start (.http ⟨headers, call⟩) :: List.replicate n (.run i 0)

/-- The operator files a request under the delegation, and closes it. -/
def closingRun : List (Action ServiceRequest) :=
  attend 0 9 operatorHeaders (.createNeed delegatedNeed) ++
    attend 1 9 (bearer operatorToken "OPERATOR") (.closeDelegation 20)

/-- After that the operator wants to act under it, and the two citizens to use their tokens. -/
def refusedRun : List (Action ServiceRequest) :=
  closingRun ++ attend 2 5 operatorHeaders (.openGrievance ⟨7, "DELAY"⟩) ++
    attend 3 2 (bearer citizenToken "CITIZEN") .me ++
    attend 4 2 (bearer pendingToken "CITIZEN") (.openGrievance ⟨7, "DELAY"⟩)

theorem closingRun_possible :
    (exec pilotServer.program (serviceStart pilotService 1000000 30) closingRun).isSome := by
  decide +kernel

theorem refusedRun_possible :
    (exec pilotServer.program (serviceStart pilotService 1000000 30) refusedRun).isSome := by
  decide +kernel

abbrev afterClosing : ServiceConfig :=
  (exec pilotServer.program (serviceStart pilotService 1000000 30) closingRun).get
    closingRun_possible

/-- What it is like in the end. -/
abbrev afterRefusals : ServiceConfig :=
  (exec pilotServer.program (serviceStart pilotService 1000000 30) refusedRun).get
    refusedRun_possible

theorem exec_closingRun :
    exec pilotServer.program (serviceStart pilotService 1000000 30) closingRun =
      some afterClosing :=
  (Option.some_get _).symm

theorem exec_refusedRun :
    exec pilotServer.program (serviceStart pilotService 1000000 30) refusedRun =
      some afterRefusals :=
  (Option.some_get _).symm

theorem length_sessions_afterClosing : afterClosing.sessions.length = 2 := by
  rw [← List.length_map (·.request), exec_requests exec_closingRun]
  rfl

/-- The delegation has been closed by a commit, and the citizen of the second session signed out. -/
theorem ended_afterClosing :
    ⟨20, 3, 2, some 1000000⟩ ∈ afterClosing.shared.store.database.delegations ∧
      pilotSession 11 2 citizenToken (some 500) ∈ afterClosing.shared.store.sessions ∧
      0 < (afterClosing.shared.commitsOf 1).length := by
  decide +kernel

/-- Two requests are filed under the delegation, the second on the record, and the citizen of the
first session still has no profile. -/
theorem recorded_afterRefusals :
    (∃ event ∈ afterRefusals.shared.store.database.auditEvents,
      event.action = "need.created_and_routed" ∧ event.delegationId = some 20) ∧
    afterRefusals.shared.store.database.needs.map (·.operatorDelegationId) = [some 20, some 20] ∧
    pilotSession 10 1 pendingToken none ∈ afterRefusals.shared.store.sessions ∧
    ⟨1, some (units "new@example.org"), "PENDING_PROFILE"⟩ ∈
      afterRefusals.shared.store.accounts := by
  decide +kernel

def newcomerCallback : GoogleCallback where
  error := none
  code := some (units "code")
  state := some (statePayload (units "nonce") (units "1") ++
    46 :: stateSignature pilotServer.hmacSha256 (statePayload (units "nonce") (units "1"))
      (units "pepper"))
  tokenResponse := some ⟨true, some (.object [(units "access_token", .string (units "token"))])⟩
  userinfoResponse := some ⟨true, some (.object [(units "sub", .string (units "1")),
    (units "email", .string (units "second@example.org")), (units "email_verified", .bool true)])⟩
  randomBytes := ⟨List.replicate 32 1, rfl⟩

/-- The headers of somebody without a token. -/
def anonymous : Headers where
  requestId := "pilot"

def signInRun : List (Action ServiceRequest) :=
  attend 0 13 anonymous (.googleCallback newcomerCallback)

theorem signInRun_possible :
    (exec pilotServer.program (serviceStart pilotService 1000000 30) signInRun).isSome := by
  decide +kernel

abbrev afterSignIn : ServiceConfig :=
  (exec pilotServer.program (serviceStart pilotService 1000000 30) signInRun).get signInRun_possible

def issuedBy (u : ServiceSession) : Option IssuedGoogleSession :=
  match u.program with
  | some (.pure (.signedIn issued)) => some issued
  | _ => none

theorem closingRun_prefix : closingRun <+: refusedRun := by
  rw [refusedRun, List.append_assoc, List.append_assoc]
  exact List.prefix_append _ _

section Runs

variable {server : Server} {store : Service} {clock : ℤ} {drawn : ℕ}
  {now first : List (Action ServiceRequest)} {c c₁ : ServiceConfig} {i : ℕ}
  {u : ServiceSession}

/-! ## Who is served

Answers and commits of a run, each with the evidence of its call.
-/

/-- The session has committed something, or has an answer. -/
def Served (c : ServiceConfig) (i : ℕ) : Prop :=
  c.shared.commitsOf i ≠ [] ∨
    ∃ u response, c.sessions[i]? = some u ∧ u.program = some (.pure response)

/-- Every commit of a session was permitted by what the session had seen until then. -/
theorem run_committed (hc : exec server.program (serviceStart store clock drawn) now = some c)
    {request : HttpRequest} (hu : c.sessions[i]? = some u) (hr : u.request = .http request)
    {e : Entry Service ServiceRequest} (he : e ∈ c.shared.commitsOf i) :
    e.session = i ∧ e.request = .http request ∧ ∃ moment c₁ w, moment <+: now ∧
      CommittedAt server.program (serviceStart store clock drawn) moment w e c₁ ∧
        server.Commits request w := by
  obtain ⟨hmem, hsession⟩ := List.mem_filter.mp he
  obtain rfl := of_decide_eq_true hsession
  obtain ⟨u', hu', hr'⟩ := (Reaches.of_exec .refl hc).session_of_mem e hmem
  obtain rfl := Option.some.inj (hu'.symm.trans hu)
  obtain ⟨moment, c₁, w, hmoment, -, hcommit, hC⟩ := (run_traced hc).commit e hmem
  rw [← hr', hr] at hC
  exact ⟨rfl, hr'.symm.trans hr, moment, c₁, w, hmoment, hcommit, hC⟩

theorem run_commit_permits (hc : exec server.program (serviceStart store clock drawn) now = some c)
    {request : HttpRequest} (hu : c.sessions[i]? = some u) (hr : u.request = .http request)
    {e : Entry Service ServiceRequest} (he : e ∈ c.shared.commitsOf i) :
    ∃ w, Follows server.program (serviceStart store clock drawn) now i (.http request) w ∧
      server.Commits request w ∧ e.after = w.pending e.before := by
  obtain ⟨hsession, hrequest, moment, c₁, w, hmoment, hcommit, hC⟩ := run_committed hc hu hr he
  have hfollows := hcommit.follows.later hmoment
  rw [hsession, hrequest] at hfollows
  exact ⟨w, hfollows, hC, hcommit.after⟩

theorem run_answer_permits (hc : exec server.program (serviceStart store clock drawn) now = some c)
    {request : HttpRequest} (hu : c.sessions[i]? = some u) (hr : u.request = .http request)
    {response : ServiceResponse} (hresponse : u.program = some (.pure response)) :
    ∃ w, Follows server.program (serviceStart store clock drawn) now i (.http request) w ∧
      server.Permits request w := by
  obtain ⟨w, hfollows, -, -, -, hp⟩ := (run_traced hc).session i u hu
  have hanswer := hp _ hresponse
  rw [hr] at hfollows hanswer
  exact ⟨w, hfollows, hanswer⟩

theorem run_served_permits (hc : exec server.program (serviceStart store clock drawn) now = some c)
    {request : HttpRequest} (hu : c.sessions[i]? = some u) (hr : u.request = .http request)
    (hserved : Served c i) :
    ∃ w, Follows server.program (serviceStart store clock drawn) now i (.http request) w ∧
      server.Permits request w := by
  rcases hserved with hcommits | ⟨u', response, hu', hresponse⟩
  · obtain ⟨e, he⟩ := List.exists_mem_of_ne_nil _ hcommits
    obtain ⟨w, hfollows, hC, -⟩ := run_commit_permits hc hu hr he
    exact ⟨w, hfollows, hC.permits⟩
  · obtain rfl := Option.some.inj (hu'.symm.trans hu)
    exact run_answer_permits hc hu hr hresponse

theorem run_failed (hc : exec server.program (serviceStart store clock drawn) now = some c)
    (hu : c.sessions[i]? = some u) {failure : Failure}
    (hfailure : u.program = some (.throw failure)) : c.shared.commitsOf i = [] := by
  obtain ⟨w, -, -, -, hnone, hp⟩ := (run_traced hc).session i u hu
  exact hnone (hp _ hfailure)

/-- **Nobody is served without evidence.** However the statements of the requests mix, what a
request commits and what it is answered is permitted by what its own statements have met since it
began, and what fails has committed nothing. -/
theorem served_on_evidence
    (hc : exec server.program (serviceStart store clock drawn) now = some c)
    {request : HttpRequest} (hu : c.sessions[i]? = some u) (hr : u.request = .http request) :
    (∀ e ∈ c.shared.commitsOf i, ∃ w,
      Follows server.program (serviceStart store clock drawn) now i (.http request) w ∧
        e.after = w.pending e.before ∧ server.Permits request w) ∧
    (∀ response, u.program = some (.pure response) → ∃ w,
      Follows server.program (serviceStart store clock drawn) now i (.http request) w ∧
        server.Permits request w) ∧
    ∀ failure, u.program = some (.throw failure) → c.shared.commitsOf i = [] := by
  refine ⟨fun e he ↦ ?_, fun response ↦ run_answer_permits hc hu hr, fun _ ↦ run_failed hc hu⟩
  obtain ⟨w, hfollows, hC, hafter⟩ := run_commit_permits hc hu hr he
  exact ⟨w, hfollows, hafter, hC.permits⟩

theorem served_on_evidence_closingRun : ∃ u : ServiceSession, afterClosing.sessions[1]? = some u ∧
    afterClosing.shared.commitsOf 1 ≠ [] ∧ ∀ e ∈ afterClosing.shared.commitsOf 1, ∃ w,
      Follows pilotServer.program (serviceStart pilotService 1000000 30) closingRun 1
        (.http ⟨bearer operatorToken "OPERATOR", .closeDelegation 20⟩) w ∧
      e.after = w.pending e.before ∧
      pilotServer.Permits ⟨bearer operatorToken "OPERATOR", .closeDelegation 20⟩ w := by
  obtain ⟨u, hu, hr⟩ := exec_request exec_closingRun (i := 1) rfl
  exact ⟨u, hu, List.ne_nil_of_length_pos ended_afterClosing.2.2,
    (served_on_evidence exec_closingRun hu hr).1⟩

/-! ## Delegations

After it is closed a delegation serves for nothing, and whatever names it on record was committed
while it was open.
-/

/-- **A delegation that has been closed lets nobody act any more**: a request that starts later and
names it is refused, whatever it asks for but the six calls that look at no delegation. -/
theorem closed_delegation_refused (hstart : store.Start drawn)
    (hfirst : exec server.program (serviceStart store clock drawn) first = some c₁)
    (hle : first <+: now) (hc : exec server.program (serviceStart store clock drawn) now = some c)
    {delegation : OperatorDelegation}
    (hdelegation : delegation ∈ c₁.shared.store.database.delegations)
    (hclosed : delegation.endedAt ≠ none) {request : HttpRequest} (hi : c₁.sessions.length ≤ i)
    (hu : c.sessions[i]? = some u) (hr : u.request = .http request)
    (hnamed : request.headers.delegationId = .uuid delegation.id) (hcall : ¬ request.call.Own) :
    ¬ Served c i := by
  intro hserved
  obtain ⟨w, hfollows, hpermits⟩ := run_served_permits hc hu hr hserved
  rcases hpermits with ⟨callback, hcallback, -⟩ | ⟨actor, hactor, -, hwarrant⟩
  · exact hcall (hcallback ▸ trivial)
  · obtain ⟨s, hs, other, hother, hid, hopen, -⟩ :=
      covered_of_warrant hcall hactor.inOrder hwarrant delegation.id
        (hactor.actsBy.delegationId_eq hnamed).1
    -- it was closed at every moment since
    refine hfollows.forall_met (J := fun s ↦ ∀ other ∈ s.database.delegations,
      other.id = delegation.id → other.endedAt ≠ none) hfirst hle hi ?_ s hs other hother hid hopen
    intro moment c₂ hfrom _ hc₂ row hrow hrowid
    obtain ⟨later, hlater, hsame⟩ := (run_later hstart hfrom hfirst hc₂).exists_delegation
      (run_answered hstart hfirst).1.distinct hdelegation
    have hrow : row = later := List.inj_on_of_nodup_map
      (run_answered hstart hc₂).1.distinct.delegations hrow hlater
      (hrowid.trans hsame.parties.1.symm)
    rcases hsame with rfl | ⟨hnone, -⟩
    · exact hrow ▸ hclosed
    · exact absurd hnone hclosed

theorem closed_delegation_refused_refusedRun : ¬ Served afterRefusals 2 := by
  obtain ⟨u, hu, hr⟩ := exec_request exec_refusedRun (i := 2) rfl
  have hnamed :
    (HttpRequest.mk operatorHeaders (.openGrievance ⟨7, "DELAY"⟩)).headers.delegationId =
      .uuid 20 := rfl
  exact closed_delegation_refused pilotService_start exec_closingRun
    closingRun_prefix exec_refusedRun
    ended_afterClosing.1 (by decide) length_sessions_afterClosing.le hu hr hnamed nofun

/-- **The audit log names delegations truthfully.** It only grows, and wherever a new row names a
delegation, but for the three actions whose routes take the header at its word, there was a moment
of the run when that delegation was open, held by the actor of the row, for the citizen of the
row. -/
theorem audit_names_open_delegations
    (hc : exec server.program (serviceStart store clock drawn) now = some c) :
    ∃ events, c.shared.store.database.auditEvents = store.database.auditEvents ++ events ∧
      ∀ event ∈ events, event.action ∈ takenAtTheirWord ∨ ∀ id ∈ event.delegationId,
        ∃ moment c₁, moment <+: now ∧
          exec server.program (serviceStart store clock drawn) moment = some c₁ ∧
            event.NamesOpen id c₁.shared.store := by
  refine exec_invariant (C := server.MayCommit) (R := fun s _ ↦ ∃ moment c₁, moment <+: now ∧
      exec server.program (serviceStart store clock drawn) moment = some c₁ ∧ c₁.shared.store = s)
    (J := fun s ↦ ∃ events, s.database.auditEvents = store.database.auditEvents ++ events ∧
      ∀ event ∈ events, event.action ∈ takenAtTheirWord ∨ ∀ id ∈ event.delegationId,
        ∃ moment c₁, moment <+: now ∧
          exec server.program (serviceStart store clock drawn) moment = some c₁ ∧
            event.NamesOpen id c₁.shared.store)
    server.traced_program (fun moment later c c' hm hl hc _ ↦ ⟨moment, c, hm.trans hl, hc, rfl⟩)
    ⟨[], (List.append_nil _).symm, List.forall_mem_nil _⟩ ?_ now c (List.prefix_refl _) hc
  intro r w s hC ⟨events, hevents, hknown⟩ _ hmet
  obtain ⟨added, hadded, hcovered⟩ := hC.explained.audit s
  refine ⟨events ++ added, ?_, List.forall_mem_append.mpr ⟨hknown, fun event hevent ↦ ?_⟩⟩
  · rw [hadded, hevents, List.append_assoc]
  · refine (hcovered event hevent).imp_right fun hseen id hid ↦ ?_
    obtain ⟨s', hs', hopen⟩ := hseen id hid
    obtain ⟨-, moment, c₁, hmoment, hc₁, rfl⟩ := hmet s' hs'
    exact ⟨moment, c₁, hmoment, hc₁, hopen⟩

theorem audit_names_open_delegations_refusedRun :
    (∃ event ∈ afterRefusals.shared.store.database.auditEvents,
      event.action = "need.created_and_routed" ∧ event.delegationId = some 20) ∧
    ∃ events, afterRefusals.shared.store.database.auditEvents = events ∧
      ∀ event ∈ events, event.action ∈ takenAtTheirWord ∨ ∀ id ∈ event.delegationId,
        ∃ moment c₁, moment <+: refusedRun ∧
          exec pilotServer.program (serviceStart pilotService 1000000 30) moment = some c₁ ∧
            event.NamesOpen id c₁.shared.store :=
  ⟨recorded_afterRefusals.1, audit_names_open_delegations exec_refusedRun⟩

def Service.DelegatedFor (s : Service) (delegationId citizenUserId : ℕ) : Prop :=
  ∃ delegation ∈ s.database.delegations, delegation.id = delegationId ∧
    delegation.citizenUserId = citizenUserId

theorem Service.DelegatedFor.later {s s' : Service} {id citizenUserId : ℕ} (hs : s.Distinct)
    (hlater : s.Later s') (h : s.DelegatedFor id citizenUserId) :
    s'.DelegatedFor id citizenUserId := by
  obtain ⟨delegation, hmem, hid, hcitizen⟩ := h
  obtain ⟨later, hmem', hsame⟩ := hlater.exists_delegation hs hmem
  obtain ⟨hsameId, -, hsameCitizen⟩ := hsame.parties
  exact ⟨later, hmem', hsameId.trans hid, hsameCitizen.trans hcitizen⟩

/-- The requests for help that are filed under a delegation are those of its citizen. -/
def Service.Filed (s : Service) : Prop :=
  ∀ need ∈ s.database.needs, ∀ id ∈ need.operatorDelegationId,
    s.DelegatedFor id need.citizenUserId

/-- **A request for help that is filed under a delegation is for the citizen of that delegation**,
in every state of every run. -/
theorem needs_filed_for_their_citizen (hstart : store.Start drawn) (hfiled : store.Filed)
    (hc : exec server.program (serviceStart store clock drawn) now = some c) :
    c.shared.store.Filed := by
  refine exec_invariant (J := Service.Filed) (R := fun s s' ↦ s.Distinct ∧ s.Later s')
    (C := server.MayCommit) server.traced_program (fun _ _ _ _ hm _ h h' ↦
      ⟨(run_answered hstart h).1.distinct, run_later hstart hm h h'⟩) hfiled ?_ now c
    (List.prefix_refl _) hc
  intro r w s hC hs ⟨hdistinct, hnext⟩ hmet need hneed id hid
  have hfiled (s' : Service) (hs' : s' ∈ s :: w.met) : s'.Filed ∧ s'.Distinct ∧ s'.Later s := by
    rcases List.mem_cons.mp hs' with rfl | hs'
    · exact ⟨hs, hdistinct, .refl _⟩
    · exact hmet s' hs'
  refine Service.DelegatedFor.later hdistinct hnext ?_
  rcases hC.explained.needs s need hneed with ⟨s', hs', other, hother, hcitizen,
    hfiledAs⟩ | hcovered
  · obtain ⟨hfiled', hdistinct', hlater⟩ := hfiled s' hs'
    rw [hcitizen]
    exact (hfiled' other hother id (hfiledAs ▸ hid)).later hdistinct' hlater
  · obtain ⟨s', hs', delegation, hmem, hdid, -, hcitizen⟩ := hcovered id hid
    obtain ⟨-, hdistinct', hlater⟩ := hfiled s' (List.mem_cons_of_mem s hs')
    exact Service.DelegatedFor.later hdistinct' hlater ⟨delegation, hmem, hdid, hcitizen⟩

theorem needs_filed_for_their_citizen_refusedRun :
    afterRefusals.shared.store.Filed ∧
      afterRefusals.shared.store.database.needs.map (·.operatorDelegationId) =
      [some 20, some 20] := by
  refine ⟨needs_filed_for_their_citizen pilotService_start ?_ exec_refusedRun,
    recorded_afterRefusals.2.1⟩
  intro need hneed id hid
  obtain rfl := List.mem_singleton.mp hneed
  obtain rfl := Option.some.inj hid
  exact ⟨_, List.mem_singleton_self _, rfl, rfl⟩

/-! ## Sessions and accounts

The life of the rows behind a token, and what follows for the requests that bear it.
-/

/-- A session that is gone for good: it has been revoked, or its time is over. -/
def AuthSession.Dead (session : AuthSession) (timestamp : ℤ) : Prop :=
  session.revokedAt ≠ none ∨ session.expiresAt ≤ timestamp

/-- The row with a digest stays the one with that digest. -/
theorem session_later (hstart : store.Start drawn) (hle : first <+: now)
    (hfirst : exec server.program (serviceStart store clock drawn) first = some c₁)
    (hc : exec server.program (serviceStart store clock drawn) now = some c)
    {session later : AuthSession} (hsession : session ∈ c₁.shared.store.sessions)
    (hlater : later ∈ c.shared.store.sessions) (hdigest : later.tokenDigest = session.tokenDigest) :
    session.Later later := by
  obtain ⟨row, hmem, hsame⟩ := (run_later hstart hle hfirst hc).exists_session
    (run_answered hstart hfirst).1.distinct hsession
  have hrow : later = row := List.inj_on_of_nodup_map (run_answered hstart hc).1.distinct.digests
    hlater hmem (hdigest.trans hsame.tokenDigest_eq.symm)
  rwa [hrow]

/-- **A token is good for nothing once its session has been revoked or has expired**: a request that
starts later and bears it is refused, whatever it asks for. -/
theorem dead_session_refused (hstart : store.Start drawn)
    (hmode : server.config.authMode = .session)
    (hfirst : exec server.program (serviceStart store clock drawn) first = some c₁)
    (hle : first <+: now) (hc : exec server.program (serviceStart store clock drawn) now = some c)
    {session : AuthSession} (hsession : session ∈ c₁.shared.store.sessions)
    (hdead : session.Dead c₁.shared.clock) {request : HttpRequest} (hi : c₁.sessions.length ≤ i)
    (hu : c.sessions[i]? = some u) (hr : u.request = .http request)
    (htoken : server.tokenDigest request.headers = some session.tokenDigest)
    (hcall : ∀ callback, request.call ≠ .googleCallback callback) : ¬ Served c i := by
  intro hserved
  obtain ⟨w, hfollows, hpermits⟩ := run_served_permits hc hu hr hserved
  rcases hpermits with ⟨callback, hcallback, -⟩ | ⟨actor, hactor, -⟩
  · exact hcall callback hcallback
  · rcases hactor.source with ⟨hheader, -⟩ | ⟨-, digest, hdigest, s, hs, hseen, -⟩
    · exact absurd (hmode.symm.trans hheader) (by decide)
    · obtain rfl := Option.some.inj (htoken.symm.trans hdigest)
      obtain ⟨timestamp, htime, other, hother, ⟨hsame, hunrevoked, hlive⟩, -⟩ := hseen
      have hlater := hfollows.forall_met (J := fun s ↦ ∀ other ∈ s.sessions,
        other.tokenDigest = session.tokenDigest → session.Later other) hfirst hle hi
        (fun _ _ hfrom _ hc₂ other hother ↦ session_later hstart hfrom hfirst hc₂ hsession hother)
        s hs other hother hsame
      have hclock := hfollows.le_begun hfirst hle hi
      rcases hlater with rfl | ⟨hnone, t, rfl⟩
      · rcases hdead with hrevoked | hexpired
        · exact hrevoked hunrevoked
        · exact absurd (lt_of_le_of_lt (hclock.trans htime) hlive) (not_lt.mpr hexpired)
      · cases hunrevoked

theorem dead_session_refused_refusedRun : ¬ Served afterRefusals 3 := by
  obtain ⟨u, hu, hr⟩ := exec_request exec_refusedRun (i := 3) rfl
  have htoken :
    pilotServer.tokenDigest (HttpRequest.mk (bearer citizenToken "CITIZEN") .me).headers =
      some (pilotSession 11 2 citizenToken (some 500)).tokenDigest := by decide +kernel
  exact dead_session_refused pilotService_start rfl exec_closingRun closingRun_prefix
    exec_refusedRun ended_afterClosing.2.1 (.inl (by decide))
    (length_sessions_afterClosing.le.trans (by decide)) hu hr htoken fun _ h ↦ nomatch h

/-- **A citizen whose profile is missing gets no further than the routes that complete it.** -/
theorem pending_account_refused (hstart : store.Start drawn)
    (hmode : server.config.authMode = .session)
    (hc : exec server.program (serviceStart store clock drawn) now = some c)
    {session : AuthSession} (hsession : session ∈ c.shared.store.sessions) {account : UserAccount}
    (haccount : account ∈ c.shared.store.accounts) (howner : account.id = session.userId)
    (hpending : account.status = "PENDING_PROFILE") {request : HttpRequest}
    (hu : c.sessions[i]? = some u) (hr : u.request = .http request)
    (htoken : server.tokenDigest request.headers = some session.tokenDigest)
    (hrole : request.headers.actorRole = some "CITIZEN")
    (hcompletion : request.call.completion = false)
    (hcall : ∀ callback, request.call ≠ .googleCallback callback) : ¬ Served c i := by
  intro hserved
  obtain ⟨w, hfollows, hpermits⟩ := run_served_permits hc hu hr hserved
  rcases hpermits with ⟨callback, hcallback, -⟩ | ⟨actor, hactor, hpass, -⟩
  · exact hcall callback hcallback
  · have htype : actor.actorType = .citizen := by
      have hnamed := hactor.role
      rw [hrole] at hnamed
      exact (Option.some.inj hnamed).symm
    rcases hactor.source with ⟨hheader, -⟩ | ⟨-, digest, hdigest, s, hs, hseen, hstatus, -⟩
    · exact absurd (hmode.symm.trans hheader) (by decide)
    · obtain rfl := Option.some.inj (htoken.symm.trans hdigest)
      obtain ⟨timestamp, -, other, hother, ⟨hsame, -⟩, huser⟩ := hseen
      obtain ⟨row, hrow, hid, haccountStatus⟩ := hstatus
      obtain ⟨moment, c₂, hmoment, hc₂, rfl⟩ := hfollows.exists_moment hs
      have hlater := session_later hstart hmoment hc₂ hc hother hsession hsame.symm
      have hdistinct₂ := (run_answered hstart hc₂).1.distinct
      have hdistinct := (run_answered hstart hc).1.distinct
      obtain ⟨later, hfound, hstays⟩ := (run_later hstart hmoment hc₂ hc).accounts row.id row
        ((lookupBy_eq_some_iff hdistinct₂.accounts).mpr ⟨hrow, rfl⟩)
      have hsameId : account.id = row.id := by
        rw [howner, hlater.userId_eq, huser, hid]
      obtain rfl : account = later := Option.some.inj
        (((lookupBy_eq_some_iff hdistinct.accounts).mpr ⟨haccount, hsameId⟩).symm.trans hfound)
      -- an account that is still pending has always been
      have hrowStatus : row.status = "PENDING_PROFILE" := by
        rcases hstays with rfl | ⟨hwas, rfl⟩
        · exact hpending
        · exact hwas
      rcases hpass with hpass | hpass
      · exact absurd (hpass.symm.trans hcompletion) (by decide)
      · refine hpass ⟨htype, "PENDING_PROFILE", ?_, by decide⟩
        rw [haccountStatus, hrowStatus]
        rfl

theorem pending_account_refused_refusedRun : ¬ Served afterRefusals 4 := by
  obtain ⟨u, hu, hr⟩ := exec_request exec_refusedRun (i := 4) rfl
  obtain ⟨-, -, hlive, hpending⟩ := recorded_afterRefusals
  have htoken : pilotServer.tokenDigest
      (HttpRequest.mk (bearer pendingToken "CITIZEN") (.openGrievance ⟨7, "DELAY"⟩)).headers =
        some (pilotSession 10 1 pendingToken none).tokenDigest := by decide +kernel
  exact pending_account_refused pilotService_start rfl exec_refusedRun hlive hpending rfl rfl hu hr
    htoken rfl rfl fun _ h ↦ nomatch h

/-- **Signing in resolves the address to one account.** No two accounts share a number or an
address, a sign-in is never left without an account, and whoever it hands a token has the one
account of the verified address, and a session under that token. -/
theorem sign_in_resolves_account (hstart : store.Start drawn)
    (hc : exec server.program (serviceStart store clock drawn) now = some c) :
    (c.shared.store.accounts.map (·.id)).Nodup ∧
      (c.shared.store.accounts.filterMap (·.email)).Nodup ∧
      ∀ (i : ℕ) (u : ServiceSession) headers callback, c.sessions[i]? = some u →
        u.request = .http ⟨headers, .googleCallback callback⟩ →
        u.program ≠ some (.throw unresolvedIdentity) ∧
        ∀ issued, u.program = some (.pure (.signedIn issued)) → ∃ email,
          fetchGoogleVerifiedEmail callback.userinfoResponse = .ok email ∧
          (∃ account ∈ c.shared.store.accounts, account.id = issued.userId ∧
            ∀ other ∈ c.shared.store.accounts, other.email = some email ↔ other = account) ∧
          ∃ session ∈ c.shared.store.sessions, session.userId = issued.userId ∧
            session.tokenDigest = digestSessionToken server.hmacSha256 issued.sessionToken
              (server.config.sessionTokenPepper.getD []) ∧
            session.expiresAt = issued.expiresAt * 1000 := by
  obtain ⟨hinv, hanswered, hfailed⟩ := run_answered hstart hc
  refine ⟨hinv.distinct.accounts, hinv.distinct.emails, fun i u headers callback hu hr ↦
    ⟨fun hthrow ↦ ?_, fun issued hissued ↦ ?_⟩⟩
  · exact (hfailed i u _ hu hthrow).2 _ callback hr rfl rfl
  · obtain ⟨email, hemail, ⟨account, haccount, hof⟩, session, hsession, hrow⟩ :=
      hanswered i u _ hu hissued _ callback issued hr rfl rfl
    obtain ⟨hmem, hid⟩ := lookupBy_mem haccount
    refine ⟨email, hemail, ⟨account, hmem, hid, fun other hother ↦ ⟨fun he ↦ ?_, fun h ↦ h ▸ hof⟩⟩,
      session, (lookupBy_mem hsession).1, hrow⟩
    have h₁ := hinv.distinct.accountOf_eq hother he
    have h₂ := hinv.distinct.accountOf_eq hmem hof
    exact Option.some.inj (h₁.symm.trans h₂)

theorem sign_in_resolves_account_signInRun : ∃ u issued, afterSignIn.sessions[0]? = some u ∧
    u.program = some (.pure (.signedIn issued)) ∧ ∃ email,
      fetchGoogleVerifiedEmail newcomerCallback.userinfoResponse = .ok email ∧
      (∃ account ∈ afterSignIn.shared.store.accounts, account.id = issued.userId ∧
        ∀ other ∈ afterSignIn.shared.store.accounts, other.email = some email ↔ other = account) ∧
      ∃ session ∈ afterSignIn.shared.store.sessions, session.userId = issued.userId ∧
        session.tokenDigest = digestSessionToken pilotServer.hmacSha256 issued.sessionToken
          (pilotServer.config.sessionTokenPepper.getD []) ∧
        session.expiresAt = issued.expiresAt * 1000 := by
  have hrun : exec pilotServer.program (serviceStart pilotService 1000000 30) signInRun =
      some afterSignIn := (Option.some_get _).symm
  obtain ⟨u, hu, hrequest⟩ := exec_request hrun (i := 0) rfl
  obtain ⟨issued, hsession⟩ := Option.isSome_iff_exists.mp
    (show ((afterSignIn.sessions[0]?).bind issuedBy).isSome by decide +kernel)
  have hissued : issuedBy u = some issued := by
    rw [hu] at hsession
    exact hsession
  have hprogram : u.program = some (.pure (.signedIn issued)) := by
    rw [issuedBy] at hissued
    split at hissued
    next h =>
      rw [Option.some.inj hissued] at h
      exact h
    next => cases hissued
  have hsignIn := (sign_in_resolves_account pilotService_start hrun).2.2 0 u
    anonymous newcomerCallback hu hrequest
  exact ⟨u, issued, hu, hprogram, hsignIn.2 issued hprogram⟩

/-- **What is on record stays on record.** From any moment of a run to any later one, accounts keep
their numbers and addresses, and only an account that was pending changes its status, to active,
with a profile; sessions and delegations change only in that one that was open is ended, once and
for all. -/
theorem identity_lasts (hstart : store.Start drawn) (hle : first <+: now)
    (hfirst : exec server.program (serviceStart store clock drawn) first = some c₁)
    (hc : exec server.program (serviceStart store clock drawn) now = some c) :
    (∀ account ∈ c₁.shared.store.accounts, account ∈ c.shared.store.accounts ∨
      (account.status = "PENDING_PROFILE" ∧
        { account with status := "ACTIVE" } ∈ c.shared.store.accounts ∧
          ∃ profile ∈ c.shared.store.profiles, profile.userId = account.id)) ∧
    (∀ session ∈ c₁.shared.store.sessions, session ∈ c.shared.store.sessions ∨
      (session.revokedAt = none ∧ ∃ timestamp,
        { session with revokedAt := some timestamp } ∈ c.shared.store.sessions)) ∧
    (∀ delegation ∈ c₁.shared.store.database.delegations,
      delegation ∈ c.shared.store.database.delegations ∨
        (delegation.endedAt = none ∧ ∃ timestamp,
          { delegation with endedAt := some timestamp } ∈ c.shared.store.database.delegations)) ∧
    c.shared.store.Distinct := by
  have hdistinct := (run_answered hstart hfirst).1.distinct
  have hlater := run_later hstart hle hfirst hc
  refine ⟨fun account haccount ↦ ?_, fun session hsession ↦ ?_, fun delegation hdelegation ↦ ?_,
    (run_answered hstart hc).1.distinct⟩
  · have hfound := (lookupBy_eq_some_iff hdistinct.accounts).mpr ⟨haccount, rfl⟩
    obtain ⟨row, hrow, rfl | ⟨hpending, rfl⟩⟩ := hlater.accounts account.id account hfound
    · exact .inl (lookupBy_mem hrow).1
    · refine .inr ⟨hpending, (lookupBy_mem hrow).1, ?_⟩
      have hactive : { account with status := "ACTIVE" } ≠ account := by
        intro h
        have hstatus : "ACTIVE" = account.status := congrArg UserAccount.status h
        exact absurd (hstatus.trans hpending) (by decide)
      obtain ⟨profile, hprofile⟩ := Option.isSome_iff_exists.mp
        (hlater.activated account.id account _ hfound hrow hactive)
      exact ⟨profile, lookupBy_mem hprofile⟩
  · obtain ⟨row, hrow, rfl | ⟨hnone, t, rfl⟩⟩ := hlater.sessions session.id session
      ((lookupBy_eq_some_iff hdistinct.sessions).mpr ⟨hsession, rfl⟩)
    · exact .inl (lookupBy_mem hrow).1
    · exact .inr ⟨hnone, t, (lookupBy_mem hrow).1⟩
  · obtain ⟨row, hrow, rfl | ⟨hnone, t, rfl⟩⟩ := hlater.delegations delegation.id delegation
      ((lookupBy_eq_some_iff hdistinct.delegations).mpr ⟨hdelegation, rfl⟩)
    · exact .inl (lookupBy_mem hrow).1
    · exact .inr ⟨hnone, t, (lookupBy_mem hrow).1⟩

theorem identity_lasts_refusedRun :
    ∃ timestamp, ⟨20, 3, 2, some timestamp⟩ ∈ afterRefusals.shared.store.database.delegations := by
  have hrun := identity_lasts pilotService_start (List.nil_prefix) rfl exec_refusedRun
  have hclosed : (⟨20, 3, 2, none⟩ : OperatorDelegation) ∉
      afterRefusals.shared.store.database.delegations := by decide +kernel
  rcases hrun.2.2.1 ⟨20, 3, 2, none⟩ List.mem_cons_self with h | ⟨-, h⟩
  · exact absurd h hclosed
  · exact h

end Runs

end Nayasetu
