import Nayasetu.Configuration
import Nayasetu.Identity.Service

/-!
# Who makes a request

Before any route runs, the headers of a request are turned into an actor. With sessions, a bearer
token stands for the account that signed in; a role the account holds and, for an operator, the
delegation it wants to act under come from further headers. A citizen whose profile is missing
gets no further than the routes that complete it.

A delegation that is named here is not looked up here: each route has to do that for the citizen it
is about.

## The two modes

With headers, which is for development, the actor is whoever the headers name. With sessions it is
the account of the token, provided that the account holds a grant of the role the headers ask for.
In every other mode, and wherever a header does not parse, there is no actor, and each route
decides whether it answers without one.
-/

namespace Nayasetu

open Values RowLock Collections

/-- A header with an identifier. -/
inductive IdHeader where
  /-- It is missing or empty. -/
  | absent
  /-- It is not a UUID. -/
  | malformed
  | uuid (id : ℕ)
  deriving DecidableEq, Repr

/-- The headers that say who makes a request. -/
structure Headers where
  requestId : String
  authorization : Option JsString := none
  actorId : IdHeader := .absent
  actorRole : Option String := none
  actorScopes : Option String := none
  onBehalfOfCitizenId : IdHeader := .absent
  delegationId : IdHeader := .absent

structure RequestActor extends ActorContext where
  accountStatus : Option String := none
  deriving DecidableEq, Repr

/-- `roleSchema.safeParse`. -/
def roleSchema : String → Option Role
  | "CITIZEN" => some .citizen
  | "PROVIDER" => some .provider
  | "OPERATOR" => some .operator
  | "INSTITUTION" => some .institution
  | "ADMIN" => some .admin
  | _ => none

/-- The citizen an actor of a role wants to act for, and the delegation, if there are any; `none` if
the headers for it are not in order. -/
def Headers.behalf (headers : Headers) (role : Role) : Option (Option (ℕ × ℕ)) :=
  if role ≠ .operator ∧
    (headers.onBehalfOfCitizenId ≠ .absent ∨ headers.delegationId ≠ .absent) then
    none
  else match headers.onBehalfOfCitizenId, headers.delegationId with
    | .absent, .absent => some none
    | .uuid citizenId, .uuid delegationId => some (some (citizenId, delegationId))
    | _, _ => none

/-- `(headers["x-actor-scopes"] ?? "").split(",").map((scope) => scope.trim()).filter(Boolean)`. -/
def Headers.scopes (headers : Headers) : List String :=
  (((headers.actorScopes.getD "").splitOn ",").map trim).filter (· ≠ "")

/-- `actorFromRequest`. -/
def actorFromRequest (config : LoadedConfig) (headers : Headers) : Option RequestActor :=
  if config.authMode ≠ .header then none
  else match headers.actorId, headers.actorRole.bind roleSchema with
    | .uuid actorId, some role =>
      (headers.behalf role).map fun behalf ↦ {
        actorId := actorId, actorType := role, scopes := headers.scopes
        requestId := headers.requestId, onBehalfOfCitizenId := behalf.map (·.1)
        delegationId := behalf.map (·.2) }
    | _, _ => none

/-- `bearerToken`. -/
def bearerToken (headers : Headers) : Option JsString :=
  match headers.authorization with
  | none => none
  | some authorization =>
    if (units "Bearer ").isPrefixOf authorization then
      (some (authorization.drop 7)).filter (32 ≤ ·.length)
    else none

section Sessions

/- `createHmac("sha256", pepper).update(token)`. -/
variable (hmacSha256 : JsString → JsString → Digest)

/-- `digestSessionToken`. -/
def digestSessionToken (token pepper : JsString) : Digest := hmacSha256 pepper token

/-- What the query of a session returns. -/
structure SessionActor where
  userId : ℕ
  role : Role
  scopes : List String
  accountStatus : String
  deriving DecidableEq, Repr

/-- The query of a session: its account, and the scopes of the grants of one role. -/
def Service.sessionActor (s : Service) (digest : Digest) (role : Role) (timestamp : ℤ) :
    Option SessionActor := do
  let session ← s.liveSession digest timestamp
  let account ← s.account session.userId
  let grants := s.database.roleGrants.filter fun grant ↦
    grant.userId = session.userId && grant.role = role
  if grants = [] then none
  return ⟨session.userId, role, (grants.map (·.scope)).filter (· ≠ ""), account.status⟩

def SessionActor.requestActor (session : SessionActor) (headers : Headers) : Option RequestActor :=
  (headers.behalf session.role).map fun behalf ↦ {
    actorId := session.userId, actorType := session.role, scopes := session.scopes
    requestId := headers.requestId, onBehalfOfCitizenId := behalf.map (·.1)
    delegationId := behalf.map (·.2)
    accountStatus := (some session.accountStatus).filter (· ≠ "") }

/-- `resolveActorFromRequest`. -/
def resolveActorFromRequest (config : LoadedConfig) (headers : Headers) :
    ServiceTx (Option RequestActor) := do
  if config.authMode = .header then return actorFromRequest config headers
  if config.authMode ≠ .session ∨ isMissing config.sessionTokenPepper = true then return none
  match bearerToken headers, headers.actorRole.bind roleSchema with
  | some token, some role =>
    let digest := digestSessionToken hmacSha256 token (config.sessionTokenPepper.getD [])
    let timestamp ← now
    match (← snapshot).sessionActor digest role timestamp with
    | none => return none
    | some session => return session.requestActor headers
  | _, _ => return none

/-- The actor is a citizen whose account is not active. -/
def RequestActor.Pending (actor : RequestActor) : Prop :=
  actor.actorType = .citizen ∧ ∃ status ∈ actor.accountStatus, status ≠ "ACTIVE"

instance RequestActor.decidablePending (actor : RequestActor) : Decidable actor.Pending :=
  inferInstanceAs (Decidable (_ ∧ _))

/-- The `onRequest` hook; `completion` says that the path is one of `profileCompletionPaths`. -/
def onRequest (config : LoadedConfig) (headers : Headers) (completion : Bool) :
    ServiceTx (Option RequestActor) := do
  let actor ← resolveActorFromRequest hmacSha256 config headers
  check (completion = true ∨ ∀ a ∈ actor, ¬ RequestActor.Pending a)
    (.app 403 "ACCOUNT_PENDING_PROFILE"
      "Profile completion is required before using the product")
  return actor

end Sessions

/-- `requireActor`, as far as it asks for an actor at all. -/
def authenticated (actor : Option RequestActor) : ServiceTx RequestActor :=
  match actor with
  | none => throw (.app 401 "UNAUTHENTICATED" "Authentication is required")
  | some actor => return actor

/-- `requireActor`. -/
def requireRequestActor (actor : Option RequestActor) (roles : List Role) :
    ServiceTx RequestActor := do
  let actor ← authenticated actor
  inDatabase (requireActor actor.toActorContext roles)
  return actor

/-! ## What an actor stands for

The facts about an actor that the routes rely on: its delegation comes with a citizen and only
with the role of an operator.
-/

/-- Only operators name a delegation, and they name the citizen with it. -/
theorem Headers.behalf_eq_some {headers : Headers} {role : Role} {behalf : Option (ℕ × ℕ)}
    (h : headers.behalf role = some behalf) : behalf = none ∨ role = .operator := by
  rw [Headers.behalf] at h
  split at h
  · cases h
  next hrole =>
    split at h
    · cases h
      exact .inl rfl
    next hcitizen hdelegation =>
      refine .inr (Classical.byContradiction fun hne ↦ hrole ⟨hne, .inl ?_⟩)
      rw [hcitizen]
      exact nofun
    · cases h

/-- The citizen and the delegation of the actor are those of the headers. -/
def RequestActor.ActsBy (actor : RequestActor) (headers : Headers) : Prop :=
  ∃ behalf, headers.behalf actor.actorType = some behalf ∧
    actor.onBehalfOfCitizenId = behalf.map (·.1) ∧ actor.delegationId = behalf.map (·.2)

/-- An actor acts for nobody else unless it is an operator, who names a citizen and a delegation. -/
def RequestActor.InOrder (actor : RequestActor) : Prop :=
  (actor.onBehalfOfCitizenId = none ∧ actor.delegationId = none) ∨
    (actor.actorType = .operator ∧ actor.onBehalfOfCitizenId ≠ none ∧ actor.delegationId ≠ none)

theorem RequestActor.ActsBy.inOrder {actor : RequestActor} {headers : Headers}
    (h : actor.ActsBy headers) : actor.InOrder := by
  obtain ⟨behalf, hbehalf, hcitizen, hdelegation⟩ := h
  rcases Headers.behalf_eq_some hbehalf with rfl | hrole
  · exact .inl ⟨hcitizen, hdelegation⟩
  · cases behalf with
    | none => exact .inl ⟨hcitizen, hdelegation⟩
    | some pair =>
      refine .inr ⟨hrole, ?_, ?_⟩
      · rw [hcitizen]
        exact nofun
      · rw [hdelegation]
        exact nofun

theorem RequestActor.ActsBy.delegationId_eq {actor : RequestActor} {headers : Headers} {id : ℕ}
    (h : actor.ActsBy headers) (hid : headers.delegationId = .uuid id) :
    actor.delegationId = some id ∧ actor.actorType = .operator := by
  obtain ⟨behalf, hbehalf, -, hdelegation⟩ := h
  rw [Headers.behalf, hid] at hbehalf
  split at hbehalf
  · cases hbehalf
  next hrole =>
    split at hbehalf
    · contradiction
    next citizenId delegationId hcitizen hnamed =>
      cases hbehalf
      cases hnamed
      refine ⟨hdelegation, Classical.byContradiction fun hne ↦ hrole ⟨hne, .inl ?_⟩⟩
      rw [hcitizen]
      exact nofun
    · cases hbehalf

/-- Whom the actor acts for is what the headers say. -/
theorem RequestActor.ActsBy.headers_eq {actor : RequestActor} {headers : Headers} {id : ℕ}
    (h : actor.ActsBy headers) (hid : actor.delegationId = some id) :
    ∃ citizenUserId, actor.onBehalfOfCitizenId = some citizenUserId ∧
      headers.onBehalfOfCitizenId = .uuid citizenUserId ∧ headers.delegationId = .uuid id := by
  obtain ⟨behalf, hbehalf, hcitizen, hdelegation⟩ := h
  rw [hdelegation] at hid
  obtain ⟨⟨citizenUserId, delegationId⟩, rfl, rfl⟩ := Option.map_eq_some_iff.mp hid
  refine ⟨citizenUserId, hcitizen, ?_⟩
  rw [Headers.behalf] at hbehalf
  split at hbehalf
  · cases hbehalf
  · split at hbehalf
    · cases hbehalf
    next hcitizen' hdelegation' =>
      cases hbehalf
      exact ⟨hcitizen', hdelegation'⟩
    · cases hbehalf

theorem actorFromRequest_actorId {config : LoadedConfig} {headers : Headers} {actor : RequestActor}
    (h : actorFromRequest config headers = some actor) : headers.actorId = .uuid actor.actorId := by
  rw [actorFromRequest] at h
  split at h
  · cases h
  · split at h
    next hid _ =>
      obtain ⟨behalf, -, rfl⟩ := Option.map_eq_some_iff.mp h
      exact hid
    · cases h

theorem actorFromRequest_actsBy {config : LoadedConfig} {headers : Headers} {actor : RequestActor}
    (h : actorFromRequest config headers = some actor) :
    headers.actorRole.bind roleSchema = some actor.actorType ∧ actor.ActsBy headers := by
  rw [actorFromRequest] at h
  split at h
  · cases h
  · split at h
    next hrole =>
      obtain ⟨behalf, hbehalf, rfl⟩ := Option.map_eq_some_iff.mp h
      exact ⟨hrole, behalf, hbehalf, rfl, rfl⟩
    · cases h

theorem SessionActor.requestActor_eq_some {session : SessionActor} {headers : Headers}
    {actor : RequestActor} (h : session.requestActor headers = some actor) :
    actor.actorId = session.userId ∧ actor.actorType = session.role ∧ actor.ActsBy headers ∧
      actor.accountStatus = (some session.accountStatus).filter (· ≠ "") := by
  obtain ⟨behalf, hbehalf, rfl⟩ := Option.map_eq_some_iff.mp h
  exact ⟨rfl, rfl, ⟨behalf, hbehalf, rfl, rfl⟩, rfl⟩

theorem Service.sessionActor_eq_some {s : Service} {digest : Digest} {role : Role} {timestamp : ℤ}
    {found : SessionActor} (h : s.sessionActor digest role timestamp = some found) :
    found.role = role ∧
      (∃ session ∈ s.sessions, session.Live digest timestamp ∧ session.userId = found.userId) ∧
      (∃ account ∈ s.accounts, account.id = found.userId ∧ account.status = found.accountStatus) ∧
      ∃ grant ∈ s.database.roleGrants, grant.userId = found.userId ∧ grant.role = role := by
  simp only [sessionActor, Option.bind_eq_bind, Option.bind_eq_some_iff] at h
  obtain ⟨session, hsession, account, haccount, h⟩ := h
  rw [liveSession] at hsession
  split at h
  · cases h
  next hgrants =>
    obtain ⟨grant, hgrant⟩ := List.exists_mem_of_ne_nil _ hgrants
    obtain ⟨hmem, hgranted⟩ := List.mem_filter.mp hgrant
    simp only [Bool.and_eq_true, decide_eq_true_eq] at hgranted
    obtain ⟨haccount, hid⟩ := lookupBy_mem haccount
    cases h
    exact ⟨rfl, ⟨session, List.mem_of_find?_eq_some hsession,
      by simpa using List.find?_some hsession, rfl⟩, ⟨account, haccount, hid, rfl⟩,
      grant, hmem, hgranted⟩

end Nayasetu
