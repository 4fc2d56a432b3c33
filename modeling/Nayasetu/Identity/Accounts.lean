import Nayasetu.Identity.Actors
import Nayasetu.Intake.Providers

/-!
# Accounts and sessions

Signing in with Google, completing the profile that makes an account active, and signing out.

What Google answers is not known, so the two requests to it are functions of a response that the
environment chooses. An answer with another status, without a text where one is expected, or with
an address that is not verified is refused.
-/

namespace Nayasetu

open Values RowLock Collections

/-! ## Tables -/

/-- `UPDATE user_account SET status = 'ACTIVE' WHERE id = $1 AND status = 'PENDING_PROFILE'`, on one
row. -/
def UserAccount.activate (id : ℕ) (account : UserAccount) : UserAccount :=
  if account.id = id ∧ account.status = "PENDING_PROFILE" then { account with status := "ACTIVE" }
  else account

/-- `UPDATE auth_session SET revoked_at = now() WHERE id = $1`, on one row. -/
def AuthSession.revoke (id : ℕ) (timestamp : ℤ) (session : AuthSession) : AuthSession :=
  if session.id = id then { session with revokedAt := some timestamp } else session

namespace Service

def insertAccount (row : UserAccount) (s : Service) : Service :=
  { s with accounts := s.accounts ++ [row] }

def activate (id : ℕ) (s : Service) : Service :=
  { s with accounts := s.accounts.map (·.activate id) }

def insertSession (row : AuthSession) (s : Service) : Service :=
  { s with sessions := s.sessions ++ [row] }

def revokeSession (id : ℕ) (timestamp : ℤ) (s : Service) : Service :=
  { s with sessions := s.sessions.map (·.revoke id timestamp) }

/-- `INSERT INTO citizen_profile … ON CONFLICT (user_id) DO UPDATE`. -/
def putProfile (row : CitizenProfile) (s : Service) : Service :=
  { s with profiles :=
      if ∃ other ∈ s.profiles, other.userId = row.userId then replaceBy (·.userId) row s.profiles
      else s.profiles ++ [row] }

/-- The profile of an account. -/
def profile (s : Service) (userId : ℕ) : Option CitizenProfile :=
  lookupBy (·.userId) userId s.profiles

end Service

/-! ## Google

An address belongs to one account. Two sign-ins of a new address race for the unique key on it:
the second one waits for the first, inserts nothing and reads the account that is there.
-/

/-- A response of `fetch`: whether its status is one of success, and its body if that is JSON. -/
structure FetchResponse where
  ok : Bool
  json : Option Json

/-- The body of a response of success. -/
def FetchResponse.payload (response : Option FetchResponse) (failed : String) :
    Except Failure Json :=
  match response with
  | none => .error (.error "fetch failed")
  | some response =>
    if response.ok then
      match response.json with
      | none => .error (.error "Unexpected token in JSON")
      | some doc => .ok doc
    else .error (.error failed)

/-- `exchangeGoogleAuthorizationCode`, by what the token endpoint answers. -/
def exchangeGoogleAuthorizationCode (response : Option FetchResponse) :
    Except Failure JsString := do
  let payload ← FetchResponse.payload response "Google token exchange failed"
  match jsonField payload "access_token" with
  | some (.string token) =>
    if token = [] then .error (.error "Google token exchange returned no access token")
    else .ok token
  | _ => .error (.error "Google token exchange returned no access token")

/-- `fetchGoogleVerifiedEmail`, by what the userinfo endpoint answers; the address. -/
def fetchGoogleVerifiedEmail (response : Option FetchResponse) : Except Failure JsString := do
  let payload ← FetchResponse.payload response "Google userinfo request failed"
  match jsonField payload "sub" with
  | some (.string subject) =>
    require (subject ≠ []) (.error "Google userinfo response is missing a subject identifier")
  | _ => .error (.error "Google userinfo response is missing a subject identifier")
  match jsonField payload "email" with
  | some (.string email) =>
    require (64 ∈ email) (.error "Google userinfo response is missing a usable email")
    match jsonField payload "email_verified" with
    | some (.bool true) => return email
    | _ => .error (.error "Google account email is not verified")
  | _ => .error (.error "Google userinfo response is missing a usable email")

/-- What reaches the callback: the query, with what is not a string left out, the answers of the two
endpoints and the bytes of the new token. -/
structure GoogleCallback where
  error : Option JsString
  code : Option JsString
  state : Option JsString
  tokenResponse : Option FetchResponse
  userinfoResponse : Option FetchResponse
  randomBytes : Digest

/-- `requireLiveGoogleAuth`; the pepper. -/
def requireLiveGoogleAuth (config : LoadedConfig) : Except Failure JsString :=
  if config.authGoogle.mode ≠ .live ∨ isMissing config.authGoogle.clientId = true ∨
      isMissing config.authGoogle.clientSecret = true ∨
      isMissing config.authGoogle.redirectUri = true ∨
      isMissing config.authGoogle.frontendUrl = true ∨ config.authMode ≠ .session ∨
      isMissing config.sessionTokenPepper = true then
    .error (.app 503 "CAPABILITY_UNAVAILABLE" "Google authentication is not configured")
  else .ok (config.sessionTokenPepper.getD [])

/-- `IssuedGoogleSession`. -/
structure IssuedGoogleSession where
  userId : ℕ
  sessionToken : JsString
  expiresAt : ℤ
  accountCreated : Bool
  accountStatus : String

/-- `INSERT INTO user_account … ON CONFLICT (email) DO NOTHING RETURNING id`: an address that
another transaction is inserting is waited for. -/
def insertAccount (email : JsString) : ServiceTx (Option ℕ) := do
  check (0 ∉ email) (.database "22021" "invalid byte sequence for encoding \"UTF8\": 0x00")
  let id ← nextval
  match (← snapshot).accountOf email with
  | some _ => return none
  | none =>
    match (← lock (.accountEmail email)).accountOf email with
    | some _ => return none
    | none =>
      write (Service.insertAccount ⟨id, some email, "PENDING_PROFILE"⟩)
      return some id

def existingAccount (email : JsString) : ServiceTx (ℕ × Bool × String) := do
  match (← snapshot).accountOf email with
  | none => throw (.error "Google identity could not be resolved to a user account")
  | some account => return (account.id, false, account.status)

/-- The account of an address, a new one if there is none; whether it is new, and its status. -/
def googleAccount (email : JsString) : ServiceTx (ℕ × Bool × String) := do
  match ← insertAccount email with
  | some id => return (id, true, "PENDING_PROFILE")
  | none => existingAccount email

/-- `INSERT INTO auth_session`. -/
def insertSession (userId : ℕ) (tokenDigest : Digest) (timestamp expiresAt : ℤ) : ServiceTx ℕ := do
  let id ← nextval
  let session : AuthSession := {
    id := id, userId := userId, tokenDigest := tokenDigest, createdAt := timestamp
    expiresAt := expiresAt, revokedAt := none }
  check session.RowCheck
    (.database "23514" "new row for relation \"auth_session\" violates check constraint")
  check (∀ other ∈ (← lock (.sessionDigest tokenDigest)).sessions, other.tokenDigest ≠ tokenDigest)
    (.database "23505"
      "duplicate key value violates unique constraint \"auth_session_token_digest_key\"")
  write (Service.insertSession session)
  return id

section Routes

/- `createHmac("sha256", pepper).update(text)`. -/
variable (hmacSha256 : JsString → JsString → Digest)

/-- The transaction of `issueGoogleCitizenSession`. -/
def issueInTransaction (email sessionToken : JsString) (tokenDigest : Digest) (ttlHours : ℤ)
    (requestId : String) (timestamp : ℤ) : ServiceTx IssuedGoogleSession := do
  let (userId, accountCreated, accountStatus) ← googleAccount email
  inDatabase (write (Database.insertRoleGrant ⟨userId, .citizen, ""⟩))
  let expiresAt := (← inDatabase dateNow) + ttlHours * 3600000
  let sessionId ← insertSession userId tokenDigest timestamp (expiresAt * 1000)
  let actor : ActorContext := {
    actorId := userId, actorType := .citizen, scopes := [], requestId := requestId }
  inDatabase (writeAudit actor {
    action := "auth.google_session_issued", entityType := "auth_session"
    entityId := uuidText sessionId
    afterSummary := some (.object [("accountCreated", .bool accountCreated),
      ("accountStatus", .string accountStatus)]) })
  return ⟨userId, sessionToken, expiresAt, accountCreated, accountStatus⟩

/-- `issueGoogleCitizenSession`. -/
def issueGoogleCitizenSession (email pepper : JsString) (ttlHours : ℤ) (requestId : String)
    (randomBytes : Digest) : ServiceTx IssuedGoogleSession :=
  let sessionToken := base64url randomBytes.val
  let tokenDigest := digestSessionToken hmacSha256 sessionToken pepper
  serviceTransaction (issueInTransaction email sessionToken tokenDigest ttlHours requestId)

/-- `STATE_MAX_AGE_MS`. -/
def stateMaxAgeMs : JsNumber := .finite 600000

/-- `GET /v1/auth/google/callback`; the session that is handed to the browser. -/
def googleCallback (config : LoadedConfig) (requestId : String) (callback : GoogleCallback) :
    ServiceTx IssuedGoogleSession := do
  check (callback.error.getD [] = [])
    (.app 400 "OAUTH_REQUEST_DENIED" "The authorization request was denied")
  check (callback.code.getD [] ≠ [] ∧ callback.state.getD [] ≠ [])
    (.app 400 "MISSING_OAUTH_PARAMETERS" "Missing authorization code or state")
  let pepper ← fromExcept (requireLiveGoogleAuth config)
  let time ← inDatabase dateNow
  check (verifyOAuthState hmacSha256 (callback.state.getD []) pepper stateMaxAgeMs
    (.finite time) = true)
    (.app 400 "INVALID_OAUTH_STATE" "The OAuth state parameter is invalid")
  let identity := do
    let _ ← exchangeGoogleAuthorizationCode callback.tokenResponse
    fetchGoogleVerifiedEmail callback.userinfoResponse
  match identity with
  | .error _ =>
    throw (.app 502 "IDENTITY_PROVIDER_UNAVAILABLE" "Google identity exchange failed")
  | .ok email =>
    issueGoogleCitizenSession hmacSha256 email pepper config.sessionTtlHours requestId
      callback.randomBytes

/-! ## Signing out

The session of the token is looked up again under a lock, so that it is revoked once.
-/

/-- `SELECT id FROM auth_session WHERE … FOR UPDATE`. -/
def selectSessionForUpdate (digest : Digest) (timestamp : ℤ) : ServiceTx (Option AuthSession) := do
  match (← snapshot).liveSession digest timestamp with
  | none => return none
  | some session => return (← lock (.session session.id)).liveSession digest timestamp

/-- The transaction of `DELETE /v1/auth/session`. -/
def revokeInTransaction (actor : ActorContext) (digest : Digest) (timestamp : ℤ) :
    ServiceTx Bool := do
  match ← selectSessionForUpdate digest timestamp with
  | none => return false
  | some session =>
    check (session.createdAt ≤ timestamp)
      (.database "23514" "new row for relation \"auth_session\" violates check constraint")
    write (Service.revokeSession session.id timestamp)
    inDatabase (writeAudit actor {
      action := "auth.session.revoked", entityType := "auth_session"
      entityId := uuidText session.id })
    return true

/-- `DELETE /v1/auth/session`; whether the session was revoked. -/
def revokeSession (config : LoadedConfig) (headers : Headers) (actor : Option RequestActor) :
    ServiceTx Bool := do
  let actor ← authenticated actor
  check (config.authMode = .session ∧ ¬ isMissing config.sessionTokenPepper = true)
    (.app 503 "CAPABILITY_UNAVAILABLE"
      "Session revocation requires database-backed session authentication")
  match bearerToken headers with
  | none => throw (.app 401 "UNAUTHENTICATED" "Authentication is required")
  | some token =>
    let digest := digestSessionToken hmacSha256 token (config.sessionTokenPepper.getD [])
    serviceTransaction (revokeInTransaction actor.toActorContext digest)

end Routes

/-! ## Profiles

A profile is written together with the activation of its account. What `me` shows is read from
several tables, one statement after another.
-/

/-- The body of `POST /v1/me/profile`. -/
structure ProfileBody where
  fullName : String
  addressLine1 : String
  addressLine2 : Option String
  city : String
  district : String
  state : String
  pincode : String

/-- `citizenProfileSchema`, which trims. -/
def ProfileBody.trimmed (body : ProfileBody) : ProfileBody where
  fullName := trim body.fullName
  addressLine1 := trim body.addressLine1
  addressLine2 := body.addressLine2.map trim
  city := trim body.city
  district := trim body.district
  state := trim body.state
  pincode := body.pincode

/-- `citizenProfileSchema`, of a trimmed body. -/
def ProfileBody.Valid (body : ProfileBody) : Prop :=
  BoundedText 200 body.fullName ∧ BoundedText 300 body.addressLine1 ∧
    (∀ text ∈ body.addressLine2, jsLength text ≤ 300) ∧ BoundedText 200 body.city ∧
    BoundedText 200 body.district ∧ BoundedText 200 body.state ∧
    body.pincode.toList.length = 6 ∧ ∀ c ∈ body.pincode.toList, c.isDigit = true

instance ProfileBody.decidableValid (body : ProfileBody) : Decidable body.Valid :=
  inferInstanceAs (Decidable (_ ∧ _))

/-- The row of a profile. -/
def ProfileBody.row (body : ProfileBody) (userId : ℕ) : CitizenProfile where
  userId := userId
  fullName := body.fullName
  addressLine1 := body.addressLine1
  addressLine2 := body.addressLine2
  city := body.city
  district := body.district
  state := body.state
  pincode := body.pincode

/-- The transaction of `POST /v1/me/profile`. -/
def completeInTransaction (actor : ActorContext) (body : ProfileBody) : ServiceTx Unit := do
  match ← selectForUpdate (.account actor.actorId) (·.account actor.actorId) with
  | none => throw (.app 404 "NOT_FOUND" "Account was not found")
  | some _ =>
    inDatabase
      (ensureText ([body.fullName, body.addressLine1, body.city, body.district, body.state] ++
      body.addressLine2.toList))
    write (Service.putProfile (body.row actor.actorId))
    write (Service.activate actor.actorId)
    inDatabase (writeAudit actor {
      action := "citizen.profile.completed", entityType := "citizen_profile"
      entityId := uuidText actor.actorId
      afterSummary := some (.object [("district", .string body.district),
        ("state", .string body.state)]) })

/-- `POST /v1/me/profile`. -/
def completeProfile (actor : Option RequestActor) (body : ProfileBody) : ServiceTx Unit := do
  let actor ← requireRequestActor actor [.citizen]
  let body := body.trimmed
  inDatabase (parseBody body.Valid)
  serviceTransaction fun _ ↦ completeInTransaction actor.toActorContext body

/-- `GET /v1/me/profile`. -/
def readProfile (actor : Option RequestActor) : ServiceTx (Option CitizenProfile) := do
  let actor ← requireRequestActor actor [.citizen]
  return ((← snapshot).profile actor.actorId).map fun row ↦
    { row with addressLine2 := row.addressLine2.filter (· ≠ "") }

/-- What `GET /v1/me` returns. -/
structure MeResponse where
  userId : ℕ
  accountStatus : Option String
  profileCompleted : Bool
  roles : List Role
  providerId : Option ℕ

/-- The place of a role in the order of the names. -/
def Role.rank : Role → ℤ
  | .admin => 0
  | .citizen => 1
  | .institution => 2
  | .operator => 3
  | .provider => 4

/-- `GET /v1/me`, with a snapshot for each of its queries. -/
def me (actor : Option RequestActor) : ServiceTx MeResponse := do
  let actor ← authenticated actor
  let roles := ((← snapshot).database.roleGrants.filter (·.userId = actor.actorId)).map (·.role)
  let profile := (← snapshot).profile actor.actorId
  let provider := (← snapshot).database.providers.find? (·.userId = actor.actorId)
  return {
    userId := actor.actorId, accountStatus := actor.accountStatus
    profileCompleted := profile.isSome, roles := sortBy (fun a b ↦ a.rank - b.rank) roles
    providerId := provider.map (·.id) }

end Nayasetu
