import Nayasetu.Intake.Needs

/-!
# Providers

The routes that create a provider. Each gives the new provider its counter in the same transaction,
with no showings yet.

A citizen makes a provider of the own account and gets the role with it; an administrator or the
provider concerned makes one for an account that has the role. Everything is inserted in one
transaction, so a provider is never seen without its services or its counter.
-/

namespace Nayasetu

open Values RowLock Collections

/-! ## Tables -/

namespace Database

/-- `INSERT INTO role_grant … ON CONFLICT DO NOTHING`. -/
def insertRoleGrant (row : RoleGrant) (db : Database) : Database :=
  { db with roleGrants := if row ∈ db.roleGrants then db.roleGrants else db.roleGrants ++ [row] }

def insertProvider (row : Provider) (db : Database) : Database :=
  { db with providers := db.providers ++ [row] }

def insertService (row : ProviderService) (db : Database) : Database :=
  { db with services := db.services ++ [row] }

def insertCounter (row : ProviderSurfaceCounter) (db : Database) : Database :=
  { db with counters := db.counters ++ [row] }

end Database

/-! ## Bodies -/

/-- A service of a profile. -/
structure ServiceBody where
  taxonomyCode : String
  feeMin : ℚ
  feeMax : ℚ
  proBonoAvailable : Bool

/-- The body of `POST /v1/me/provider`. -/
structure ProviderProfileBody where
  providerType : String
  displayName : String
  district : String
  state : String
  languages : List String
  serviceModes : List String
  services : List ServiceBody

/-- `providerProfileSchema`. -/
def ProviderProfileBody.Valid (body : ProviderProfileBody) : Prop :=
  BoundedText 100 body.providerType ∧ BoundedText 200 body.displayName ∧
    BoundedText 200 body.district ∧ BoundedText 200 body.state ∧
    ((∀ text ∈ body.languages, BoundedText 40 text) ∧ body.languages.length ≤ 30) ∧
    ((∀ text ∈ body.serviceModes, BoundedText 40 text) ∧ body.serviceModes.length ≤ 20) ∧
    (∀ service ∈ body.services,
      BoundedText 100 service.taxonomyCode ∧ 0 ≤ service.feeMin ∧ 0 ≤ service.feeMax) ∧
    body.services.length ≤ 100

instance ProviderProfileBody.decidableValid (body : ProviderProfileBody) : Decidable body.Valid :=
  inferInstanceAs (Decidable (_ ∧ _))

/-- The row of a new provider. -/
def ProviderProfileBody.row (body : ProviderProfileBody) (userId : ℕ) (status : String) (id : ℕ) :
    Provider where
  id := id
  userId := userId
  providerType := body.providerType
  displayName := body.displayName
  district := body.district
  languages := body.languages
  serviceModes := body.serviceModes
  status := status
  tier := .selfDeclared
  tierDecidedAt := none
  tierExpiresAt := none

/-! ## Routes -/

/-- What both routes ask of a service, once there is a taxonomy. -/
def checkService (config : AppConfig) (service : ServiceBody) : Except Failure Unit := do
  require (service.feeMin ≤ service.feeMax)
    (.app 400 "VALIDATION_ERROR" "feeMax must be greater than or equal to feeMin")
  require (service.taxonomyCode ∈ config.taxonomyCodes)
    (.app 422 "UNKNOWN_TAXONOMY_CODE"
      "A provider service uses a code outside the configured taxonomy")

def insertServices (providerId : ℕ) : List ServiceBody → Tx Unit
  | [] => return ()
  | service :: services => do
    let feeMin ← toMoney service.feeMin
    let feeMax ← toMoney service.feeMax
    ensure (feeMin ≤ feeMax) (.database "23514" "new row for relation violates a check constraint")
    ensure (∀ other ∈ (← snapshot).services,
        ¬ (other.providerId = providerId ∧ other.taxonomyCode = service.taxonomyCode))
      (.database "23505" "duplicate key value violates unique constraint \"provider_service_pkey\"")
    write (Database.insertService
      ⟨providerId, service.taxonomyCode, feeMin, feeMax, service.proBonoAvailable⟩)
    insertServices providerId services

/-- The inserts of both routes; the new provider. -/
def insertProvider (actor : ActorContext) (userId : ℕ) (body : ProviderProfileBody)
    (status : String)
    (action : String) : Tx ℕ := do
  ensureText ([body.providerType, body.displayName, body.district, body.state, status] ++
    body.languages ++ body.serviceModes)
  let id ← nextval
  ensure (∀ other ∈ (← snapshot).providers, other.userId ≠ userId)
    (.database "23505" "duplicate key value violates unique constraint \"provider_user_id_key\"")
  write (Database.insertProvider (body.row userId status id))
  insertServices id body.services
  write (Database.insertCounter ⟨id, 0⟩)
  writeAudit actor {
    action := action, entityType := "provider", entityId := uuidText id,
    afterSummary := some (.object [("providerType", .string body.providerType),
      ("district", .string body.district), ("state", .string body.state)]) }
  return id

/-- `POST /v1/me/provider`; the provider. -/
def createOwnProvider (config : AppConfig) (initialStatus : Option String) (actor : ActorContext)
    (body : ProviderProfileBody) : Tx ℕ := do
  requireActor actor [.citizen]
  parseBody body.Valid
  match initialStatus.filter (· ≠ "") with
  | none =>
    throw (.app 503 "PROVIDER_STATUS_POLICY_NOT_CONFIGURED"
      "The initial provider status policy has not been supplied")
  | some status =>
    ensure (config.taxonomyCodes ≠ [])
      (.app 503 "TAXONOMY_NOT_CONFIGURED" "Provider services require a configured taxonomy dataset")
    fromExcept (forEach body.services (checkService config))
    withTransaction fun _ ↦ do
      ensure (∀ other ∈ (← snapshot).providers, other.userId ≠ actor.actorId)
        (.app 409 "PROVIDER_ALREADY_EXISTS" "A provider profile already exists for this account")
      write (Database.insertRoleGrant ⟨actor.actorId, .provider, ""⟩)
      insertProvider { actor with actorType := .provider } actor.actorId body status
        "provider.created.self_served"

/-- `POST /v1/providers`; the provider. -/
def createProvider (config : AppConfig) (initialStatus : Option String) (actor : ActorContext)
    (userId : ℕ) (body : ProviderProfileBody) : Tx ℕ := do
  requireActor actor [.provider, .admin]
  parseBody body.Valid
  match initialStatus.filter (· ≠ "") with
  | none =>
    throw (.app 503 "PROVIDER_STATUS_POLICY_NOT_CONFIGURED"
      "The initial provider status policy has not been supplied")
  | some status =>
    ensure (actor.actorType ≠ .provider ∨ actor.actorId = userId)
      (.app 403 "FORBIDDEN" "Providers may create only their own profile")
    fromExcept (forEach body.services fun service ↦ do
      require (service.feeMin ≤ service.feeMax)
        (.app 400 "VALIDATION_ERROR" "feeMax must be greater than or equal to feeMin")
      require (config.taxonomyCodes ≠ [])
        (.app 503 "TAXONOMY_NOT_CONFIGURED"
          "Provider services require a configured taxonomy dataset")
      require (service.taxonomyCode ∈ config.taxonomyCodes)
        (.app 422 "UNKNOWN_TAXONOMY_CODE"
          "A provider service uses a code outside the configured taxonomy"))
    withTransaction fun _ ↦ do
      ensure (∃ grant ∈ (← snapshot).roleGrants, grant.userId = userId ∧ grant.role = .provider)
        (.app 404 "PROVIDER_ROLE_NOT_FOUND" "Provider role grant was not found")
      insertProvider actor userId body status "provider.created"

end Nayasetu
