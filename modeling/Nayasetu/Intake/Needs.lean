import Nayasetu.Access
import Nayasetu.Allocation.DirectoryOrder
import Nayasetu.Credential.Operations
import Nayasetu.Values.Bigint
import Nayasetu.Values.Fixed

/-!
# Requests for help

The routes that take in a request, route it, show the paid directory and let a citizen choose from
it.

## The counters

A directory is generated once for a request and stored. Each provider in it has its counter raised
by one, in the order of the directory, and keeps the position it had. Later calls read what is
stored.

## What the checks see

The authority over a citizen is checked inside the transaction, on what is committed by then. The
request itself is read under a lock, so two calls about one request do not both allocate it.
-/

namespace Nayasetu

open Values RowLock Collections

/-! ## Tables -/

namespace Database

def insertNeed (row : NeedRequest) (db : Database) : Database :=
  { db with needs := db.needs ++ [row] }

/-- Replace the request with the same identifier. -/
def updateNeed (row : NeedRequest) (db : Database) : Database :=
  { db with needs := replaceBy (·.id) row db.needs }

def insertDecision (row : EligibilityDecision) (db : Database) : Database :=
  { db with decisions := db.decisions ++ [row] }

def insertSurface (row : DirectorySurface) (db : Database) : Database :=
  { db with surfaces := db.surfaces ++ [row] }

def incrementCounter (providerId : ℕ) (db : Database) : Database :=
  { db with counters := db.counters.map fun counter ↦
      if counter.providerId = providerId then
        { counter with surfacedCount := counter.surfacedCount + 1 }
      else counter }

/-- How often a provider has been shown, as the directory reads it. -/
def surfacedCount (db : Database) (providerId : ℕ) : ℤ :=
  ((db.counters.find? (·.providerId = providerId)).map (·.surfacedCount)).getD 0

def insertAllocation (row : Allocation) (db : Database) : Database :=
  { db with allocations := db.allocations ++ [row] }

def needWithRoute (db : Database) (id : ℕ) : Option (NeedRequest × EligibilityDecision) := do
  let need ← db.need id
  let decision ← db.decision need.id
  return (need, decision)

def surfacesOf (db : Database) (needRequestId : ℕ) : List DirectorySurface :=
  db.surfaces.filter (·.needRequestId = needRequestId)

def activeAllocation (db : Database) (needRequestId : ℕ) : Option Allocation :=
  db.allocations.find? fun row ↦ row.needRequestId = needRequestId && row.status = .assigned

end Database

/-- `SELECT n.*, e.route … WHERE n.id = $1 FOR UPDATE`. -/
def selectNeedForUpdate (id : ℕ) : Tx (Option (NeedRequest × EligibilityDecision)) := do
  match (← snapshot).needWithRoute id with
  | none => return none
  | some _ =>
    let _ ← lock (.needRequest id)
    return (← lock (.eligibilityDecision id)).needWithRoute id

/-- `INSERT INTO allocation`: the index on the active allocation of a request waits for the
transaction that is ending the one in its way. -/
def insertAllocation (row : ℕ → Allocation) : Tx ℕ := do
  let id ← nextval
  let db ← lock (.oneActiveAllocation (row id).needRequestId)
  let db ← match db.activeAllocation (row id).needRequestId with
    | none => pure db
    | some active => lock (.allocation active.id)
  ensure (db.activeAllocation (row id).needRequestId = none) (.database "23505"
    "duplicate key value violates unique constraint \"allocation_one_active_per_need\"")
  write (Database.insertAllocation (row id))
  return id

section Writes

variable {W : (Database → Database) → Prop}

theorem writes_selectNeedForUpdate {id : ℕ} : (selectNeedForUpdate id).Writes W := by
  refine writes_bind writes_snapshot fun db ↦ ?_
  cases db.needWithRoute id with
  | none => exact writes_pure
  | some found =>
    exact writes_bind writes_lock fun _ ↦ writes_bind writes_lock fun _ ↦ writes_pure

theorem writes_insertAllocation {row : ℕ → Allocation}
    (h : ∀ n, W (Database.insertAllocation (row n))) : (insertAllocation row).Writes W := by
  refine writes_bind writes_nextval fun n ↦ writes_bind writes_lock fun db ↦ ?_
  cases db.activeAllocation (row n).needRequestId
  all_goals
    refine writes_bind ?_ fun _ ↦ writes_bind writes_ensure fun _ ↦
      writes_bind (writes_write (h n)) fun _ ↦ writes_pure
  · exact writes_pure
  · exact writes_lock

end Writes

/-! ## Intake

Everything that can be refused without the database is refused first, in the order of the source.
-/

/-- The body of `POST /v1/needs`. -/
structure NeedBody where
  citizenUserId : ℕ
  taxonomyCode : Option String
  narrative : Option String
  district : String
  language : String
  modePreference : String
  feeCeiling : Option ℚ
  urgency : String
  channel : String
  selfDeclaredSection12Category : Option String

/-- `needSchema`. -/
def NeedBody.Valid (body : NeedBody) : Prop :=
  (∀ text ∈ body.taxonomyCode, BoundedText 100 text) ∧
    (∀ text ∈ body.narrative, BoundedText 10000 text) ∧ BoundedText 200 body.district ∧
    BoundedText 40 body.language ∧ BoundedText 40 body.modePreference ∧
    (∀ amount ∈ body.feeCeiling, 0 ≤ amount) ∧ BoundedText 40 body.urgency ∧
    BoundedText 40 body.channel ∧
    ∀ text ∈ body.selfDeclaredSection12Category, BoundedText 100 text

instance (body : NeedBody) : Decidable body.Valid := inferInstanceAs (Decidable (_ ∧ _))

/-- The most specific fee floor that is configured. -/
def AppConfig.floor (config : AppConfig) (district taxonomyCode : String) : Option DistrictFloor :=
  (floorAt config.districtFeeFloors (district ++ ":" ++ taxonomyCode)).or
    ((floorAt config.districtFeeFloors district).or
      ((floorAt config.districtFeeFloors "DEFAULT").or
        (if config.nodeEnv = .development then some (.amount 500) else none)))

/-- The row of a new request. -/
def NeedBody.row (body : NeedBody) (actor : ActorContext) (taxonomyCode : String)
    (feeCeiling : Option ℤ) (createdAt : ℤ) (id : ℕ) : NeedRequest where
  id := id
  citizenUserId := body.citizenUserId
  operatorDelegationId := actor.delegationId
  taxonomyCode := taxonomyCode
  district := body.district
  language := body.language
  modePref := body.modePreference
  feeCeiling := feeCeiling
  urgency := body.urgency
  channel := body.channel
  createdAt := createdAt
  directoryProviderType := none
  directoryMinimumTier := none
  directoryGeneratedAt := none

/-- The row of a routing decision. -/
def RoutingDecision.row (decision : RoutingDecision) (needRequestId : ℕ) (decidedAt : ℤ) :
    EligibilityDecision where
  needRequestId := needRequestId
  section12Category := decision.section12Category
  selfDeclared := decision.selfDeclared
  route := decision.route
  decidedAt := decidedAt

/-- An amount for a `numeric(14,2)` column. -/
def toMoney (amount : ℚ) : Tx ℤ :=
  match fixedPoint 14 2 amount with
  | some units => return units
  | none => throw (.database "22003" "numeric field overflow")

/-- The transaction of `POST /v1/needs`. -/
def createNeedInTransaction (actor : ActorContext) (body : NeedBody) (taxonomyCode : String)
    (decision : RoutingDecision) (timestamp : ℤ) : Tx ℕ := do
  assertCitizenAuthority actor body.citizenUserId
  ensureText [taxonomyCode, body.district, body.language, body.modePreference, body.urgency,
    body.channel]
  let feeCeiling ← match body.feeCeiling with
    | none => pure none
    | some amount => some <$> toMoney amount
  let id ← nextval
  write (Database.insertNeed (body.row actor taxonomyCode feeCeiling timestamp id))
  ensureText decision.section12Category.toList
  write (Database.insertDecision (decision.row id timestamp))
  writeAudit actor {
    action := "need.created_and_routed", entityType := "need_request", entityId := uuidText id,
    afterSummary := some (.object [("taxonomyCode", .string taxonomyCode),
      ("district", .string body.district), ("channel", .string body.channel),
      ("route", .string decision.route.text)]) }
  return id

/-- `POST /v1/needs`; the new request and its route. -/
def createNeed (config : AppConfig) (actor : ActorContext) (body : NeedBody) :
    Tx (ℕ × EligibilityRoute) := do
  requireActor actor [.citizen, .operator]
  parseBody body.Valid
  match body.taxonomyCode with
  | none =>
    throw (.app 503 "CLASSIFIER_UNAVAILABLE"
      "A reviewed taxonomy code is required because no LLM classifier adapter is configured")
  | some taxonomyCode =>
    ensure (config.taxonomyCodes ≠ [])
      (.app 503 "TAXONOMY_NOT_CONFIGURED" "The reviewed taxonomy dataset is not configured")
    ensure (taxonomyCode ∈ config.taxonomyCodes)
      (.app 422 "UNKNOWN_TAXONOMY_CODE" "Taxonomy code is outside the configured closed set")
    let floor := config.floor body.district taxonomyCode
    let category := truthy body.selfDeclaredSection12Category
    ensure (category ≠ none ∨ body.feeCeiling = none ∨ floor ≠ none)
      (.app 503 "ELIGIBILITY_POLICY_NOT_CONFIGURED"
        "District fee floor is required before routing this request")
    let decision := decideEligibility ⟨category, body.feeCeiling, floor⟩
    let id ← withTransaction (createNeedInTransaction actor body taxonomyCode decision)
    return (id, decision.route)

/-- `GET /v1/needs/:id/referral`; the route. -/
def referral (actor : ActorContext) (needId : ℕ) : Tx EligibilityRoute := do
  requireActor actor [.citizen, .operator]
  match (← snapshot).needWithRoute needId with
  | none => throw (.app 404 "NEED_NOT_FOUND" "Need request was not found")
  | some (need, decision) =>
    assertCitizenAuthority actor need.citizenUserId
    ensure (decision.route ≠ .paid)
      (.app 409 "REFERRAL_NOT_APPLICABLE" "Request is routed to paid directory")
    return decision.route

/-! ## The directory

The candidates are read in one statement. The loop that stores them takes the lock of one counter
after the other, in the order of the directory and not in one common to all requests.
-/

/-- The query of `GET /v1/needs/:id/directory`. -/
structure DirectoryQuery where
  providerType : String
  minimumTier : VerificationTier
  deriving DecidableEq

/-- A full verification counts only until it expires. -/
def Provider.TierCurrent (provider : Provider) (timestamp : ℤ) : Prop :=
  provider.tier ≠ .fullyVerified ∨ ∃ expiresAt ∈ provider.tierExpiresAt, timestamp < expiresAt

instance (provider : Provider) (timestamp : ℤ) : Decidable (provider.TierCurrent timestamp) :=
  inferInstanceAs (Decidable (_ ∨ _))

/-- The `WHERE` clause of the directory and of the selection. -/
def Provider.Suits (provider : Provider) (service : ProviderService) (config : AppConfig)
    (need : NeedRequest) (query : DirectoryQuery) (timestamp : ℤ) : Prop :=
  provider.providerType = query.providerType ∧ provider.status ∈ config.providerActiveStatuses ∧
    service.taxonomyCode = need.taxonomyCode ∧ provider.district = need.district ∧
    need.language ∈ provider.languages ∧ need.modePref ∈ provider.serviceModes ∧
    (∀ feeCeiling ∈ need.feeCeiling, service.feeMin ≤ feeCeiling) ∧
    query.minimumTier ≤ provider.tier ∧ provider.TierCurrent timestamp

instance (provider : Provider) (service : ProviderService) (config : AppConfig) (need : NeedRequest)
    (query : DirectoryQuery) (timestamp : ℤ) :
    Decidable (provider.Suits service config need query timestamp) :=
  inferInstanceAs (Decidable (_ ∧ _))

def Provider.directoryRow (provider : Provider) (service : ProviderService) :
    DirectoryProviderRow where
  providerId := provider.id
  displayName := provider.displayName
  tier := provider.tier
  languages := provider.languages
  feeMin := service.feeMin
  feeMax := service.feeMax

/-- The candidates of a directory, with the times they have been shown. -/
def directoryCandidates (config : AppConfig) (need : NeedRequest) (query : DirectoryQuery)
    (timestamp : ℤ) (db : Database) : List (DirectoryProviderRow × ℤ) :=
  db.providers.flatMap fun provider ↦
    (db.services.filter fun service ↦ service.providerId = provider.id &&
        decide (provider.Suits service config need query timestamp)).map fun service ↦
      (provider.directoryRow service, db.surfacedCount provider.id)

/-- `UPDATE provider_surface_counter SET surfaced_count = surfaced_count + 1`, which fails where the
sum is not a `bigint`. -/
def countShowing (providerId : ℕ) : Tx ℕ := do
  let updated ← updateRow (.surfaceCounter providerId)
    (fun db ↦ db.counters.any (·.providerId = providerId)) (Database.incrementCounter providerId)
  ensure ((← snapshot).surfacedCount providerId ≤ bigintMax)
    (.database "22003" "bigint out of range")
  return updated

/-- The loop that stores the ordered candidates, from position `position` on. -/
def storeSurfaces (need : NeedRequest) (query : DirectoryQuery)
    (rows : List (DirectoryProviderRow × ℤ)) : ℕ → List DirectoryCandidate →
      Tx (List DirectoryProviderRow)
  | _, [] => return []
  | position, candidate :: candidates => do
    match rows.find? (·.1.providerId = candidate.providerId) with
    | none => throw (.error "Ordered directory candidate was not found")
    | some source =>
      let surface : DirectorySurface := {
        needRequestId := need.id, providerId := candidate.providerId, position := position,
        seed := uuidText need.id, surfacedCountSnapshot := bigintOfNumber candidate.surfacedCount,
        providerSnapshot := source.1, filterSnapshot := (query.providerType, query.minimumTier) }
      ensure (surface.surfacedCountSnapshot ≤ bigintMax) (.database "22003"
        ("value \"" ++ toString surface.surfacedCountSnapshot ++
          "\" is out of range for type bigint"))
      ensure (∀ other ∈ (← snapshot).surfacesOf need.id,
          other.providerId ≠ surface.providerId ∧ other.position ≠ surface.position)
        (.database "23505" "duplicate key value violates unique constraint on directory_surface")
      write (Database.insertSurface surface)
      let _ ← countShowing candidate.providerId
      let stored ← storeSurfaces need query rows (position + 1) candidates
      return source.1 :: stored

section Directory

variable (config : AppConfig) (seededKey : String → String → String)

def generateDirectory (actor : ActorContext) (need state : NeedRequest) (query : DirectoryQuery)
    (timestamp : ℤ) : Tx (List DirectoryProviderRow) := do
  let filtered := { state with
    directoryProviderType := some query.providerType
    directoryMinimumTier := some query.minimumTier }
  write (Database.updateNeed filtered)
  let rows ← anyOrder (directoryCandidates config need query timestamp (← snapshot))
  let ordered := orderDirectoryCandidates seededKey (uuidText need.id) uuidText
    (rows.map fun row ↦ ⟨row.1.providerId, numberOfBigint row.2⟩)
  let stored ← storeSurfaces need query rows 1 ordered
  write (Database.updateNeed { filtered with directoryGeneratedAt := some timestamp })
  writeAudit actor {
    action := "directory.surfaced", entityType := "need_request", entityId := uuidText need.id,
    afterSummary := some (.object [("providerCount", .number (.ofInt ordered.length)),
      ("ordering", .string "ROTATED"), ("seed", .string (uuidText need.id))]) }
  return stored

/-- The transaction of `GET /v1/needs/:id/directory`. -/
def directoryInTransaction (actor : ActorContext) (need : NeedRequest) (query : DirectoryQuery)
    (timestamp : ℤ) : Tx (List DirectoryProviderRow) := do
  assertCitizenAuthority actor need.citizenUserId
  match ← selectForUpdate (.needRequest need.id) (·.need need.id) with
  | none => throw (.app 404 "NEED_NOT_FOUND" "Need request was not found")
  | some state =>
    ensure (state.directoryProviderType = none ∨
        (state.directoryProviderType = some query.providerType ∧
          state.directoryMinimumTier = some query.minimumTier))
      (.app 409 "DIRECTORY_FILTER_MISMATCH"
        "The persisted directory was generated with different filters")
    if state.directoryGeneratedAt ≠ none then
      let surfaces := (← snapshot).surfacesOf need.id
      return (sortBy (fun a b ↦ (a.position : ℤ) - b.position) surfaces).map (·.providerSnapshot)
    else generateDirectory config seededKey actor need state query timestamp

/-- `GET /v1/needs/:id/directory`; the request and its providers. -/
def directory (actor : ActorContext) (needId : ℕ) (query : DirectoryQuery) :
    Tx (NeedRequest × List DirectoryProviderRow) := do
  requireActor actor [.citizen, .operator]
  parseBody (BoundedText 100 query.providerType)
  match (← snapshot).needWithRoute needId with
  | none => throw (.app 404 "NEED_NOT_FOUND" "Need request was not found")
  | some (need, decision) =>
    assertCitizenAuthority actor need.citizenUserId
    ensure (decision.route = .paid)
      (.app 409 "DIRECTORY_NOT_ALLOWED" "This request is routed away from paid directory")
    ensure (config.providerActiveStatuses ≠ [])
      (.app 503 "PROVIDER_STATUS_POLICY_NOT_CONFIGURED"
        "Directory-visible provider statuses have not been supplied")
    let providers ← withTransaction (directoryInTransaction config seededKey actor need query)
    return (need, providers)

end Directory

/-! ## Selection

The chosen provider has to be shown in the stored directory and still to be eligible.
-/

/-- The selection query, `FOR UPDATE OF p`: the services are those of the statement's snapshot. -/
def selectEligibleProvider (config : AppConfig) (need : NeedRequest) (query : DirectoryQuery)
    (providerId : ℕ) (timestamp : ℤ) : Tx Bool := do
  let db ← snapshot
  let eligible (db' : Database) : Bool := (db'.provider providerId).any fun provider ↦
    db.services.any fun service ↦ service.providerId = providerId &&
      decide (provider.Suits service config need query timestamp)
  if !eligible db then return false
  return eligible (← lock (.provider providerId))

def chosenAllocation (actor : ActorContext) (surface : DirectorySurface) (timestamp : ℤ) (id : ℕ) :
    Allocation where
  id := id
  needRequestId := surface.needRequestId
  providerId := surface.providerId
  mode := .citizenChoice
  rosterId := none
  seed := some surface.seed
  position := some surface.position
  decidedAt := timestamp
  decidedBy := actor.actorId
  status := .assigned
  endedAt := none
  declineReason := none

/-- The transaction of `POST /v1/needs/:id/select`. -/
def selectInTransaction (config : AppConfig) (actor : ActorContext) (needId providerId : ℕ)
    (timestamp : ℤ) : Tx ℕ := do
  match ← selectNeedForUpdate needId with
  | none => throw (.app 404 "NEED_NOT_FOUND" "Need request was not found")
  | some (need, decision) =>
    assertCitizenAuthority actor need.citizenUserId
    ensure (decision.route = .paid)
      (.app 409 "CITIZEN_SELECTION_NOT_ALLOWED" "Request uses rotation/referral")
    match ((← snapshot).surfacesOf need.id).find? (·.providerId = providerId) with
    | none => throw (.app 400 "PROVIDER_NOT_SURFACED" "Provider was not in the persisted directory")
    | some surfaced =>
      match need.directoryProviderType.filter (· ≠ ""), need.directoryMinimumTier with
      | some providerType, some minimumTier =>
        ensure (← selectEligibleProvider config need ⟨providerType, minimumTier⟩
          providerId timestamp)
          (.app 409 "PROVIDER_NO_LONGER_ELIGIBLE"
            "The selected provider no longer satisfies the persisted directory filters")
        let id ← insertAllocation (chosenAllocation actor surfaced timestamp)
        writeAudit actor {
          action := "allocation.citizen_selected", entityType := "allocation", entityId :=
          uuidText id, afterSummary := some (.object [("needRequestId", .string (uuidText need.id)),
            ("providerId", .string (uuidText providerId)),
            ("position", .number (.ofInt surfaced.position))]) }
        return id
      | _, _ =>
        throw (.app 409 "DIRECTORY_STATE_INCOMPLETE"
          "The persisted directory filters are incomplete")

/-- `POST /v1/needs/:id/select`; the allocation. -/
def select (config : AppConfig) (actor : ActorContext) (needId providerId : ℕ) : Tx ℕ := do
  requireActor actor [.citizen, .operator]
  withTransaction (selectInTransaction config actor needId providerId)

end Nayasetu
