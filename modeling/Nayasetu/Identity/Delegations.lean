import Nayasetu.Identity.Actors

/-!
# Delegations, and what is read for a citizen

An operator opens a delegation for a citizen and closes it again. The routes about a grievance, a
matter and a payment ask for one as the routes of the database do. What is not available yet (the
slots of a provider, booking one of them, closing a matter, paying online or acknowledging a
payment) asks for no more than a role.
-/

namespace Nayasetu

open Values RowLock Collections

/-! ## Tables -/

/-- `UPDATE operator_delegation SET ended_at = now() WHERE id = $1 AND ended_at IS NULL`, on one
row. -/
def OperatorDelegation.close (id : ℕ) (timestamp : ℤ) (delegation : OperatorDelegation) :
    OperatorDelegation :=
  if delegation.id = id ∧ delegation.endedAt = none then
    { delegation with endedAt := some timestamp }
  else delegation

namespace Service

def insertDelegation (row : OperatorDelegation) (terms : DelegationTerms) (s : Service) : Service :=
  { s with
    database := { s.database with delegations := s.database.delegations ++ [row] }
    terms := s.terms ++ [terms] }

def closeDelegation (id : ℕ) (timestamp : ℤ) (s : Service) : Service :=
  { s with database :=
      { s.database with delegations := s.database.delegations.map (·.close id timestamp) } }

def openDelegation (s : Service) (id operatorUserId : ℕ) : Option OperatorDelegation :=
  s.database.delegations.find? fun delegation ↦ delegation.id = id &&
    delegation.operatorUserId = operatorUserId && delegation.endedAt.isNone

def termsOf (s : Service) (delegationId : ℕ) : Option DelegationTerms :=
  lookupBy (·.delegationId) delegationId s.terms

def insertGrievance (row : Grievance) (s : Service) : Service :=
  { s with grievances := s.grievances ++ [row] }

end Service

/-! ## Delegations

Opening asks for a citizen other than the operator; closing asks for a delegation of the operator
that is still open. Both leave an audit row.
-/

/-- The body of `POST /v1/auth/delegation`. -/
structure DelegationBody where
  citizenUserId : ℕ
  consentRef : String

/-- The transaction of `POST /v1/auth/delegation`; the delegation and its start. -/
def openInTransaction (actor : ActorContext) (body : DelegationBody) (timestamp : ℤ) :
    ServiceTx (ℕ × ℤ) := do
  check (∃ grant ∈ (← snapshot).database.roleGrants, grant.userId = body.citizenUserId ∧
      grant.role = .citizen)
    (.app 404 "CITIZEN_NOT_FOUND" "Citizen role was not found")
  inDatabase (ensureText [body.consentRef])
  check (actor.actorId ≠ body.citizenUserId)
    (.database "23514" "new row for relation \"operator_delegation\" violates check constraint")
  let id ← nextval
  write (Service.insertDelegation ⟨id, actor.actorId, body.citizenUserId, none⟩
    ⟨id, body.consentRef, timestamp⟩)
  inDatabase (writeAudit actor {
    action := "delegation.opened", entityType := "operator_delegation", entityId := uuidText id
    afterSummary := some (.object [("citizenUserId", .string (uuidText body.citizenUserId)),
      ("consentRef", .string body.consentRef)]) })
  return (id, timestamp)

/-- `POST /v1/auth/delegation`; the delegation and its start. -/
def openDelegation (actor : Option RequestActor) (body : DelegationBody) : ServiceTx (ℕ × ℤ) := do
  let actor ← requireRequestActor actor [.operator]
  inDatabase (parseBody (BoundedText 500 body.consentRef))
  serviceTransaction (openInTransaction actor.toActorContext body)

/-- The transaction of `DELETE /v1/auth/delegation/:id`; the delegation and its end. -/
def closeInTransaction (actor : ActorContext) (delegationId : ℕ) (timestamp : ℤ) :
    ServiceTx (ℕ × ℤ) := do
  match ← selectForUpdate (.delegation delegationId)
    (·.openDelegation delegationId actor.actorId) with
  | none =>
    throw (.app 404 "ACTIVE_DELEGATION_NOT_FOUND" "Active delegation was not found")
  | some delegation =>
    check (∀ terms ∈ (← snapshot).termsOf delegation.id, terms.startedAt ≤ timestamp)
      (.database "23514" "new row for relation \"operator_delegation\" violates check constraint")
    write (Service.closeDelegation delegation.id timestamp)
    inDatabase (writeAudit actor {
      action := "delegation.closed", entityType := "operator_delegation"
      entityId := uuidText delegation.id })
    return (delegation.id, timestamp)

/-- `DELETE /v1/auth/delegation/:id`; the delegation and its end. -/
def closeDelegation (actor : Option RequestActor) (delegationId : ℕ) : ServiceTx (ℕ × ℤ) := do
  let actor ← requireRequestActor actor [.operator]
  serviceTransaction (closeInTransaction actor.toActorContext delegationId)

/-! ## Grievances

The complainant is the citizen whom the actor names, or the actor. A grievance begins in its first
state, and none of these routes moves it on.
-/

/-- The body of `POST /v1/grievances`. -/
structure GrievanceBody where
  subjectProviderId : ℕ
  category : String

/-- The transaction of `POST /v1/grievances`; the grievance and the time it was opened. -/
def grievanceInTransaction (actor : ActorContext) (body : GrievanceBody) (timestamp : ℤ) :
    ServiceTx (ℕ × ℤ) := do
  let complainantUserId := actor.onBehalfOfCitizenId.getD actor.actorId
  inDatabase (assertCitizenAuthority actor complainantUserId)
  inDatabase (ensureText [body.category])
  let id ← nextval
  write (Service.insertGrievance {
    id := id, complainantUserId := complainantUserId, subjectProviderId := body.subjectProviderId
    category := body.category, status := .opened, openedAt := timestamp })
  inDatabase (writeAudit actor {
    action := "grievance.opened", entityType := "grievance", entityId := uuidText id
    afterSummary := some (.object [("subjectProviderId", .string (uuidText body.subjectProviderId)),
      ("category", .string body.category), ("status", .string "OPEN")]) })
  return (id, timestamp)

/-- `POST /v1/grievances`; the grievance and the time it was opened. -/
def openGrievance (actor : Option RequestActor) (body : GrievanceBody) : ServiceTx (ℕ × ℤ) := do
  let actor ← requireRequestActor actor [.citizen, .operator]
  inDatabase (parseBody (BoundedText 100 body.category))
  serviceTransaction (grievanceInTransaction actor.toActorContext body)

/-! ## Matters and payments

The status of a matter and a payment are shown to its citizen, to its provider and to an operator
with a delegation, the former also to an administrator.
-/

/-- The two participants of a matter: the user of its provider, and its citizen. -/
def Database.participants (db : Database) (matterId : ℕ) : Option (Matter × ℕ) := do
  let matter ← db.matter matterId
  let provider ← db.provider matter.providerId
  return (matter, provider.userId)

/-- `CaseStatusResult`. -/
inductive CaseStatusResult where
  | linkRequired (url : JsString)
  | unavailable

/-- `unavailableCaseStatus`. -/
def unavailableCaseStatus (mode : CaseStatusMode) (officialUrl : JsString) : CaseStatusResult :=
  if mode = .linkOnly then .linkRequired officialUrl else .unavailable

/-- `GET /v1/matters/:id/status`; the matter, its status and that of its case. -/
def matterStatus (config : LoadedConfig) (actor : ActorContext) (matterId : ℕ) :
    Tx (ℕ × MatterStatus × CaseStatusResult) := do
  requireActor actor [.citizen, .provider, .operator, .admin]
  match (← snapshot).participants matterId with
  | none => throw (.app 404 "MATTER_NOT_FOUND" "Matter was not found")
  | some (matter, providerUserId) =>
    if actor.actorType = .operator then assertCitizenAuthority actor matter.citizenUserId
    else
      ensure (actor.actorType = .admin ∨ actor.actorId = providerUserId ∨
          actor.actorId = matter.citizenUserId)
        (.app 403 "FORBIDDEN" "Matter belongs to another actor")
    ensure (config.capabilities.val.caseStatus ≠ .live)
      (.app 503 "ADAPTER_NOT_IMPLEMENTED" "No authorized live case-status adapter is supplied")
    return (matter.id, matter.status,
      unavailableCaseStatus config.capabilities.val.caseStatus config.ecourtsPublicUrl)

/-- `assertMatterAccess`. -/
def assertMatterAccess (actor : ActorContext) (matterId : ℕ) : Tx Unit := do
  match (← snapshot).participants matterId with
  | none => throw (.app 404 "MATTER_NOT_FOUND" "Matter was not found")
  | some (matter, providerUserId) =>
    if actor.actorType = .provider ∧ actor.actorId = providerUserId then return ()
    if actor.actorType = .citizen ∧ actor.actorId = matter.citizenUserId then return ()
    if actor.actorType = .operator then assertCitizenAuthority actor matter.citizenUserId
    else throw (.app 403 "FORBIDDEN" "Matter belongs to another actor")

/-- `GET /v1/payments/:id`. -/
def readPayment (actor : Option RequestActor) (paymentId : ℕ) : ServiceTx PaymentIntent := do
  let actor ← requireRequestActor actor [.citizen, .operator, .provider]
  match (← snapshot).payment paymentId with
  | none => throw (.app 404 "PAYMENT_NOT_FOUND" "Payment intent was not found")
  | some payment =>
    inDatabase (assertMatterAccess actor.toActorContext payment.matterId)
    return payment

/-! ## What is not available yet

These routes check the role of the actor and then refuse, or answer that there is nothing. They do
not look at a delegation.
-/

structure ProviderSlots where
  providerId : ℕ
  availabilityPolicy : String
  slots : List Empty

/-- `GET /v1/providers/:id/slots`. -/
def providerSlots (actor : Option RequestActor) (providerId : ℕ) : ServiceTx ProviderSlots := do
  let _ ← requireRequestActor actor [.citizen, .operator, .provider, .institution, .admin]
  return ⟨providerId, "NOT_CONFIGURED", []⟩

/-- A route that refuses even those who have a role it is for. -/
def unavailable (actor : Option RequestActor) (roles : List Role) (failure : Failure) :
    ServiceTx Empty := do
  let _ ← requireRequestActor actor roles
  throw failure

/-- `POST /v1/bookings`. -/
def createBooking (actor : Option RequestActor) : ServiceTx Empty :=
  unavailable actor [.citizen, .operator] (.app 503 "AVAILABILITY_POLICY_NOT_CONFIGURED"
    "Booking is unavailable until a reviewed availability policy is configured")

/-- `POST /v1/matters/:id/close`. -/
def closeMatter (actor : Option RequestActor) : ServiceTx Empty :=
  unavailable actor [.citizen, .provider] (.app 503 "MATTER_CLOSURE_POLICY_NOT_CONFIGURED"
    "Matter closure is unavailable until a reviewed confirmation policy is configured")

/-- `POST /v1/payments/intents`. -/
def createIntent (config : LoadedConfig) (actor : Option RequestActor) : ServiceTx Empty :=
  unavailable actor [.citizen, .operator]
    (if config.capabilities.val.payments = .off then
      .app 503 "PAYMENTS_UNAVAILABLE" "Online payment provider capability is off"
    else .app 503 "PAYMENT_ADAPTER_NOT_IMPLEMENTED"
      "No authorized payment provider adapter is supplied")

/-- `POST /v1/payments/:id/offline-ack`. -/
def acknowledgeOffline (actor : Option RequestActor) : ServiceTx Empty :=
  unavailable actor [.citizen, .operator, .provider] (.app 503 "OFFLINE_ACK_POLICY_NOT_CONFIGURED"
    "Offline acknowledgement identity and evidence policy has not been supplied")

end Nayasetu
