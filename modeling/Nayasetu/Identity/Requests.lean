import Nayasetu.Engagement.Transactions
import Nayasetu.Identity.Accounts
import Nayasetu.Identity.Delegations

/-!
# Requests

One system of everything a citizen or an operator can ask for once signed in, and of what decides
who is signed in: the routes of the engagements, of accounts and of delegations, each behind the
hook that turns the headers of its request into an actor. Whatever else happens to the database
(other routes, the worker, its owner) is one request, which may change everything but the
delegations and the requests for help, and adds audit rows of no delegation.

## What is left out

A request is one of the calls below. Other routes do not occur as requests: health, public
statistics, the beginning of a sign-in, one-time passwords, payment webhooks, what an institution
reads, and what a provider does about its credentials, services and ledger. What they do to the
tables is covered by `maintain`, but nothing is said about whom they answer.
-/

namespace Nayasetu

open Values RowLock

/-- What the server is built from. -/
structure Server where
  config : LoadedConfig
  policy : AppConfig
  providerInitialStatus : Option String
  seededKey : String → String → String
  hmacSha256 : JsString → JsString → Digest

/-- What a request asks for. -/
inductive Call where
  | createNeed (body : NeedBody)
  | referral (needId : ℕ)
  | directory (needId : ℕ) (query : DirectoryQuery)
  | select (needId providerId : ℕ)
  | rotate (needId rosterId : ℕ)
  | accept (bookingId : ℕ)
  | decline (bookingId : ℕ) (reasonCode : String)
  | cancel (bookingId : ℕ) (reasonCode : String)
  | quote (body : QuoteBody)
  | matterStatus (matterId : ℕ)
  | readPayment (paymentId : ℕ)
  | providerSlots (providerId : ℕ)
  | createBooking
  | closeMatter (matterId : ℕ)
  | createIntent
  | acknowledgeOffline (paymentId : ℕ)
  | openGrievance (body : GrievanceBody)
  | openDelegation (body : DelegationBody)
  | closeDelegation (delegationId : ℕ)
  | createOwnProvider (body : ProviderProfileBody)
  | createProvider (userId : ℕ) (body : ProviderProfileBody)
  | googleCallback (callback : GoogleCallback)
  | revokeSession
  | completeProfile (body : ProfileBody)
  | readProfile
  | me

/-- A request as it arrives. -/
structure HttpRequest where
  headers : Headers
  call : Call

/-- What can be asked of the store. -/
inductive ServiceRequest where
  | http (request : HttpRequest)
  | maintain (change : Database → Database) (events : List AuditEvent)

/-- What comes back. -/
inductive ServiceResponse where
  | engagement (response : EngagementResponse)
  | matter (matterId : ℕ) (status : MatterStatus) (caseStatus : CaseStatusResult)
  | payment (payment : PaymentIntent)
  | slots (slots : ProviderSlots)
  | grievance (submissionId : ℕ) (openedAt : ℤ)
  | delegation (delegationId : ℕ) (timestamp : ℤ)
  | provider (providerId : ℕ)
  | signedIn (session : IssuedGoogleSession)
  | revoked (revoked : Bool)
  | profileCompleted
  | profile (profile : Option CitizenProfile)
  | me (response : MeResponse)
  | done

/-- The path is one of `profileCompletionPaths`. -/
def Call.completion : Call → Bool
  | .completeProfile _ | .readProfile | .me => true
  | _ => false

/-- An audit row that names no delegation. -/
def AuditEvent.undelegated (event : AuditEvent) : AuditEvent :=
  { event with
    onBehalfOfUserId := none
    delegationId := none }

/-- A change of everything but the delegations and the requests for help, with audit rows. -/
def Database.maintain (change : Database → Database) (events : List AuditEvent) (db : Database) :
    Database :=
  { change db with
    delegations := db.delegations
    needs := db.needs
    auditEvents := db.auditEvents ++ events.map (·.undelegated) }

/-- A route that only knows the database, behind the first half of `requireActor`. -/
def withActor {α : Type} (actor : Option RequestActor) (route : ActorContext → Tx α) :
    ServiceTx α := do
  let actor ← authenticated actor
  inDatabase (route actor.toActorContext)

namespace Server

variable (server : Server)

/-- The route of a call. -/
def route (headers : Headers) (actor : Option RequestActor) : Call → ServiceTx ServiceResponse
  | .createNeed body => do
    let (needId, route) ← withActor actor (createNeed server.policy · body)
    return .engagement (.needCreated needId route)
  | .referral needId => do
    return .engagement (.referred needId (← withActor actor (referral · needId)))
  | .directory needId query => do
    let (need, providers) ← withActor actor
      (directory server.policy server.seededKey · needId query)
    return .engagement (.directory need.id providers)
  | .select needId providerId => do
    let allocationId ← withActor actor (select server.policy · needId providerId)
    return .engagement (.allocated allocationId none .citizenChoice)
  | .rotate needId rosterId => do
    let (allocationId, providerId) ← withActor actor (rotate server.policy · needId rosterId)
    return .engagement (.allocated allocationId (some providerId) .rotation)
  | .accept bookingId => do
    return .engagement (.accepted bookingId .confirmed (← withActor actor (accept · bookingId)))
  | .decline bookingId reasonCode => do
    return .engagement (.ended bookingId (← withActor actor (decline · bookingId reasonCode)))
  | .cancel bookingId reasonCode => do
    return .engagement (.ended bookingId (← withActor actor (cancel · bookingId reasonCode)))
  | .quote body => do return .engagement (.quoted (← withActor actor (quote · body)))
  | .matterStatus matterId => do
    let (id, status, caseStatus) ← withActor actor (matterStatus server.config · matterId)
    return .matter id status caseStatus
  | .readPayment paymentId => do return .payment (← readPayment actor paymentId)
  | .providerSlots providerId => do return .slots (← providerSlots actor providerId)
  | .createBooking => do return (← createBooking actor).elim
  | .closeMatter _ => do return (← closeMatter actor).elim
  | .createIntent => do return (← createIntent server.config actor).elim
  | .acknowledgeOffline _ => do return (← acknowledgeOffline actor).elim
  | .openGrievance body => do
    let (id, openedAt) ← openGrievance actor body
    return .grievance id openedAt
  | .openDelegation body => do
    let (id, startedAt) ← openDelegation actor body
    return .delegation id startedAt
  | .closeDelegation delegationId => do
    let (id, endedAt) ← closeDelegation actor delegationId
    return .delegation id endedAt
  | .createOwnProvider body => do
    return .provider (← withActor actor
      (createOwnProvider server.policy server.providerInitialStatus · body))
  | .createProvider userId body => do
    return .provider (← withActor actor
      (createProvider server.policy server.providerInitialStatus · userId body))
  | .googleCallback callback => do
    return .signedIn (← googleCallback server.hmacSha256 server.config headers.requestId callback)
  | .revokeSession => do
    return .revoked (← revokeSession server.hmacSha256 server.config headers actor)
  | .completeProfile body => do
    completeProfile actor body
    return .profileCompleted
  | .readProfile => do return .profile (← readProfile actor)
  | .me => do return .me (← me actor)

def program : ServiceRequest → ServiceTx ServiceResponse
  | .http request => do
    let actor ← onRequest server.hmacSha256 server.config request.headers request.call.completion
    server.route request.headers actor request.call
  | .maintain change events => do
    inDatabase (withTransaction fun _ ↦ write (Database.maintain change events))
    return .done

end Server

end Nayasetu
