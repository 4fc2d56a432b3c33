import Nayasetu.RowLock.Attempt
import Nayasetu.Settlement.Quotes

/-!
# Engagements

Everything that happens between a request for help and a quoted fee, as one system: the routes, the
insertion of held bookings by the owner of the database, transactions that lock some of the rows and
give them up again, and changes to the registry. The registry is everything the routes only read:
users' grants and delegations, providers and their services, and rosters. It may change at any time
and in any way, so what is proved about the system does not depend on it.

No route inserts a held booking: in the repository this is left to whoever operates the database.
It is a request here like the others, with the triggers and the constraints that the database
would apply.
-/

namespace Nayasetu

open RowLock

/-- The tables the routes only read. -/
structure Registry where
  roleGrants : List RoleGrant := []
  delegations : List OperatorDelegation := []
  rosterGrants : List InstitutionalRosterGrant := []
  providers : List Provider := []
  services : List ProviderService := []
  rosters : List Roster := []

def Database.withRegistry (registry : Registry) (db : Database) : Database :=
  { db with
    roleGrants := registry.roleGrants
    delegations := registry.delegations
    rosterGrants := registry.rosterGrants
    providers := registry.providers
    services := registry.services
    rosters := registry.rosters }

/-- What a client can ask for. -/
inductive EngagementRequest where
  | createNeed (actor : ActorContext) (body : NeedBody)
  | referral (actor : ActorContext) (needId : ℕ)
  | directory (actor : ActorContext) (needId : ℕ) (query : DirectoryQuery)
  | select (actor : ActorContext) (needId providerId : ℕ)
  | rotate (actor : ActorContext) (needId rosterId : ℕ)
  | accept (actor : ActorContext) (bookingId : ℕ)
  | decline (actor : ActorContext) (bookingId : ℕ) (reasonCode : String)
  | cancel (actor : ActorContext) (bookingId : ℕ) (reasonCode : String)
  | quote (actor : ActorContext) (body : QuoteBody)
  | holdBooking (held : HeldBooking)
  | changeRegistry (registry : Registry)
  | hold (keys : List LockKey)

/-- What a client gets. -/
inductive EngagementResponse where
  | needCreated (requestId : ℕ) (route : EligibilityRoute)
  | referred (requestId : ℕ) (route : EligibilityRoute)
  | directory (requestId : ℕ) (providers : List DirectoryProviderRow)
  | allocated (allocationId : ℕ) (providerId : Option ℕ) (mode : AllocationMode)
  | accepted (bookingId : ℕ) (status : BookingStatus) (matterId : ℕ)
  | ended (bookingId : ℕ) (status : BookingStatus)
  | quoted (quoteId : ℕ)
  | held (bookingId : ℕ)
  | done

def engagementProgram (config : AppConfig) (seededKey : String → String → String) :
    EngagementRequest → Tx EngagementResponse
  | .createNeed actor body => do
    let (requestId, route) ← createNeed config actor body
    return .needCreated requestId route
  | .referral actor needId => do return .referred needId (← referral actor needId)
  | .directory actor needId query => do
    let (need, providers) ← directory config seededKey actor needId query
    return .directory need.id providers
  | .select actor needId providerId => do
    return .allocated (← select config actor needId providerId) none .citizenChoice
  | .rotate actor needId rosterId => do
    let (allocationId, providerId) ← rotate config actor needId rosterId
    return .allocated allocationId (some providerId) .rotation
  | .accept actor bookingId => do return .accepted bookingId .confirmed (← accept actor bookingId)
  | .decline actor bookingId reasonCode => do
    return .ended bookingId (← decline actor bookingId reasonCode)
  | .cancel actor bookingId reasonCode => do
    return .ended bookingId (← cancel actor bookingId reasonCode)
  | .quote actor body => do return .quoted (← quote actor body)
  | .holdBooking held => do return .held (← holdBooking held)
  | .changeRegistry registry => do
    withTransaction fun _ ↦ write (Database.withRegistry registry)
    return .done
  | .hold keys => do
    holdLocks keys
    return .done

end Nayasetu
