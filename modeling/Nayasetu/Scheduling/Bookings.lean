import Nayasetu.Intake.Rotation

/-!
# Bookings and matters

The routes that accept, decline and cancel a booking, with the triggers that guard bookings, matters
and allocations, and the insertion of a booking by the owner of the database, which no route does.

A trigger runs inside the statement that fires it. It is a program of its own here, placed before
the write, and its reads with a lock are statements at which the session may wait.
-/

namespace Nayasetu

open Values RowLock Collections

/-! ## Tables -/

namespace Database

def insertBooking (row : Booking) (db : Database) : Database :=
  { db with bookings := db.bookings ++ [row] }

/-- Replace the booking with the same identifier. -/
def updateBooking (row : Booking) (db : Database) : Database :=
  { db with bookings := replaceBy (·.id) row db.bookings }

def insertMatter (row : Matter) (db : Database) : Database :=
  { db with matters := db.matters ++ [row] }

/-- Replace the allocation with the same identifier. -/
def updateAllocation (row : Allocation) (db : Database) : Database :=
  { db with allocations := replaceBy (·.id) row db.allocations }

def insertSignal (row : ConductSignal) (db : Database) : Database :=
  { db with signals := db.signals ++ [row] }

def participantsBooking (db : Database) (allocationId providerId citizenUserId : ℕ) :
    Option Booking :=
  db.bookings.find? fun row ↦ row.allocationId = allocationId && row.providerId = providerId &&
    row.citizenUserId = citizenUserId

end Database

/-! ## Constraints and triggers

The triggers by the columns they look at, with the texts they raise.
-/

/-- A violated check, and a check of a trigger that failed. -/
def checkViolation (message : String) : Failure := .database "23514" message

/-- `booking_slot_shape_check` and `booking_timestamp_shape_check`. -/
def Booking.ShapeCheck (booking : Booking) : Prop :=
  booking.slot.1 < booking.slot.2 ∧ booking.createdAt ≤ booking.updatedAt

instance (booking : Booking) : Decidable booking.ShapeCheck := inferInstanceAs (Decidable (_ ∧ _))

/-- The two bookings claim overlapping slots of one provider. -/
def Booking.Overlaps (booking other : Booking) : Prop :=
  booking.providerId = other.providerId ∧ booking.status.active = true ∧
    other.status.active = true ∧ booking.slot.1 < other.slot.2 ∧ other.slot.1 < booking.slot.2

instance (booking other : Booking) : Decidable (booking.Overlaps other) :=
  inferInstanceAs (Decidable (_ ∧ _))

/-- `SELECT true FROM allocation WHERE … AND status = 'ASSIGNED' FOR UPDATE`, with the further
conditions of `linked`. -/
def assignedAllocation (id : ℕ) (linked : Allocation → Bool) : Tx Bool := do
  let row ← selectForUpdate (.allocation id) fun db ↦ (db.allocation id).filter fun row ↦
    row.status = .assigned && linked row
  return row.isSome

/-- The allocation of a booking, as the triggers on bookings look it up. -/
def bookedAllocation (booking : Booking) : Tx Bool :=
  assignedAllocation booking.allocationId fun row ↦
    row.needRequestId = booking.needRequestId && row.providerId = booking.providerId

/-- `enforce_booking_lifecycle`, before an update that changes the status and the time of update. -/
def enforceBookingUpdate (old new : Booking) : Tx Unit := do
  ensure (old.updatedAt ≤ new.updatedAt)
    (checkViolation "Booking update time cannot move backwards")
  ensure (old.status = .held ∧ new.status ∈ [BookingStatus.confirmed, .declined, .cancelled])
    (checkViolation
      ("Invalid booking transition from " ++ old.status.text ++ " to " ++ new.status.text))
  ensure (← bookedAllocation old)
    (checkViolation "A booking transition requires its linked allocation to be ASSIGNED")

/-- `enforce_booking_lifecycle`, before an insertion. -/
def enforceBookingInsert (new : Booking) : Tx Unit := do
  ensure (new.status = .held) (checkViolation "A booking must start in HELD")
  ensure (← bookedAllocation new)
    (checkViolation "A booking requires its linked allocation to be ASSIGNED")

/-- `enforce_matter_lifecycle`, before an insertion. -/
def enforceMatterInsert (new : Matter) : Tx Unit := do
  ensure (new.status = .opened) (checkViolation "A matter must start in OPEN")
  match (← snapshot).participantsBooking new.allocationId new.providerId new.citizenUserId with
  | none => throw (.database "23503" "Matter participants must match an existing booking")
  | some booking =>
    ensure (booking.status = .confirmed ∨ booking.status = .scheduled)
      (checkViolation "A matter requires a confirmed or scheduled booking")
    ensure (← assignedAllocation new.allocationId (·.providerId = new.providerId))
      (checkViolation "An open matter requires its linked allocation to be ASSIGNED")

/-- A booking with its matter, closed, so that its allocation may be completed. -/
def Database.Completable (db : Database) (allocationId : ℕ) : Prop :=
  ∃ booking ∈ db.bookings, booking.allocationId = allocationId ∧
    (booking.status = .confirmed ∨ booking.status = .scheduled) ∧
    ∃ matter ∈ db.matters, matter.allocationId = booking.allocationId ∧
      matter.providerId = booking.providerId ∧ matter.citizenUserId = booking.citizenUserId ∧
      matter.status = .closed

instance (db : Database) (allocationId : ℕ) : Decidable (db.Completable allocationId) :=
  inferInstanceAs (Decidable (∃ _ ∈ _, _))

/-- `protect_active_scheduling_allocation`, before an update of an allocation. -/
def protectActiveSchedulingAllocation (old new : Allocation) : Tx Unit := do
  if new.status = old.status ∨ new.status = .assigned then return ()
  let db ← snapshot
  if old.status = .assigned ∧ new.status = .completed ∧ db.Completable old.id then return ()
  ensure (¬ ∃ booking ∈ db.bookings, booking.allocationId = old.id ∧ booking.status.active = true)
    (checkViolation "An allocation with an active booking must remain ASSIGNED")
  ensure (¬ ∃ matter ∈ (← snapshot).matters, matter.allocationId = old.id ∧ matter.status = .opened)
    (checkViolation "An allocation with an open matter must remain ASSIGNED")

/-! ## The locked booking

The statement locks the booking and its allocation, in that order, and evaluates its condition
again on the locked versions.
-/

/-- What `lockBooking` returns. -/
structure LockedBooking where
  id : ℕ
  status : BookingStatus
  allocationStatus : AllocationStatus
  providerId : ℕ
  providerUserId : ℕ
  allocationId : ℕ
  citizenUserId : ℕ
  rosterId : Option ℕ
  createdAt : ℤ
  deriving DecidableEq, Repr

/-- The join of `lockBooking`, of a booking and an allocation with a provider and a request. -/
def joinBooking (booking : Booking) (allocation : Allocation) (provider : Provider)
    (need : NeedRequest) : Option LockedBooking :=
  if provider.id = booking.providerId ∧ allocation.id = booking.allocationId ∧
      need.id = booking.needRequestId then
    some {
      id := booking.id, status := booking.status, allocationStatus := allocation.status
      providerId := booking.providerId, providerUserId := provider.userId
      allocationId := allocation.id, citizenUserId := need.citizenUserId
      rosterId := allocation.rosterId, createdAt := booking.createdAt }
  else none

/-- `lockBooking`, `FOR UPDATE OF b, a`: the provider and the request are those of the statement's
snapshot. -/
def lockBooking (bookingId : ℕ) : Tx (Option LockedBooking) := do
  let db ← snapshot
  let join := do
    let booking ← db.booking bookingId
    let provider ← db.provider booking.providerId
    let allocation ← db.allocation booking.allocationId
    let need ← db.need booking.needRequestId
    return (booking, provider, allocation, need)
  match join with
  | none => return none
  | some (booking, provider, allocation, need) =>
    let _ ← lock (.booking booking.id)
    let db ← lock (.allocation allocation.id)
    return do joinBooking (← db.booking booking.id) (← db.allocation allocation.id) provider need

/-- `bookingForUpdate`. -/
def bookingForUpdate (bookingId : ℕ) : Tx LockedBooking := do
  match ← lockBooking bookingId with
  | none => throw (.app 404 "BOOKING_NOT_FOUND" "Booking was not found")
  | some booking => return booking

/-- `requireSingleRow`. -/
def requireSingleRow (rowCount : ℕ) (operation : String) : Tx Unit :=
  ensure (rowCount = 1) (.app 409 "SCHEDULING_STATE_CONFLICT"
    (operation ++ " did not affect exactly one row"))

/-- `requireActiveAllocation`. -/
def requireActiveAllocation (booking : LockedBooking) : Tx Unit :=
  ensure (booking.allocationStatus = .assigned)
    (.app 409 "ALLOCATION_NOT_ACTIVE" "The booking allocation is no longer active")

/-- `UPDATE booking SET status, updated_at = now() WHERE id AND status`; the rows it changed. -/
def updateBookingStatus (id : ℕ) (start next : BookingStatus) (timestamp : ℤ) : Tx ℕ := do
  match ← selectForUpdate (.booking id) fun db ↦ (db.booking id).filter (·.status = start) with
  | none => return 0
  | some old =>
    let new := { old with
      status := next
      updatedAt := timestamp }
    enforceBookingUpdate old new
    ensure new.ShapeCheck
      (checkViolation "new row for relation \"booking\" violates check constraint")
    write (Database.updateBooking new)
    return 1

/-- `changeBookingStatus`: `transitionLockedBooking`, with the errors the routes report. -/
def changeBookingStatus (booking : LockedBooking) (nextStatus : BookingStatus) (timestamp : ℤ) :
    Tx BookingStatus := do
  let status ← fromExcept (transitionBooking booking.status nextStatus)
  ensure ((← updateBookingStatus booking.id booking.status status timestamp) = 1)
    (.error ("Locked booking " ++ uuidText booking.id ++ " did not update exactly once"))
  return status

def statusSummary (status : String) : Option Jsonb := some (.object [("status", .string status)])

/-! ## Accepting -/

/-- `INSERT INTO matter`, with the answer of the route to a second matter: the unique key of the
allocation waits for a transaction that is inserting one. -/
def insertMatter (row : ℕ → Matter) : Tx ℕ := do
  let id ← nextval
  enforceMatterInsert (row id)
  let db ← lock (.matterOfAllocation (row id).allocationId)
  ensure (∀ matter ∈ db.matters, matter.allocationId ≠ (row id).allocationId)
    (.app 409 "INVALID_BOOKING_STATE" "The booking allocation already has a matter")
  write (Database.insertMatter (row id))
  return id

/-- The row of a new matter. -/
def LockedBooking.matter (booking : LockedBooking) (timestamp : ℤ) (id : ℕ) : Matter where
  id := id
  allocationId := booking.allocationId
  providerId := booking.providerId
  citizenUserId := booking.citizenUserId
  status := .opened
  openedAt := timestamp
  closedAt := none
  closeReason := none

/-- The transaction of `POST /v1/bookings/:id/accept`; the matter. -/
def acceptInTransaction (actor : ActorContext) (bookingId : ℕ) (timestamp : ℤ) : Tx ℕ := do
  let booking ← bookingForUpdate bookingId
  ensure (booking.providerUserId = actor.actorId)
    (.app 403 "FORBIDDEN" "Booking belongs to another provider")
  requireActiveAllocation booking
  let status ← changeBookingStatus booking .confirmed timestamp
  let matterId ← insertMatter (booking.matter timestamp)
  writeAudit actor {
    action := "booking.accepted", entityType := "booking", entityId := uuidText booking.id,
    beforeSummary := statusSummary booking.status.text,
    afterSummary := some (.object [("status", .string status.text),
      ("matterId", .string (uuidText matterId))]) }
  writeAudit actor {
    action := "matter.created", entityType := "matter", entityId := uuidText matterId,
    afterSummary := some (.object [("status", .string "OPEN"),
      ("allocationId", .string (uuidText booking.allocationId))]) }
  return matterId

/-- `POST /v1/bookings/:id/accept`; the matter. -/
def accept (actor : ActorContext) (bookingId : ℕ) : Tx ℕ := do
  requireActor actor [.provider]
  withTransaction (acceptInTransaction actor bookingId)

/-! ## Declining and cancelling

Both end the allocation and give the place of a roster member back; the first also writes a
conduct signal if the allocation came from a roster.
-/

/-- `UPDATE allocation SET status, ended_at = now(), … WHERE id AND status = 'ASSIGNED'`; the rows
it changed. -/
def endAllocation (id : ℕ) (ended : Allocation → Allocation) : Tx ℕ := do
  match ← selectForUpdate (.allocation id) fun db ↦
      (db.allocation id).filter (·.status = .assigned) with
  | none => return 0
  | some old =>
    protectActiveSchedulingAllocation old (ended old)
    write (Database.updateAllocation (ended old))
    return 1

/-- A membership with one active matter less. -/
def RosterMembership.release (member : RosterMembership) : RosterMembership :=
  { member with activeMatters := member.activeMatters - 1 }

/-- `UPDATE roster_membership SET active_matters = active_matters - 1 WHERE … AND
active_matters > 0`; the rows it changed. -/
def releaseMember (key : ℕ × ℕ) : Tx ℕ := do
  match ← selectForUpdate (.rosterMembership key) fun db ↦
      (db.membership key).filter (0 < ·.activeMatters) with
  | none => return 0
  | some member =>
    ensure member.release.ActiveMattersCheck
      (checkViolation "new row for relation \"roster_membership\" violates check constraint")
    write (Database.updateMembership member.release)
    return 1

/-- The release of a roster member, with its audit row. -/
def releaseCapacity (actor : ActorContext) (booking : LockedBooking) (rosterId : ℕ) : Tx Unit := do
  requireSingleRow (← releaseMember (rosterId, booking.providerId)) "Roster capacity release"
  writeAudit actor {
    action := "roster.capacity_released", entityType := "roster_membership",
    entityId := uuidText rosterId ++ ":" ++ uuidText booking.providerId,
    afterSummary := some (.object [("activeMatterDelta", .number (.ofInt (-1))),
      ("bookingId", .string (uuidText booking.id))]) }

/-- `reasonSchema`. -/
def ReasonValid (reasonCode : String) : Prop := BoundedText 100 reasonCode

instance (reasonCode : String) : Decidable (ReasonValid reasonCode) :=
  inferInstanceAs (Decidable (BoundedText 100 reasonCode))

/-- A declined allocation. -/
def Allocation.decline (timestamp : ℤ) (reasonCode : String) (row : Allocation) : Allocation :=
  { row with
    status := .declined
    endedAt := some timestamp
    declineReason := some reasonCode }

/-- A cancelled allocation. -/
def Allocation.cancel (timestamp : ℤ) (row : Allocation) : Allocation :=
  { row with
    status := .cancelled
    endedAt := some timestamp }

def rotationDecline (providerId : ℕ) (reasonCode : String) (timestamp : ℤ) (id : ℕ) :
    ConductSignal where
  id := id
  providerId := providerId
  signalType := "ROTATION_DECLINE"
  value := .object [("reasonCode", .string reasonCode)]
  recordedAt := timestamp

def allocationEnded (booking : LockedBooking) (action status reasonCode : String) : AuditInput where
  action := action
  entityType := "allocation"
  entityId := uuidText booking.allocationId
  reasonCode := some reasonCode
  beforeSummary := statusSummary "ASSIGNED"
  afterSummary := statusSummary status

/-- The transaction of `POST /v1/bookings/:id/decline`. -/
def declineInTransaction (actor : ActorContext) (bookingId : ℕ) (reasonCode : String)
    (timestamp : ℤ) : Tx BookingStatus := do
  let booking ← bookingForUpdate bookingId
  ensure (booking.providerUserId = actor.actorId)
    (.app 403 "FORBIDDEN" "Booking belongs to another provider")
  requireActiveAllocation booking
  let status ← changeBookingStatus booking .declined timestamp
  ensureText [reasonCode]
  requireSingleRow (← endAllocation booking.allocationId (Allocation.decline timestamp reasonCode))
    "Allocation decline"
  writeAudit actor (allocationEnded booking "allocation.declined" "DECLINED" reasonCode)
  match booking.rosterId with
  | none => pure ()
  | some rosterId =>
    releaseCapacity actor booking rosterId
    let signalId ← nextval
    write (Database.insertSignal (rotationDecline booking.providerId reasonCode timestamp signalId))
    writeAudit actor {
      action := "conduct_signal.recorded", entityType := "conduct_signal",
      entityId := uuidText signalId, reasonCode := some reasonCode,
      afterSummary := some (.object [("providerId", .string (uuidText booking.providerId)),
        ("type", .string "ROTATION_DECLINE")]) }
  writeAudit actor {
    action := "booking.declined", entityType := "booking", entityId := uuidText booking.id,
    reasonCode := some reasonCode, beforeSummary := statusSummary booking.status.text,
    afterSummary := some (.object [("status", .string status.text),
      ("rotationCapacityReleased", .bool booking.rosterId.isSome)]) }
  return status

/-- `POST /v1/bookings/:id/decline`. -/
def decline (actor : ActorContext) (bookingId : ℕ) (reasonCode : String) : Tx BookingStatus := do
  requireActor actor [.provider]
  parseBody (ReasonValid reasonCode)
  withTransaction (declineInTransaction actor bookingId reasonCode)

/-- The actor is the provider of the booking, or its citizen or acts for its citizen. -/
def OwnsBooking (actor : ActorContext) (booking : LockedBooking) : Prop :=
  (actor.actorType = .provider ∧ booking.providerUserId = actor.actorId) ∨
    ((actor.actorType = .citizen ∨ actor.actorType = .operator) ∧
      booking.citizenUserId = actor.onBehalfOfCitizenId.getD actor.actorId)

instance (actor : ActorContext) (booking : LockedBooking) : Decidable (OwnsBooking actor booking) :=
  inferInstanceAs (Decidable (_ ∨ _))

/-- The transaction of `POST /v1/bookings/:id/cancel`. -/
def cancelInTransaction (actor : ActorContext) (bookingId : ℕ) (reasonCode : String)
    (timestamp : ℤ) : Tx BookingStatus := do
  let booking ← bookingForUpdate bookingId
  if actor.actorType = .operator then assertCitizenAuthority actor booking.citizenUserId
  ensure (OwnsBooking actor booking) (.app 403 "FORBIDDEN" "Booking belongs to another actor")
  requireActiveAllocation booking
  ensure (booking.status ≠ .confirmed ∧ booking.status ≠ .scheduled)
    (.app 503 "CANCELLATION_POLICY_NOT_CONFIGURED"
      "Confirmed booking cancellation is unavailable until a reviewed policy is configured")
  let status ← changeBookingStatus booking .cancelled timestamp
  requireSingleRow (← endAllocation booking.allocationId (Allocation.cancel timestamp))
    "Allocation cancellation"
  ensureText [reasonCode]
  writeAudit actor (allocationEnded booking "allocation.cancelled" "CANCELLED" reasonCode)
  match booking.rosterId with
  | none => pure ()
  | some rosterId => releaseCapacity actor booking rosterId
  writeAudit actor {
    action := "booking.cancelled", entityType := "booking", entityId := uuidText booking.id,
    reasonCode := some reasonCode, beforeSummary := statusSummary booking.status.text,
    afterSummary := statusSummary status.text }
  return status

/-- `POST /v1/bookings/:id/cancel`. -/
def cancel (actor : ActorContext) (bookingId : ℕ) (reasonCode : String) : Tx BookingStatus := do
  requireActor actor [.citizen, .operator, .provider]
  parseBody (ReasonValid reasonCode)
  withTransaction (cancelInTransaction actor bookingId reasonCode)

/-! ## Holding a slot -/

/-- A booking as the owner of the database inserts it. -/
structure HeldBooking where
  needRequestId : ℕ
  allocationId : ℕ
  providerId : ℕ
  citizenUserId : ℕ
  slot : ℤ × ℤ
  createdAt : Option ℤ
  updatedAt : Option ℤ

/-- The row of a held booking. -/
def HeldBooking.row (held : HeldBooking) (timestamp : ℤ) (id : ℕ) : Booking where
  id := id
  needRequestId := held.needRequestId
  allocationId := held.allocationId
  providerId := held.providerId
  citizenUserId := held.citizenUserId
  slot := held.slot
  status := .held
  createdAt := held.createdAt.getD timestamp
  updatedAt := held.updatedAt.getD timestamp

/-- `INSERT INTO booking` with the status `HELD`. The trigger has locked the allocation, so no other
booking of it can be in flight; an overlapping booking in flight is not waited for, which only adds
runs. -/
def insertHeldBooking (held : HeldBooking) (timestamp : ℤ) : Tx ℕ := do
  let id ← nextval
  let row := held.row timestamp id
  enforceBookingInsert row
  ensure row.ShapeCheck
    (checkViolation "new row for relation \"booking\" violates check constraint")
  let db ← lock (.allocation row.allocationId)
  ensure (∀ other ∈ db.bookings, other.allocationId ≠ row.allocationId)
    (.database "23505"
      "duplicate key value violates unique constraint \"booking_allocation_unique\"")
  ensure (∀ other ∈ db.bookings, ¬ row.Overlaps other)
    (.database "23P01" "conflicting key value violates exclusion constraint \"no_double_book\"")
  ensure (∃ need ∈ db.need row.needRequestId, need.citizenUserId = row.citizenUserId)
    (.database "23503" "insert on table \"booking\" violates foreign key constraint")
  write (Database.insertBooking row)
  return id

def holdBooking (held : HeldBooking) : Tx ℕ := withTransaction (insertHeldBooking held)

end Nayasetu
