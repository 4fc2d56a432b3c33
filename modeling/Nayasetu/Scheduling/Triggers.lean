import Nayasetu.Credential.FinalizeSql
import Nayasetu.Scheduling.Bookings

/-!
# The scheduling triggers by themselves

Single-row insertions and updates of allocations, bookings and matters by whoever may make them: the
triggers run first, then the constraints of the schema are checked. A statement is accepted, and
says what the tables become, or it is rejected.

The triggers are those the routes meet, here for every column that a statement may set. Foreign keys
to users are left out, and those that the triggers have checked already; leaving one out only adds
runs.
-/

namespace Nayasetu

open Values RowLock Collections

/-! ## Triggers

Each trigger decides from the old row, the new row and the tables it reads.
-/

/-- The booking names the identifier, the request and the provider of the allocation. -/
def Booking.Identifies (booking : Booking) (allocation : Allocation) : Prop :=
  allocation.id = booking.allocationId ∧ allocation.needRequestId = booking.needRequestId ∧
    allocation.providerId = booking.providerId

instance (booking : Booking) (allocation : Allocation) :
    Decidable (booking.Identifies allocation) :=
  inferInstanceAs (Decidable (_ ∧ _))

/-- The columns of a booking that never change. -/
def Booking.SameReservation (old new : Booking) : Prop :=
  new.id = old.id ∧ new.needRequestId = old.needRequestId ∧ new.allocationId = old.allocationId ∧
    new.providerId = old.providerId ∧ new.citizenUserId = old.citizenUserId ∧ new.slot = old.slot ∧
    new.createdAt = old.createdAt

instance (old new : Booking) : Decidable (old.SameReservation new) :=
  inferInstanceAs (Decidable (_ ∧ _))

/-- The columns of a matter that never change. -/
def Matter.SameIdentity (old new : Matter) : Prop :=
  new.id = old.id ∧ new.allocationId = old.allocationId ∧ new.providerId = old.providerId ∧
    new.citizenUserId = old.citizenUserId ∧ new.openedAt = old.openedAt

instance (old new : Matter) : Decidable (old.SameIdentity new) :=
  inferInstanceAs (Decidable (_ ∧ _))

namespace Database

variable (db : Database)

def BookedAssigned (booking : Booking) : Prop :=
  ∃ allocation ∈ db.allocations, booking.Identifies allocation ∧ allocation.status = .assigned

instance (booking : Booking) : Decidable (db.BookedAssigned booking) :=
  inferInstanceAs (Decidable (∃ _ ∈ _, _))

/-- `enforce_booking_lifecycle`, before an insertion (there is no `OLD`) or an update. -/
def enforceBookingLifecycle : Option Booking → Booking → Except Failure Unit
  | none, new => do
    require (new.status = .held) (checkViolation "A booking must start in HELD")
    require (db.BookedAssigned new)
      (checkViolation "A booking requires its linked allocation to be ASSIGNED")
  | some old, new => do
    require (old.SameReservation new)
      (.database "55000" "Booking identity and reserved slot are immutable")
    require (old.updatedAt ≤ new.updatedAt)
      (checkViolation "Booking update time cannot move backwards")
    require (old.status = .held ∧ new.status ∈ [BookingStatus.confirmed, .declined, .cancelled])
      (checkViolation
        ("Invalid booking transition from " ++ old.status.text ++ " to " ++ new.status.text))
    require (db.BookedAssigned old)
      (checkViolation "A booking transition requires its linked allocation to be ASSIGNED")

/-- `enforce_matter_lifecycle`, before an insertion (there is no `OLD`) or an update. -/
def enforceMatterLifecycle : Option Matter → Matter → Except Failure Unit
  | none, new => do
    require (new.status = .opened) (checkViolation "A matter must start in OPEN")
    match db.participantsBooking new.allocationId new.providerId new.citizenUserId with
    | none => .error (.database "23503" "Matter participants must match an existing booking")
    | some booking =>
      require (booking.status = .confirmed ∨ booking.status = .scheduled)
        (checkViolation "A matter requires a confirmed or scheduled booking")
      require (∃ allocation ∈ db.allocations, allocation.id = new.allocationId ∧
          allocation.providerId = new.providerId ∧ allocation.status = .assigned)
        (checkViolation "An open matter requires its linked allocation to be ASSIGNED")
  | some old, new => do
    require (old.SameIdentity new)
      (.database "55000" "Matter identity and opening time are immutable")
    require (old.status = .closed → new.status = .closed)
      (checkViolation "A closed matter cannot be reopened")

/-- `protect_active_scheduling_allocation`. It runs when an update names the status; an update that
does not leaves the status as it was, which passes. -/
def protectActiveSchedulingAllocation (old new : Allocation) : Except Failure Unit :=
  if new.status = old.status ∨ new.status = .assigned then .ok ()
  else if old.status = .assigned ∧ new.status = .completed ∧ db.Completable old.id then .ok ()
  else do
    require (¬ ∃ booking ∈ db.bookings, booking.allocationId = old.id ∧
      booking.status.active = true)
      (checkViolation "An allocation with an active booking must remain ASSIGNED")
    require (¬ ∃ matter ∈ db.matters, matter.allocationId = old.id ∧ matter.status = .opened)
      (checkViolation "An allocation with an open matter must remain ASSIGNED")

end Database

/-! ## Constraints

Checks of a row, unique indexes, the exclusion of overlapping bookings and foreign keys.
-/

def uniqueViolation (constraint : String) : Failure :=
  .database "23505" ("duplicate key value violates unique constraint \"" ++ constraint ++ "\"")

def rowViolation (table constraint : String) : Failure :=
  checkViolation ("new row for relation \"" ++ table ++ "\" violates check constraint \"" ++
    constraint ++ "\"")

def foreignKeyViolation (operation table constraint : String) : Failure :=
  .database "23503" (operation ++ " on table \"" ++ table ++
    "\" violates foreign key constraint \"" ++ constraint ++ "\"")

/-- The checks of `allocation` on the mode, the roster, the seed and the position. -/
def Allocation.ShapeCheck (row : Allocation) : Prop :=
  (row.mode = .rotation ↔ row.rosterId ≠ none) ∧ (row.mode = .citizenChoice → row.seed ≠ none) ∧
    ∀ position ∈ row.position, 0 < position

instance (row : Allocation) : Decidable row.ShapeCheck := inferInstanceAs (Decidable (_ ∧ _))

/-- `matter_lifecycle_shape_check`. -/
def Matter.LifecycleShapeCheck (row : Matter) : Prop :=
  (row.status = .opened ∧ row.closedAt = none ∧ row.closeReason = none) ∨
    (row.status = .closed ∧ (∃ reason ∈ row.closeReason, btrim reason ≠ "") ∧
      ∃ closedAt ∈ row.closedAt, row.openedAt ≤ closedAt)

instance (row : Matter) : Decidable row.LifecycleShapeCheck := inferInstanceAs (Decidable (_ ∨ _))

/-- The constraints of `matter` on a row that joins the others. -/
def checkMatter (others : List Matter) (row : Matter) : Except Failure Unit := do
  require row.LifecycleShapeCheck (rowViolation "matter" "matter_lifecycle_shape_check")
  require (∀ other ∈ others, other.id ≠ row.id) (uniqueViolation "matter_pkey")
  require (∀ other ∈ others, other.allocationId ≠ row.allocationId)
    (uniqueViolation "matter_allocation_id_key")

namespace Database

variable (db : Database)

/-- The constraints of `allocation` on a row that joins the others. -/
def checkAllocation (others : List Allocation) (row : Allocation) : Except Failure Unit := do
  require row.ShapeCheck (rowViolation "allocation" "allocation_check")
  require (∀ other ∈ others, other.id ≠ row.id) (uniqueViolation "allocation_pkey")
  require (∀ other ∈ others, other.needRequestId = row.needRequestId → other.status = .assigned →
    row.status ≠ .assigned) (uniqueViolation "allocation_one_active_per_need")
  require (∃ need ∈ db.needs, need.id = row.needRequestId)
    (foreignKeyViolation "insert or update" "allocation" "allocation_need_request_id_fkey")
  require (∃ provider ∈ db.providers, provider.id = row.providerId)
    (foreignKeyViolation "insert or update" "allocation" "allocation_provider_id_fkey")
  require (∀ rosterId ∈ row.rosterId, ∃ roster ∈ db.rosters, roster.id = rosterId)
    (foreignKeyViolation "insert or update" "allocation" "allocation_roster_id_fkey")

/-- The foreign keys that refer to the allocation still find it. -/
def checkReferences (old new : Allocation) : Except Failure Unit := do
  require (∀ booking ∈ db.bookings, booking.allocationId = old.id → booking.allocationId = new.id)
    (foreignKeyViolation "update or delete" "allocation" "booking_allocation_id_fkey")
  require (∀ booking ∈ db.bookings, booking.Identifies old → booking.Identifies new)
    (foreignKeyViolation "update or delete" "allocation" "booking_allocation_identity_fk")
  require (∀ matter ∈ db.matters, matter.allocationId = old.id → matter.allocationId = new.id)
    (foreignKeyViolation "update or delete" "allocation" "matter_allocation_id_fkey")

/-- The constraints of `booking` on a row that joins the others. -/
def checkBooking (others : List Booking) (row : Booking) : Except Failure Unit := do
  require row.ShapeCheck (rowViolation "booking" "booking_slot_shape_check")
  require (∀ other ∈ others, other.id ≠ row.id) (uniqueViolation "booking_pkey")
  require (∀ other ∈ others, other.allocationId ≠ row.allocationId)
    (uniqueViolation "booking_allocation_unique")
  require (∀ other ∈ others, ¬ row.Overlaps other)
    (.database "23P01" "conflicting key value violates exclusion constraint \"no_double_book\"")
  require (∃ need ∈ db.needs, need.id = row.needRequestId ∧ need.citizenUserId = row.citizenUserId)
    (foreignKeyViolation "insert or update" "booking" "booking_citizen_identity_fk")

/-! ## Statements

A run of statements is accepted if each is, on what the ones before it have left.
-/

/-- Replace the allocation with an identifier, which may be a new one afterwards. -/
def replaceAllocation (id : ℕ) (row : Allocation) : Database :=
  { db with allocations := replaceAt (·.id) id row db.allocations }

/-- Replace the matter with the same identifier. -/
def updateMatter (row : Matter) : Database :=
  { db with matters := replaceBy (·.id) row db.matters }

end Database

/-- A single-row statement; an update gives the new row. -/
inductive Statement where
  | insertAllocation (row : Allocation)
  | updateAllocation (id : ℕ) (row : Allocation)
  | insertBooking (row : Booking)
  | updateBooking (id : ℕ) (row : Booking)
  | insertMatter (row : Matter)
  | updateMatter (id : ℕ) (row : Matter)

/-- What the tables become if the statement is accepted. An update of no row changes nothing. -/
def Database.accept (db : Database) : Statement → Except Failure Database
  | .insertAllocation row => do
    db.checkAllocation db.allocations row
    return db.insertAllocation row
  | .updateAllocation id row =>
    match db.allocation id with
    | none => .ok db
    | some old => do
      db.protectActiveSchedulingAllocation old row
      db.checkAllocation (db.allocations.filter (·.id ≠ id)) row
      db.checkReferences old row
      return db.replaceAllocation id row
  | .insertBooking row => do
    db.enforceBookingLifecycle none row
    db.checkBooking db.bookings row
    return db.insertBooking row
  | .updateBooking id row =>
    match db.booking id with
    | none => .ok db
    | some old => do
      db.enforceBookingLifecycle (some old) row
      db.checkBooking (db.bookings.filter (·.id ≠ id)) row
      return db.updateBooking row
  | .insertMatter row => do
    db.enforceMatterLifecycle none row
    checkMatter db.matters row
    return db.insertMatter row
  | .updateMatter id row =>
    match db.matter id with
    | none => .ok db
    | some old => do
      db.enforceMatterLifecycle (some old) row
      checkMatter (db.matters.filter (·.id ≠ id)) row
      return db.updateMatter row

def Database.acceptAll (db : Database) (statements : List Statement) : Except Failure Database :=
  statements.foldlM Database.accept db

/-! ## The triggers of the routes

By itself a route's trigger decides as the trigger does here. -/

section Routes

variable {Req : Type} {i n : ℕ} {r : Req} {v : View Database LockKey Req}

/-- What the program comes to by itself. -/
private theorem alone_ensure_bind {α : Type} {condition : Prop} [Decidable condition]
    {failure : Failure} {p : Unit → Tx α} {q : Unit → Except Failure α}
    (h : condition → ∃ w, alone i n r (p ()) v = some (q (), w)) :
    ∃ w, alone i n r (ensure condition failure >>= p) v =
      some (require condition failure >>= q, w) := by
  by_cases hc : condition
  · obtain ⟨w, hw⟩ := h hc
    refine ⟨w, (alone_bind (alone_ensure hc)).trans ?_⟩
    rw [hw, require, if_pos hc]
    rfl
  · refine ⟨v, ?_⟩
    rw [ensure, require, if_neg hc]
    rfl

theorem alone_ensure_require {condition : Prop} [Decidable condition] {failure : Failure} :
    ∃ w, alone i n r (ensure condition failure) v = some (require condition failure, w) := by
  by_cases hc : condition
  · exact ⟨v, by rw [alone_ensure hc, require, if_pos hc]⟩
  · refine ⟨v, ?_⟩
    rw [ensure, require, if_neg hc]
    rfl

theorem alone_assignedAllocation {db : Database} (hdb : v.pending v.shared.store = db)
    (hids : (db.allocations.map (·.id)).Nodup) {id : ℕ}
    (hfree : v.shared.Available i (.allocation id)) (linked : Allocation → Bool) :
    ∃ w, alone i n r (assignedAllocation id linked) v =
      some (.ok (decide (∃ a ∈ db.allocations, a.id = id ∧ a.status = .assigned ∧ linked a)),
        w) := by
  have hrow : ((db.allocation id).filter fun row ↦ row.status = .assigned && linked row).isSome =
      decide (∃ a ∈ db.allocations, a.id = id ∧ a.status = .assigned ∧ linked a) := by
    rw [Bool.eq_iff_iff, decide_eq_true_iff, Option.isSome_iff_exists]
    constructor
    · rintro ⟨a, ha⟩
      obtain ⟨ha, hstatus⟩ := Option.filter_eq_some_iff.mp ha
      obtain ⟨hmem, hid⟩ := lookupBy_mem ha
      exact ⟨a, hmem, hid, by simpa using hstatus⟩
    · rintro ⟨a, hmem, hid, hstatus⟩
      exact ⟨a, Option.filter_eq_some_iff.mpr
        ⟨(lookupBy_eq_some_iff hids).mpr ⟨hmem, hid⟩, by simpa using hstatus⟩⟩
  rw [← hrow, assignedAllocation]
  cases ha : (db.allocation id).filter fun row ↦ row.status = .assigned && linked row with
  | none =>
    refine ⟨{ v with snapshot := v.shared.store }, ?_⟩
    have hselect : alone i n r (selectForUpdate (.allocation id) fun db ↦
        (db.allocation id).filter fun row ↦ row.status = .assigned && linked row : Tx _) v =
        some (.ok none, { v with snapshot := v.shared.store }) := by
      rw [selectForUpdate, alone_bind alone_snapshot, hdb, ha]
      rfl
    rw [alone_bind hselect]
    rfl
  | some a =>
    rw [alone_bind (alone_selectForUpdate hfree (by rw [hdb, ha]))]
    exact ⟨_, rfl⟩


private theorem require_congr {p q : Prop} [Decidable p] [Decidable q] (h : p ↔ q)
    {failure : Failure} : require p failure = require q failure := by
  by_cases hq : q
  · rw [require, require, if_pos hq, if_pos (h.mpr hq)]
  · rw [require, require, if_neg hq, if_neg fun hp ↦ hq (h.mp hp)]

theorem alone_bookedAllocation {db : Database} (hdb : v.pending v.shared.store = db)
    (hids : (db.allocations.map (·.id)).Nodup) {booking : Booking}
    (hfree : v.shared.Available i (.allocation booking.allocationId)) :
    ∃ w, alone i n r (bookedAllocation booking) v =
      some (.ok (decide (db.BookedAssigned booking)), w) := by
  obtain ⟨w, hw⟩ := alone_assignedAllocation (n := n) (r := r) hdb hids hfree fun row ↦
    row.needRequestId = booking.needRequestId && row.providerId = booking.providerId
  refine ⟨w, hw.trans ?_⟩
  have hiff : (∃ a ∈ db.allocations, a.id = booking.allocationId ∧ a.status = .assigned ∧
      (decide (a.needRequestId = booking.needRequestId) &&
        decide (a.providerId = booking.providerId)) = true) ↔ db.BookedAssigned booking := by
    simp only [Database.BookedAssigned, Booking.Identifies, Bool.and_eq_true, decide_eq_true_eq]
    refine exists_congr fun a ↦ and_congr_right fun _ ↦ ?_
    tauto
  rw [decide_eq_decide.mpr hiff]

theorem alone_enforceBookingInsert {db : Database} (hdb : v.pending v.shared.store = db)
    (hids : (db.allocations.map (·.id)).Nodup) {new : Booking}
    (hfree : v.shared.Available i (.allocation new.allocationId)) :
    ∃ w, alone i n r (enforceBookingInsert new) v =
      some (db.enforceBookingLifecycle none new, w) := by
  refine alone_ensure_bind fun _ ↦ ?_
  obtain ⟨w, hw⟩ := alone_bookedAllocation (n := n) (r := r) hdb hids hfree
  rw [alone_bind hw, ← require_congr (decide_eq_true_iff (p := db.BookedAssigned new))]
  exact alone_ensure_require

/-- The booking that a route moves to another status. -/
theorem alone_enforceBookingUpdate {db : Database} (hdb : v.pending v.shared.store = db)
    (hids : (db.allocations.map (·.id)).Nodup) {old new : Booking} (hsame : old.SameReservation new)
    (hfree : v.shared.Available i (.allocation old.allocationId)) :
    ∃ w, alone i n r (enforceBookingUpdate old new) v =
      some (db.enforceBookingLifecycle (some old) new, w) := by
  rw [Database.enforceBookingLifecycle, require, if_pos hsame]
  refine alone_ensure_bind fun _ ↦ alone_ensure_bind fun _ ↦ ?_
  obtain ⟨w, hw⟩ := alone_bookedAllocation (n := n) (r := r) hdb hids hfree
  rw [alone_bind hw, ← require_congr (decide_eq_true_iff (p := db.BookedAssigned old))]
  exact alone_ensure_require

theorem alone_enforceMatterInsert {db : Database} (hdb : v.pending v.shared.store = db)
    (hids : (db.allocations.map (·.id)).Nodup) {new : Matter}
    (hfree : v.shared.Available i (.allocation new.allocationId)) :
    ∃ w, alone i n r (enforceMatterInsert new) v =
      some (db.enforceMatterLifecycle none new, w) := by
  refine alone_ensure_bind fun _ ↦ ?_
  rw [alone_bind alone_snapshot, hdb]
  cases db.participantsBooking new.allocationId new.providerId new.citizenUserId with
  | none => exact ⟨_, rfl⟩
  | some booking =>
    refine alone_ensure_bind fun _ ↦ ?_
    obtain ⟨w, hw⟩ := alone_assignedAllocation (i := i) (n := n) (r := r)
      (v := { v with snapshot := v.shared.store }) hdb hids hfree (·.providerId = new.providerId)
    have hiff : (∃ a ∈ db.allocations, a.id = new.allocationId ∧ a.status = .assigned ∧
        decide (a.providerId = new.providerId) = true) ↔ ∃ a ∈ db.allocations,
        a.id = new.allocationId ∧ a.providerId = new.providerId ∧ a.status = .assigned := by
      refine exists_congr fun a ↦ and_congr_right fun _ ↦ ?_
      rw [decide_eq_true_iff]
      tauto
    rw [alone_bind hw, ← require_congr (decide_eq_true_iff.trans hiff)]
    exact alone_ensure_require

theorem alone_protectActiveSchedulingAllocation {db : Database}
    (hdb : v.pending v.shared.store = db) {old new : Allocation} :
    ∃ w, alone i n r (protectActiveSchedulingAllocation old new) v =
      some (db.protectActiveSchedulingAllocation old new, w) := by
  rw [protectActiveSchedulingAllocation, Database.protectActiveSchedulingAllocation]
  split
  next => exact ⟨_, rfl⟩
  next =>
    rw [alone_bind alone_snapshot, hdb]
    split
    next => exact ⟨_, rfl⟩
    next =>
      refine alone_ensure_bind fun _ ↦ ?_
      rw [alone_bind alone_snapshot, hdb]
      exact alone_ensure_require

end Routes
end Nayasetu
