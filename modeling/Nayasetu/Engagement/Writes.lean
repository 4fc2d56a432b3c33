import Nayasetu.Engagement.Transactions
import Nayasetu.RowLock.Tracing

/-!
# What the routes write

Every route reads, checks and waits as it likes, but it writes only a few kinds of rows. For a class
of writes that contains these kinds, the parts the routes are made of write within the class.
-/

namespace Nayasetu

open RowLock

/-- The class contains what the routes write. Requests for help, conduct signals and audit rows are
left to the routes that write them. -/
structure RouteWrites (W : (Database → Database) → Prop) : Prop where
  decision : ∀ row, W (Database.insertDecision row)
  surface : ∀ row, W (Database.insertSurface row)
  counter : ∀ providerId, W (Database.incrementCounter providerId)
  allocation : ∀ row, W (Database.insertAllocation row)
  endedAllocation : ∀ row, W (Database.updateAllocation row)
  membership : ∀ row, W (Database.updateMembership row)
  booking : ∀ row, W (Database.insertBooking row)
  movedBooking : ∀ row, W (Database.updateBooking row)
  matter : ∀ row, W (Database.insertMatter row)

section Routes

variable {W : (Database → Database) → Prop} {actor : ActorContext} {timestamp : ℤ}

/-! ## Requests for help -/

theorem writes_toMoney {amount : ℚ} : (toMoney amount).Writes W := by
  rw [toMoney]
  split
  · exact writes_pure
  · exact writes_throw

theorem writes_countShowing (hW : RouteWrites W) {providerId : ℕ} :
    (countShowing providerId).Writes W :=
  writes_bind (writes_updateRow (hW.counter providerId)) fun _ ↦
    writes_bind writes_snapshot fun _ ↦ writes_bind writes_ensure fun _ ↦ writes_pure

theorem writes_storeSurfaces (hW : RouteWrites W) {need : NeedRequest}
    {query : DirectoryQuery} {rows : List (DirectoryProviderRow × ℤ)} {position : ℕ}
    {candidates : List DirectoryCandidate} :
    (storeSurfaces need query rows position candidates).Writes W := by
  induction candidates generalizing position with
  | nil => exact writes_pure
  | cons candidate candidates ih =>
    rw [storeSurfaces]
    cases rows.find? (·.1.providerId = candidate.providerId) with
    | none => exact writes_throw
    | some source =>
      refine writes_bind writes_ensure fun _ ↦ writes_bind writes_snapshot fun _ ↦ ?_
      refine writes_bind writes_ensure fun _ ↦ ?_
      refine writes_bind (writes_write (hW.surface _)) fun _ ↦ ?_
      refine writes_bind (writes_countShowing hW) fun _ ↦ ?_
      exact writes_bind ih fun _ ↦ writes_pure

theorem writes_generateDirectory (hW : RouteWrites W)
    (haudit : ∀ input, W (Database.insertAudit [auditEvent actor input])) {config : AppConfig}
    {seededKey : String → String → String} {need state : NeedRequest} {query : DirectoryQuery}
    (hneed : ∀ row : NeedRequest, row.citizenUserId = state.citizenUserId →
      row.operatorDelegationId = state.operatorDelegationId → W (Database.updateNeed row)) :
    (generateDirectory config seededKey actor need state query timestamp).Writes W := by
  refine writes_bind (writes_write (hneed _ rfl rfl)) fun _ ↦ writes_bind writes_snapshot fun _ ↦ ?_
  refine writes_bind (writes_bind writes_choose fun _ ↦ writes_pure) fun _ ↦ ?_
  refine writes_bind (writes_storeSurfaces hW) fun _ ↦ ?_
  refine writes_bind (writes_write (hneed _ rfl rfl)) fun _ ↦ ?_
  exact writes_bind (writes_write (haudit _)) fun _ ↦ writes_pure

/-! ## Allocations -/

theorem writes_selectEligibleProvider {config : AppConfig} {need : NeedRequest}
    {query : DirectoryQuery} {providerId : ℕ} :
    (selectEligibleProvider config need query providerId timestamp).Writes W := by
  refine writes_bind writes_snapshot fun _ ↦ ?_
  dsimp only
  split
  · exact writes_pure
  · exact writes_bind writes_lock fun _ ↦ writes_pure

/-! ## Bookings

The parts of the three routes on bookings, each by the rows it may change.
-/

theorem writes_bookingForUpdate {bookingId : ℕ} : (bookingForUpdate bookingId).Writes W := by
  refine writes_bind (writes_bind writes_snapshot fun db ↦ ?_) fun found ↦ ?_
  · dsimp only
    split
    · exact writes_pure
    · exact writes_bind writes_lock fun _ ↦ writes_bind writes_lock fun _ ↦ writes_pure
  · cases found with
    | none => exact writes_throw
    | some booking => exact writes_pure

theorem writes_assignedAllocation {id : ℕ} {linked : Allocation → Bool} :
    (assignedAllocation id linked).Writes W :=
  writes_bind writes_selectForUpdate fun _ ↦ writes_pure

theorem writes_changeBookingStatus (hW : RouteWrites W) {booking : LockedBooking}
    {next : BookingStatus} : (changeBookingStatus booking next timestamp).Writes W := by
  refine writes_bind writes_fromExcept fun status ↦ writes_bind ?_ fun _ ↦
    writes_bind writes_ensure fun _ ↦ writes_pure
  refine writes_bind writes_selectForUpdate fun found ↦ ?_
  cases found with
  | none => exact writes_pure
  | some old =>
    refine writes_bind ?_ fun _ ↦ writes_bind writes_ensure fun _ ↦
      writes_bind (writes_write (hW.movedBooking _)) fun _ ↦ writes_pure
    refine writes_bind writes_ensure fun _ ↦ writes_bind writes_ensure fun _ ↦ ?_
    exact writes_bind writes_assignedAllocation fun _ ↦ writes_ensure

theorem writes_insertMatter (hW : RouteWrites W) {row : ℕ → Matter} :
    (insertMatter row).Writes W := by
  refine writes_bind writes_nextval fun n ↦ writes_bind ?_ fun _ ↦ writes_bind writes_lock fun _ ↦
    writes_bind writes_ensure fun _ ↦ writes_bind (writes_write (hW.matter _)) fun _ ↦ writes_pure
  refine writes_bind writes_ensure fun _ ↦ writes_bind writes_snapshot fun db ↦ ?_
  cases db.participantsBooking (row n).allocationId (row n).providerId (row n).citizenUserId with
  | none => exact writes_throw
  | some booking =>
    exact writes_bind writes_ensure fun _ ↦ writes_bind writes_assignedAllocation fun _ ↦
      writes_ensure

theorem writes_endAllocation (hW : RouteWrites W) {id : ℕ} {ended : Allocation → Allocation} :
    (endAllocation id ended).Writes W := by
  refine writes_bind writes_selectForUpdate fun found ↦ ?_
  cases found with
  | none => exact writes_pure
  | some old =>
    refine writes_bind ?_ fun _ ↦ writes_bind (writes_write (hW.endedAllocation _))
      fun _ ↦ writes_pure
    rw [protectActiveSchedulingAllocation]
    split
    · exact writes_pure
    · refine writes_bind writes_snapshot fun db ↦ writes_ite writes_pure ?_
      exact writes_bind writes_ensure fun _ ↦ writes_bind writes_snapshot fun _ ↦ writes_ensure

theorem writes_releaseCapacity (hW : RouteWrites W)
    (haudit : ∀ input, W (Database.insertAudit [auditEvent actor input])) {booking : LockedBooking}
    {rosterId : ℕ} : (releaseCapacity actor booking rosterId).Writes W := by
  refine writes_bind (writes_bind writes_selectForUpdate fun found ↦ ?_) fun _ ↦
    writes_bind writes_ensure fun _ ↦ writes_write (haudit _)
  cases found with
  | none => exact writes_pure
  | some member =>
    exact writes_bind writes_ensure fun _ ↦
      writes_bind (writes_write (hW.membership _)) fun _ ↦ writes_pure

theorem writes_insertHeldBooking (hW : RouteWrites W) {held : HeldBooking} :
    (insertHeldBooking held timestamp).Writes W := by
  refine writes_bind writes_nextval fun n ↦ writes_bind ?_ fun _ ↦
    writes_bind writes_ensure fun _ ↦ ?_
  · exact writes_bind writes_ensure fun _ ↦ writes_bind writes_assignedAllocation fun _ ↦
      writes_ensure
  · refine writes_bind writes_lock fun _ ↦ writes_bind writes_ensure fun _ ↦ ?_
    refine writes_bind writes_ensure fun _ ↦ writes_bind writes_ensure fun _ ↦ ?_
    exact writes_bind (writes_write (hW.booking _)) fun _ ↦ writes_pure

/-! ## Quotes -/

theorem writes_selectQuotedMatterForUpdate {matterId : ℕ} :
    (selectQuotedMatterForUpdate matterId).Writes W := by
  refine writes_bind writes_snapshot fun db ↦ ?_
  cases db.quotedMatter matterId with
  | none => exact writes_pure
  | some found =>
    exact writes_bind writes_lock fun _ ↦ writes_bind writes_lock fun _ ↦
      writes_bind writes_lock fun _ ↦ writes_bind writes_lock fun _ ↦ writes_pure

theorem writes_createPaymentQuote {body : QuoteBody} (hquote : ∀ row, W (Database.insertQuote row))
    (haudit : ∀ n, W (Database.insertAudit [quoteAudit actor body n])) :
    (createPaymentQuote actor body timestamp).Writes W := by
  refine writes_bind writes_ensure fun _ ↦
    writes_bind writes_selectQuotedMatterForUpdate fun locked ↦ ?_
  cases locked with
  | none => exact writes_throw
  | some found =>
    refine writes_bind writes_snapshot fun _ ↦ writes_bind writes_ensure fun _ ↦ ?_
    refine writes_bind writes_ensure fun _ ↦ writes_bind writes_ensure fun _ ↦ ?_
    refine writes_bind writes_nextval fun _ ↦ writes_bind writes_ensure fun _ ↦ ?_
    exact writes_bind (writes_write (hquote _)) fun _ ↦
      writes_bind (writes_write (haudit _)) fun _ ↦ writes_pure

end Routes

end Nayasetu
