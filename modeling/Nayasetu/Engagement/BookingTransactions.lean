import Nayasetu.Engagement.Transactions

/-!
# The transactions on bookings

A booking that is accepted, declined or cancelled is locked together with its allocation, so neither
changes until the commit. While an allocation of a roster is locked and assigned, the counter of its
member is positive, which is why giving the place back never fails.
-/

namespace Nayasetu

open RowLock RowLock.Discipline Collections

variable {i : ℕ} {r : EngagementRequest} {v w : View Database LockKey EngagementRequest}

/-! ## Locked rows

The rows of a booking and its allocation after they have been locked, and what the route was shown
of them. As long as the session writes neither, both stay the same.
-/

/-- A booking and its allocation, under the locks of the session. -/
structure LockedRows (i : ℕ) (s : Shared Database LockKey EngagementRequest) (bookingId : ℕ)
    (b : Booking) (a : Allocation) : Prop where
  booking : s.store.booking bookingId = some b
  allocation : s.store.allocation b.allocationId = some a
  bookingLock : Holds i s (.booking bookingId)
  allocationLock : Holds i s (.allocation b.allocationId)

/-- The locked booking shows these rows. -/
structure LockedBooking.Shows (booking : LockedBooking) (b : Booking) (a : Allocation) : Prop where
  id : booking.id = b.id
  status : booking.status = b.status
  allocationStatus : booking.allocationStatus = a.status
  provider : booking.providerId = b.providerId
  allocation : booking.allocationId = b.allocationId
  roster : booking.rosterId = a.rosterId

section LockedRows

variable {s s' : Shared Database LockKey EngagementRequest} {bookingId : ℕ} {a : Allocation}
  {b b' : Booking} {status : BookingStatus}

theorem LockedRows.since (h : LockedRows i s bookingId b a)
    (hs : engagementDiscipline.Since i s s') : LockedRows i s' bookingId b a where
  booking := hs.keep _ h.bookingLock b h.booking
  allocation := (congrArg Episode.allocation (hs.keep _ h.allocationLock a h.allocation)).trans
    h.allocation
  bookingLock := hs.holds _ h.bookingLock
  allocationLock := hs.holds _ h.allocationLock

theorem LockedRows.moving (h : LockedRows i s bookingId b a) (hheld : b.status = .held)
    (hmoved : b.MovedTo b' status) : Moving (Holds i s) s.store bookingId a b b' status where
  booking := h.booking
  allocation := h.allocation
  isHeld := hheld
  bookingLock := h.bookingLock
  allocationLock := h.allocationLock
  moved := hmoved

end LockedRows

theorem attempt_bookingForUpdate_named {D : Discipline Database LockKey EngagementRequest}
    {bookingId : ℕ} {Q : LockedBooking → View Database LockKey EngagementRequest → Prop}
    (hpending : v.pending = id)
    (h : ∀ w₁ w booking b a, D.Onward i v w₁ → D.Onward i w₁ w →
      LockedRows i w.shared bookingId b a →
      booking.Shows b a → (∃ provider ∈ w₁.shared.store.providers, provider.id = b.providerId ∧
        provider.userId = booking.providerUserId) → Q booking w) :
    D.Attempt i r Q Failure.Unconflicted (bookingForUpdate bookingId) v := by
  have hmissing (w : View Database LockKey EngagementRequest) : D.Attempt i r Q Failure.Unconflicted
      (throw (.app 404 "BOOKING_NOT_FOUND" "Booking was not found")) w := attempt_throw (by simp)
  refine attempt_bind (attempt_bind (attempt_snapshot fun w₁ hw₁ _ ↦ ?_))
  dsimp only
  split
  · exact attempt_pure (hmissing w₁)
  · rename_i b₀ provider a₀ need hjoin
    simp only [Option.bind_eq_bind, Option.bind_eq_some_iff] at hjoin
    obtain ⟨b₁, hb₁, provider₁, hprovider, _, -, _, -, heq⟩ := hjoin
    obtain ⟨rfl, rest⟩ := Prod.mk.inj (Option.some.inj heq)
    obtain ⟨rfl, -⟩ := Prod.mk.inj rest
    have hb₀ : b₁.id = bookingId := (Database.mem_of_booking hb₁).2
    rw [hpending] at hprovider
    refine attempt_bind (attempt_lock fun w₂ hw₂ _ hbooking ↦ ?_)
    refine attempt_bind (attempt_lock fun w₃ hw₃ _ hallocation ↦ ?_)
    have hp : w₂.pending = id := (hw₁.trans hw₂).pending.trans hpending
    rw [hp]
    refine attempt_pure ?_
    split
    next => exact hmissing w₃
    next booking hfound =>
      simp only [Option.bind_eq_bind, Option.bind_eq_some_iff] at hfound
      obtain ⟨b, hb, a, ha, hfound⟩ := hfound
      rw [joinBooking] at hfound
      split at hfound
      next hids =>
        have haid : a.id = a₀.id := (Database.mem_of_allocation ha).2
        have hid : a₀.id = b.allocationId := haid.symm.trans hids.2.1
        rw [hid] at ha hallocation
        rw [hb₀] at hb hbooking
        have hrows : LockedRows i w₃.shared bookingId b a :=
          ⟨hb, ha, hw₃.since.holds _ hbooking, hallocation⟩
        obtain rfl := Option.some.inj hfound
        exact attempt_pure (h w₁ w₃ _ b a hw₁ (hw₂.trans hw₃) hrows
          ⟨rfl, rfl, rfl, rfl, haid.trans hid, rfl⟩
          ⟨provider₁, (lookupBy_mem hprovider).1, hids.1, rfl⟩)
      next => exact absurd hfound (by simp)

theorem attempt_bookingForUpdate {bookingId : ℕ}
    {Q : LockedBooking → View Database LockKey EngagementRequest → Prop} (hpending : v.pending = id)
    (h : ∀ w booking b a, engagementDiscipline.Onward i v w → LockedRows i w.shared bookingId b a →
      booking.Shows b a → Q booking w) :
    engagementDiscipline.Attempt i r Q Failure.Unconflicted (bookingForUpdate bookingId) v :=
  attempt_bookingForUpdate_named hpending fun _ w booking b a hw₁ hw hrows hshows _ ↦
    h w booking b a (hw₁.trans hw) hrows hshows

theorem attempt_assignedAllocation {id : ℕ} {linked : Allocation → Bool}
    {Q : Bool → View Database LockKey EngagementRequest → Prop}
    (hfalse : ∀ w, engagementDiscipline.Onward i v w → Q false w)
    (htrue : ∀ w a, engagementDiscipline.Onward i v w → Holds i w.shared (.allocation id) →
      (v.pending w.shared.store).allocation id = some a → a.status = .assigned → linked a = true →
      Q true w) :
    engagementDiscipline.Attempt i r Q Failure.Unconflicted (assignedAllocation id linked) v := by
  refine attempt_bind (attempt_selectForUpdate (fun w hw _ ↦ attempt_pure (hfalse w hw))
    fun w a hw hlock hrow ↦ attempt_pure ?_)
  obtain ⟨ha, hrow⟩ := Option.filter_eq_some_iff.mp hrow
  rw [Bool.and_eq_true] at hrow
  exact htrue w a hw hlock ha (of_decide_eq_true hrow.1) hrow.2

theorem attempt_bookedAllocation {booking : Booking}
    {Q : Bool → View Database LockKey EngagementRequest → Prop}
    (h : ∀ w b, engagementDiscipline.Onward i v w → Q b w) :
    engagementDiscipline.Attempt i r Q Failure.Unconflicted (bookedAllocation booking) v :=
  attempt_assignedAllocation (fun w hw ↦ h w false hw) fun w _ hw _ _ _ _ ↦ h w true hw

/-- Only a held booking passes the trigger. -/
theorem attempt_enforceBookingUpdate {old new : Booking}
    {Q : Unit → View Database LockKey EngagementRequest → Prop}
    (h : ∀ w, engagementDiscipline.Onward i v w → old.status = .held → Q () w) :
    engagementDiscipline.Attempt i r Q Failure.Unconflicted (enforceBookingUpdate old new) v := by
  refine attempt_bind (attempt_ensure trivial fun _ ↦ ?_)
  refine attempt_bind (attempt_ensure trivial fun hmoves ↦ ?_)
  refine attempt_bind (attempt_bookedAllocation fun w _ hw ↦ ?_)
  exact attempt_ensure trivial fun _ ↦ h w hw hmoves.1

theorem attempt_updateBookingStatus {bookingId : ℕ} {b : Booking} {a : Allocation}
    {next : BookingStatus} {timestamp : ℤ} {Q : ℕ → View Database LockKey EngagementRequest → Prop}
    (hpending : v.pending = id) (hrows : LockedRows i v.shared bookingId b a)
    (h : ∀ w b', engagementDiscipline.Onward i v w → b.status = .held → b.MovedTo b' next →
      Q 1 { w with pending := Database.updateBooking b' }) :
    engagementDiscipline.Attempt i r Q Failure.Unconflicted
      (updateBookingStatus b.id b.status next timestamp) v := by
  have hb : b.id = bookingId := (Database.mem_of_booking hrows.booking).2
  have hrow (w : View Database LockKey EngagementRequest)
      (hw : engagementDiscipline.Onward i v w) :
      ((v.pending w.shared.store).booking b.id).filter (·.status = b.status) = some b := by
    rw [hpending, hb]
    exact Option.filter_eq_some_iff.mpr ⟨(hrows.since hw.since).booking, decide_eq_true rfl⟩
  refine attempt_bind (attempt_selectForUpdate_held hrow fun w₁ hw₁ ↦ ?_)
  refine attempt_bind (attempt_enforceBookingUpdate fun w₂ hw₂ hheld ↦ ?_)
  refine attempt_bind
    (attempt_ensure trivial fun _ ↦ attempt_bind (attempt_write (attempt_pure ?_)))
  have hw := hw₁.trans hw₂
  rw [hw.pending, hpending, Function.comp_id]
  exact h w₂ _ hw hheld ⟨rfl, rfl, rfl, rfl, rfl, rfl⟩

theorem attempt_changeBookingStatus {bookingId : ℕ} {booking : LockedBooking} {b : Booking}
    {a : Allocation} {next : BookingStatus} {timestamp : ℤ}
    {Q : BookingStatus → View Database LockKey EngagementRequest → Prop}
    (hpending : v.pending = id) (hrows : LockedRows i v.shared bookingId b a)
    (hshows : booking.Shows b a)
    (h : ∀ w b', engagementDiscipline.Onward i v w → b.status = .held → b.MovedTo b' next →
      Q next { w with pending := Database.updateBooking b' }) :
    engagementDiscipline.Attempt i r Q Failure.Unconflicted
      (changeBookingStatus booking next timestamp) v := by
  refine attempt_bind (attempt_fromExcept (fun status hstatus ↦ ?_) fun e he ↦ ?_)
  · obtain rfl := transitionBooking_eq_ok hstatus
    rw [hshows.id, hshows.status]
    refine attempt_bind (attempt_updateBookingStatus hpending hrows fun w b' hw hheld hmoved ↦ ?_)
    exact attempt_bind (attempt_ensure trivial fun _ ↦ attempt_pure (h w b' hw hheld hmoved))
  · rw [transitionBooking_eq_error he]
    exact by simp

/-! ## Accepting

The booking is confirmed and its matter opened in one transaction.
-/

theorem Moving.citizen_of_participants {held : LockKey → Prop} {db : Database} {bookingId : ℕ}
    {a : Allocation} {b b' found : Booking} {status : BookingStatus} {providerId citizenUserId : ℕ}
    (h : Moving held db bookingId a b b' status) (hdb : Coherent db)
    (hfound : (db.updateBooking b').participantsBooking b.allocationId providerId citizenUserId =
      some found) : citizenUserId = b.citizenUserId := by
  have hmem := List.mem_of_find?_eq_some hfound
  have hmatch := List.find?_some hfound
  simp only [Bool.and_eq_true, decide_eq_true_eq] at hmatch
  obtain ⟨⟨hallocation, -⟩, hcitizen⟩ := hmatch
  have hepisode : found ∈ ((db.updateBooking b').episode b.allocationId).bookings :=
    Database.mem_episode_bookings.mpr ⟨hmem, hallocation⟩
  rw [h.episode_updateBooking hdb, if_pos rfl] at hepisode
  rw [← hcitizen, List.mem_singleton.mp hepisode]
  exact h.moved.citizen

theorem attempt_insertMatter {bookingId : ℕ} {a : Allocation} {b b' : Booking}
    {row : ℕ → Matter} {Q : ℕ → View Database LockKey EngagementRequest → Prop}
    (hpending : v.pending = Database.updateBooking b') (hrows : LockedRows i v.shared bookingId b a)
    (hheld : b.status = .held) (hmoved : b.MovedTo b' .confirmed)
    (hallocation : ∀ n, (row n).allocationId = b.allocationId)
    (h : ∀ w n, engagementDiscipline.Onward i v w → Drew i w.shared n → w.shared.store.Free n →
      (row n).citizenUserId = b.citizenUserId →
      Q n { w with pending := Database.insertMatter (row n) ∘ Database.updateBooking b' }) :
    engagementDiscipline.Attempt i r Q Failure.Unconflicted (insertMatter row) v := by
  refine attempt_bind (attempt_nextval fun w₁ n hw₁ _ hn hunused ↦ ?_)
  refine attempt_bind (attempt_bind (attempt_ensure trivial fun _ ↦ ?_))
  refine attempt_bind (attempt_snapshot fun w₂ hw₂ _ ↦ ?_)
  rw [hw₁.pending, hpending, hallocation]
  cases hfound : (w₂.shared.store.updateBooking b').participantsBooking b.allocationId
      (row n).providerId (row n).citizenUserId with
  | none => exact attempt_throw (by simp)
  | some found =>
    have hw := hw₁.trans hw₂
    have hmoving := (hrows.since hw.since).moving hheld hmoved
    have hcitizen := hmoving.citizen_of_participants hw.inv.store hfound
    refine attempt_bind (attempt_ensure trivial fun _ ↦ ?_)
    have hrest (w₃ : View Database LockKey EngagementRequest)
        (hw₃ : engagementDiscipline.Onward i w₂ w₃) (assigned : Bool) :
        engagementDiscipline.Attempt i r (fun _ w ↦ engagementDiscipline.Attempt i r Q
          Failure.Unconflicted (do
            let db ← lock (.matterOfAllocation b.allocationId)
            ensure (∀ matter ∈ db.matters, matter.allocationId ≠ b.allocationId)
              (.app 409 "INVALID_BOOKING_STATE" "The booking allocation already has a matter")
            write (Database.insertMatter (row n))
            return n) w) Failure.Unconflicted
          (ensure (assigned = true)
            (checkViolation "An open matter requires its linked allocation to be ASSIGNED"))
              w₃ := by
      refine attempt_ensure trivial fun _ ↦ attempt_bind (attempt_lock fun w₄ hw₄ _ _ ↦ ?_)
      refine attempt_bind (attempt_ensure (by simp) fun _ ↦ ?_)
      refine attempt_bind (attempt_write (attempt_pure ?_))
      have hlater := (hw₂.trans hw₃).trans hw₄
      rw [(hw₁.trans hlater).pending, hpending]
      exact h w₄ n (hw₁.trans hlater) (hlater.since.drawn hn) (hlater.since.unused n hn hunused)
        hcitizen
    exact attempt_bind (attempt_assignedAllocation (fun w₃ hw₃ ↦ hrest w₃ hw₃ false)
      fun w₃ _ hw₃ _ _ _ _ ↦ hrest w₃ hw₃ true)

theorem attempt_acceptInTransaction {actor : ActorContext} {bookingId : ℕ} {timestamp : ℤ}
    (hpending : v.pending = id) :
    engagementDiscipline.Attempt i (.accept actor bookingId)
      (fun _ w ↦ Committable engagementDiscipline i (.accept actor bookingId) w)
      Failure.Unconflicted (acceptInTransaction actor bookingId timestamp) v := by
  refine attempt_bind (attempt_bookingForUpdate hpending fun w₁ booking b a hw₁ hrows hshows ↦ ?_)
  refine attempt_bind (attempt_ensure (by simp) fun _ ↦ ?_)
  refine attempt_bind (attempt_ensure (by simp) fun _ ↦ ?_)
  refine attempt_bind (attempt_changeBookingStatus (hw₁.pending.trans hpending) hrows hshows
    fun w₂ b' hw₂ hheld hmoved ↦ ?_)
  have hrows₂ := hrows.since hw₂.since
  refine attempt_bind (attempt_insertMatter rfl hrows₂ hheld hmoved (fun _ ↦ hshows.allocation)
    fun w₃ n hw₃ hn hunused hcitizen ↦ ?_)
  refine attempt_bind (attempt_write (attempt_bind (attempt_write (attempt_pure ?_))))
  refine committable_of_change fun s hs _ ↦ ?_
  have hmoving := ((hrows₂.since hw₃.since).since hs).moving hheld hmoved
  exact .accept hmoving (hs.drawn hn) (hs.unused n hn hunused) hshows.allocation
    ⟨rfl, hshows.provider, hcitizen⟩

theorem serves_accept {actor : ActorContext} {bookingId : ℕ} (hpending : v.pending = id) :
    engagementDiscipline.Serves i (.accept actor bookingId) Failure.Unconflicted
      (accept actor bookingId) v :=
  serves_bind (attempt_requireActor (serves_withTransaction fun _ hw ↦
    attempt_acceptInTransaction (hw.pending.trans hpending)))

/-! ## Declining and cancelling

Two routes with one body, apart from the states they lead to, the record of a decline and who may
ask. What they share is proved once, for any outcome (`Closing`).
-/

/-- While an allocation of a roster is assigned, its member has an active matter. -/
theorem Coherent.active_pos {db : Database} (hdb : Coherent db) {a : Allocation}
    (ha : a ∈ db.allocations) (hassigned : a.status = .assigned) {rosterId : ℕ}
    (hroster : a.rosterId = some rosterId) : ∃ member,
      db.membership (rosterId, a.providerId) = some member ∧ 0 < member.activeMatters := by
  have hmode : a.mode = .rotation := by
    cases hmode : a.mode with
    | citizenChoice => exact absurd (((hdb.rostered a ha).1 hmode).symm.trans hroster) (by simp)
    | rotation => rfl
  obtain ⟨rosterId', member, hroster', hmember⟩ := (hdb.rostered a ha).2 hmode
  obtain rfl := Option.some.inj (hroster.symm.trans hroster')
  obtain ⟨hmem, hkey⟩ := lookupBy_mem hmember
  have hpos : 0 < db.occupied member.key := by
    refine List.countP_pos_iff.mpr ⟨a, ha, ?_⟩
    rw [occupies_rotation_iff hassigned hmode hroster]
    exact hkey
  refine ⟨member, hmember, ?_⟩
  rw [(hdb.capacity member hmem).1]
  exact_mod_cast hpos

/-- What closing a held booking has written so far, and what protects it. -/
structure Closing (i bookingId : ℕ) (a a' : Allocation) (b b' : Booking)
    (member? : Option RosterMembership) (w : View Database LockKey EngagementRequest) : Prop where
  rows : LockedRows i w.shared bookingId b a
  released : Released (Holds i w.shared) w.shared.store a member?
  writes : ∃ signals auditEvents, ∀ db, w.pending db =
    (((db.updateBooking b').updateAllocation a').releaseMember member?).withLogs
      (db.signals ++ signals) (db.auditEvents ++ auditEvents) db.counters

section Closing

variable {bookingId : ℕ} {a a' : Allocation} {b b' : Booking} {member? : Option RosterMembership}

theorem Released.since {s s' : Shared Database LockKey EngagementRequest}
    (h : Released (Holds i s) s.store a member?) (hs : engagementDiscipline.Since i s s') :
    Released (Holds i s') s'.store a member? where
  unrostered := h.unrostered
  rostered := by
    intro rosterId hroster
    obtain ⟨member, hmember, hlookup, hlock⟩ := h.rostered rosterId hroster
    exact ⟨member, hmember, Eq.trans (hs.keep _ hlock) hlookup, hs.holds _ hlock⟩

theorem Closing.onward (h : Closing i bookingId a a' b b' member? v)
    (hw : engagementDiscipline.Onward i v w) : Closing i bookingId a a' b b' member? w where
  rows := h.rows.since hw.since
  released := h.released.since hw.since
  writes := hw.pending ▸ h.writes

theorem Closing.insertAudit (h : Closing i bookingId a a' b b' member? w) (event : AuditEvent) :
    Closing i bookingId a a' b b' member?
      { w with pending := Database.insertAudit [event] ∘ w.pending } := by
  obtain ⟨signals, auditEvents, hwrites⟩ := h.writes
  refine ⟨h.rows, h.released, signals, auditEvents ++ [event], fun db ↦ ?_⟩
  change Database.insertAudit [event] (w.pending db) = _
  rw [hwrites, ← List.append_assoc]
  rfl

theorem Closing.insertSignal (h : Closing i bookingId a a' b b' member? w)
    (signal : ConductSignal) : Closing i bookingId a a' b b' member?
      { w with pending := Database.insertSignal signal ∘ w.pending } := by
  obtain ⟨signals, auditEvents, hwrites⟩ := h.writes
  refine ⟨h.rows, h.released, signals ++ [signal], auditEvents, fun db ↦ ?_⟩
  change Database.insertSignal signal (w.pending db) = _
  rw [hwrites, ← List.append_assoc]
  rfl

/-- An update that changed its one row goes on. -/
theorem attempt_requireSingleRow {D : Discipline Database LockKey EngagementRequest}
    {operation : String} {Q : Unit → View Database LockKey EngagementRequest → Prop} (h : Q () v) :
    D.Attempt i r Q Failure.Unconflicted (requireSingleRow 1 operation) v :=
  fun hv ↦ wp_ensure (fun _ ↦ ⟨hv, h⟩) fun hne ↦ absurd rfl hne

theorem attempt_protectActiveSchedulingAllocation {old new : Allocation}
    {Q : Unit → View Database LockKey EngagementRequest → Prop} (hv : EngagementInvariant v.shared)
    (h : ∀ w, engagementDiscipline.Onward i v w → Q () w) :
    engagementDiscipline.Attempt i r Q Failure.Unconflicted
      (protectActiveSchedulingAllocation old new) v := by
  rw [protectActiveSchedulingAllocation]
  split
  · exact attempt_pure (h v (.refl hv))
  · refine attempt_bind (attempt_snapshot fun w₁ hw₁ _ ↦ ?_)
    split
    · exact attempt_pure (h w₁ hw₁)
    · refine attempt_bind (attempt_ensure trivial fun _ ↦ ?_)
      refine attempt_bind (attempt_snapshot fun w₂ hw₂ _ ↦ ?_)
      exact attempt_ensure trivial fun _ ↦ h w₂ (hw₁.trans hw₂)

theorem attempt_endAllocation {ended : Allocation → Allocation}
    {Q : ℕ → View Database LockKey EngagementRequest → Prop}
    (hpending : v.pending = Database.updateBooking b') (hrows : LockedRows i v.shared bookingId b a)
    (hassigned : a.status = .assigned)
    (h : ∀ w, engagementDiscipline.Onward i v w →
      Q 1 { w with pending := Database.updateAllocation (ended a) ∘ Database.updateBooking b' }) :
    engagementDiscipline.Attempt i r Q Failure.Unconflicted
      (endAllocation b.allocationId ended) v := by
  have hrow (w : View Database LockKey EngagementRequest)
      (hw : engagementDiscipline.Onward i v w) :
      ((v.pending w.shared.store).allocation b.allocationId).filter (·.status = .assigned) =
        some a := by
    rw [hpending]
    exact Option.filter_eq_some_iff.mpr ⟨(hrows.since hw.since).allocation,
      decide_eq_true hassigned⟩
  refine attempt_bind (attempt_selectForUpdate_held hrow fun w₁ hw₁ ↦ ?_)
  refine attempt_bind (attempt_protectActiveSchedulingAllocation hw₁.inv fun w₂ hw₂ ↦ ?_)
  refine attempt_bind (attempt_write (attempt_pure ?_))
  rw [(hw₁.trans hw₂).pending, hpending]
  exact h w₂ (hw₁.trans hw₂)

/-- The place of an assigned allocation of a roster is given back. -/
theorem attempt_releaseCapacity {actor : ActorContext} {booking : LockedBooking} {rosterId : ℕ}
    {auditEvents : List AuditEvent} {Q : Unit → View Database LockKey EngagementRequest → Prop}
    (hpending : v.pending = Database.insertAudit auditEvents ∘ Database.updateAllocation a' ∘
      Database.updateBooking b') (hrows : LockedRows i v.shared bookingId b a)
    (hassigned : a.status = .assigned) (hroster : a.rosterId = some rosterId)
    (hprovider : booking.providerId = a.providerId)
    (h : ∀ w member, engagementDiscipline.Since i v.shared w.shared → EngagementInvariant w.shared →
      Closing i bookingId a a' b b' (some member) w → Q () w) :
    engagementDiscipline.Attempt i r Q Failure.Unconflicted
      (releaseCapacity actor booking rosterId) v := by
  rw [releaseCapacity, hprovider]
  refine attempt_bind (attempt_bind (attempt_selectForUpdate (fun w hw hnone ↦ ?_)
    fun w₁ member hw₁ hlock hrow ↦ ?_))
  · have ha := (Database.mem_of_allocation (hrows.since hw.since).allocation).1
    obtain ⟨member, hmember, hpos⟩ := hw.inv.store.active_pos ha hassigned hroster
    have hrow : ((v.pending w.shared.store).membership (rosterId, a.providerId)).filter
        (0 < ·.activeMatters) = some member := by
      rw [hpending]
      exact Option.filter_eq_some_iff.mpr ⟨hmember, decide_eq_true hpos⟩
    exact absurd (hnone.symm.trans hrow) (by simp)
  · have hmember := (Option.filter_eq_some_iff.mp hrow).1
    rw [hpending] at hmember
    refine attempt_bind (attempt_ensure trivial fun _ ↦ attempt_bind (attempt_write ?_))
    refine attempt_pure (attempt_bind (attempt_requireSingleRow (attempt_write ?_)))
    have hclosing : Closing i bookingId a a' b b' (some member)
        { w₁ with pending := Database.updateMembership member.release ∘ w₁.pending } := by
      refine ⟨hrows.since hw₁.since, ⟨fun hnone ↦ ?_, fun rosterId' hroster' ↦ ?_⟩,
        [], auditEvents, fun db ↦ ?_⟩
      · exact absurd (hroster.symm.trans hnone) (by simp)
      · obtain rfl := Option.some.inj (hroster.symm.trans hroster')
        exact ⟨member, rfl, hmember, hlock⟩
      · rw [List.append_nil]
        change Database.updateMembership member.release (w₁.pending db) = _
        rw [hw₁.pending, hpending]
        rfl
    exact h _ member hw₁.since hw₁.inv (hclosing.insertAudit _)

theorem Closing.committable (h : Closing i bookingId a a' b b' member? w)
    (hchange : ∀ s signals auditEvents, LockedRows i s bookingId b a →
      Released (Holds i s) s.store a member? → Change (Holds i s) (Drew i s) s.store r
        ((((s.store.updateBooking b').updateAllocation a').releaseMember member?).withLogs signals
          auditEvents s.store.counters)) : Committable engagementDiscipline i r w := by
  refine committable_of_change fun s hs _ ↦ ?_
  obtain ⟨signals, auditEvents, hwrites⟩ := h.writes
  rw [hwrites]
  exact hchange s _ _ (h.rows.since hs) (h.released.since hs)

theorem Closing.attempt_finish {actor : ActorContext} {input : AuditInput} {status : BookingStatus}
    (h : Closing i bookingId a a' b b' member? w)
    (hchange : ∀ s signals auditEvents, LockedRows i s bookingId b a →
      Released (Holds i s) s.store a member? → Change (Holds i s) (Drew i s) s.store r
        ((((s.store.updateBooking b').updateAllocation a').releaseMember member?).withLogs signals
          auditEvents s.store.counters)) :
    engagementDiscipline.Attempt i r (fun _ w ↦ Committable engagementDiscipline i r w)
      Failure.Unconflicted (do
        writeAudit actor input
        return status) w :=
  attempt_bind (attempt_write (attempt_pure ((h.insertAudit _).committable hchange)))

/-- Without a roster there is no place to give back. -/
theorem closing_unrostered {auditEvents : List AuditEvent}
    (hrows : LockedRows i w.shared bookingId b a)
    (hroster : a.rosterId = none) (hpending : w.pending = Database.insertAudit auditEvents ∘
      Database.updateAllocation a' ∘ Database.updateBooking b') :
    Closing i bookingId a a' b b' none w where
  rows := hrows
  released := ⟨fun _ ↦ rfl, fun _ h ↦ absurd (hroster.symm.trans h) (by simp)⟩
  writes := by
    refine ⟨[], auditEvents, fun db ↦ ?_⟩
    rw [hpending, List.append_nil]
    rfl

end Closing

theorem attempt_declineInTransaction {actor : ActorContext} {bookingId : ℕ} {reasonCode : String}
    {timestamp : ℤ} (hpending : v.pending = id) :
    engagementDiscipline.Attempt i (.decline actor bookingId reasonCode)
      (fun _ w ↦ Committable engagementDiscipline i (.decline actor bookingId reasonCode) w)
      Failure.Unconflicted (declineInTransaction actor bookingId reasonCode timestamp) v := by
  refine attempt_bind (attempt_bookingForUpdate hpending fun w₁ booking b a hw₁ hrows₁ hshows ↦ ?_)
  refine attempt_bind (attempt_ensure (by simp) fun _ ↦ ?_)
  refine attempt_bind (attempt_ensure (by simp) fun hactive ↦ ?_)
  have hassigned : a.status = .assigned := hshows.allocationStatus.symm.trans hactive
  refine attempt_bind (attempt_changeBookingStatus (hw₁.pending.trans hpending) hrows₁ hshows
    fun w₂ b' hw₂ hheld hmoved ↦ attempt_bind (attempt_ensureText ?_))
  have hrows₂ := hrows₁.since hw₂.since
  have hprovider : booking.providerId = a.providerId :=
    hshows.provider.trans ((hrows₂.moving hheld hmoved).episode hw₂.inv.store).2.2.provider
  rw [hshows.allocation]
  refine attempt_bind (attempt_endAllocation rfl hrows₂ hassigned fun w₃ hw₃ ↦ ?_)
  refine attempt_bind (attempt_requireSingleRow (attempt_bind (attempt_write ?_)))
  have hrows₃ := hrows₂.since hw₃.since
  have hchange (member? : Option RosterMembership)
      (s : Shared Database LockKey EngagementRequest) (signals : List ConductSignal)
      (auditEvents : List AuditEvent) (hrows : LockedRows i s bookingId b a)
      (hreleased : Released (Holds i s) s.store a member?) :
      Change (Holds i s) (Drew i s) s.store (.decline actor bookingId reasonCode)
        ((((s.store.updateBooking b').updateAllocation
          (a.decline timestamp reasonCode)).releaseMember member?).withLogs signals auditEvents
            s.store.counters) :=
    .decline (hrows.moving hheld hmoved) ⟨rfl, rfl, rfl, rfl, rfl, rfl⟩ hreleased
  cases hroster : booking.rosterId with
  | none =>
    exact Closing.attempt_finish
      (closing_unrostered hrows₃ (hshows.roster.symm.trans hroster) rfl) (hchange none)
  | some rosterId =>
    refine attempt_bind (attempt_releaseCapacity rfl hrows₃ hassigned
      (hshows.roster.symm.trans hroster) hprovider fun w₄ member _ _ hclosing ↦ ?_)
    refine attempt_bind (attempt_nextval fun w₅ _ hw₅ _ _ _ ↦ attempt_bind (attempt_write ?_))
    refine attempt_bind (attempt_write ?_)
    exact Closing.attempt_finish (((hclosing.onward hw₅).insertSignal _).insertAudit _)
      (hchange (some member))

theorem serves_decline {actor : ActorContext} {bookingId : ℕ} {reasonCode : String}
    (hpending : v.pending = id) :
    engagementDiscipline.Serves i (.decline actor bookingId reasonCode) Failure.Unconflicted
      (decline actor bookingId reasonCode) v :=
  serves_bind (attempt_requireActor (serves_bind (attempt_parseBody fun _ ↦
    serves_withTransaction fun _ hw ↦ attempt_declineInTransaction (hw.pending.trans hpending))))

theorem attempt_cancelInTransaction {actor : ActorContext} {bookingId : ℕ} {reasonCode : String}
    {timestamp : ℤ} (hpending : v.pending = id) :
    engagementDiscipline.Attempt i (.cancel actor bookingId reasonCode)
      (fun _ w ↦ Committable engagementDiscipline i (.cancel actor bookingId reasonCode) w)
      Failure.Unconflicted (cancelInTransaction actor bookingId reasonCode timestamp) v := by
  refine attempt_bind (attempt_bookingForUpdate hpending fun w₁ booking b a hw₁ hrows₁ hshows ↦ ?_)
  refine attempt_ite_bind (fun _ w ↦ engagementDiscipline.Onward i w₁ w)
    (fun _ ↦ attempt_assertCitizenAuthority hw₁.inv fun _ hw ↦ hw)
    (fun _ ↦ attempt_pure (a := ()) (.refl hw₁.inv)) fun _ w₂ hw₂ ↦ ?_
  refine attempt_bind (attempt_ensure (by simp) fun _ ↦ ?_)
  refine attempt_bind (attempt_ensure (by simp) fun hactive ↦ ?_)
  refine attempt_bind (attempt_ensure (by simp) fun _ ↦ ?_)
  have hrows₂ := hrows₁.since hw₂.since
  have hassigned : a.status = .assigned := hshows.allocationStatus.symm.trans hactive
  refine attempt_bind (attempt_changeBookingStatus ((hw₁.trans hw₂).pending.trans hpending) hrows₂
    hshows fun w₃ b' hw₃ hheld hmoved ↦ ?_)
  have hrows₃ := hrows₂.since hw₃.since
  have hprovider : booking.providerId = a.providerId :=
    hshows.provider.trans ((hrows₃.moving hheld hmoved).episode hw₃.inv.store).2.2.provider
  rw [hshows.allocation]
  refine attempt_bind (attempt_endAllocation rfl hrows₃ hassigned fun w₄ hw₄ ↦ ?_)
  refine attempt_bind (attempt_requireSingleRow (attempt_bind (attempt_ensureText ?_)))
  refine attempt_bind (attempt_write ?_)
  have hrows₄ := hrows₃.since hw₄.since
  have hchange (member? : Option RosterMembership)
      (s : Shared Database LockKey EngagementRequest) (signals : List ConductSignal)
      (auditEvents : List AuditEvent) (hrows : LockedRows i s bookingId b a)
      (hreleased : Released (Holds i s) s.store a member?) :
      Change (Holds i s) (Drew i s) s.store (.cancel actor bookingId reasonCode)
        ((((s.store.updateBooking b').updateAllocation
          (a.cancel timestamp)).releaseMember member?).withLogs signals auditEvents
            s.store.counters) :=
    .cancel (hrows.moving hheld hmoved) ⟨rfl, rfl, rfl, rfl, rfl, rfl⟩ hreleased
  cases hroster : booking.rosterId with
  | none =>
    exact Closing.attempt_finish
      (closing_unrostered hrows₄ (hshows.roster.symm.trans hroster) rfl) (hchange none)
  | some rosterId =>
    refine attempt_bind (attempt_releaseCapacity rfl hrows₄ hassigned
      (hshows.roster.symm.trans hroster) hprovider fun w₅ member _ _ hclosing ↦ ?_)
    exact hclosing.attempt_finish (hchange (some member))

theorem serves_cancel {actor : ActorContext} {bookingId : ℕ} {reasonCode : String}
    (hpending : v.pending = id) :
    engagementDiscipline.Serves i (.cancel actor bookingId reasonCode) Failure.Unconflicted
      (cancel actor bookingId reasonCode) v :=
  serves_bind (attempt_requireActor (serves_bind (attempt_parseBody fun _ ↦
    serves_withTransaction fun _ hw ↦ attempt_cancelInTransaction (hw.pending.trans hpending))))

/-! ## Holding a slot

The triggers on a new booking find the allocation assigned and no other booking for it.
-/

theorem attempt_insertHeldBooking {held : HeldBooking} {timestamp : ℤ} (hpending : v.pending = id) :
    engagementDiscipline.Attempt i (.holdBooking held)
      (fun _ w ↦ Committable engagementDiscipline i (.holdBooking held) w)
      Failure.Unconflicted (insertHeldBooking held timestamp) v := by
  refine attempt_bind (attempt_nextval fun w₁ n hw₁ _ hn hunused ↦ ?_)
  have hp₁ : w₁.pending = id := hw₁.pending.trans hpending
  refine attempt_bind (attempt_bind (attempt_ensure trivial fun _ ↦ ?_))
  refine attempt_bind (attempt_assignedAllocation
    (fun w _ ↦ fun hw ↦ wp_ensure (fun h ↦ absurd h (by simp)) fun _ ↦ ⟨hw, trivial⟩)
    fun w₂ a hw₂ hlock ha hassigned hlinked ↦ attempt_ensure trivial fun _ ↦ ?_)
  rw [hp₁] at ha
  refine attempt_bind
    (attempt_ensure trivial fun _ ↦ attempt_bind (attempt_lock fun w₃ hw₃ _ _ ↦ ?_))
  have hp₃ : w₂.pending = id := hw₂.pending.trans hp₁
  rw [hp₃]
  refine attempt_bind (attempt_ensure trivial fun hfirst ↦ ?_)
  refine attempt_bind (attempt_ensure trivial fun _ ↦ ?_)
  refine attempt_bind
    (attempt_ensure trivial fun _ ↦ attempt_bind (attempt_write (attempt_pure ?_)))
  refine committable_of_change fun s hs _ ↦ ?_
  simp only [hw₃.pending, hp₃, Function.comp_id]
  rw [Bool.and_eq_true, decide_eq_true_eq, decide_eq_true_eq] at hlinked
  have hlater := hw₃.since.trans hs
  have ha₃ : w₃.shared.store.allocation (held.row timestamp n).allocationId = some a :=
    (congrArg Episode.allocation (hw₃.since.keep _ hlock a ha)).trans ha
  have hepisode : s.store.episode (held.row timestamp n).allocationId =
      w₃.shared.store.episode (held.row timestamp n).allocationId :=
    hs.keep _ (hw₃.since.holds _ hlock) a ha₃
  refine .holdBooking ((hw₂.since.trans hlater).drawn hn)
    ((hw₂.since.trans hlater).unused n hn hunused)
    ((congrArg Episode.allocation hepisode).trans ha₃) (hlater.holds _ hlock) hassigned
    ⟨hlinked.1.symm, hlinked.2.symm⟩ rfl fun other hother hallocation ↦ ?_
  have hmem := Database.mem_episode_bookings.mpr ⟨hother, hallocation⟩
  rw [hepisode] at hmem
  exact hfirst other (Database.mem_episode_bookings.mp hmem).1 hallocation

/-! ## Quotes

A quote is for an open matter of the provider, of a request that was routed to the paid directory.
-/

theorem quotedMatter_eq_some {db : Database} {matterId : ℕ} {found : QuotedMatter}
    (h : db.quotedMatter matterId = some found) : db.matter matterId = some found.matter ∧
      db.allocation found.matter.allocationId = some found.allocation ∧
        db.decision found.allocation.needRequestId = some found.decision := by
  simp only [Database.quotedMatter, Option.bind_eq_bind, Option.bind_eq_some_iff] at h
  obtain ⟨matter, hmatter, provider, -, a, ha, decision, hdecision, heq⟩ := h
  obtain rfl := Option.some.inj heq
  exact ⟨hmatter, ha, hdecision⟩

theorem attempt_selectQuotedMatterForUpdate {matterId : ℕ}
    {Q : Option QuotedMatter → View Database LockKey EngagementRequest → Prop}
    (hpending : v.pending = id) (hnone : ∀ w, engagementDiscipline.Onward i v w → Q none w)
    (hsome : ∀ w found, engagementDiscipline.Onward i v w →
      w.shared.store.quotedMatter matterId = some found → Q (some found) w) :
    engagementDiscipline.Attempt i r Q Failure.Unconflicted
      (selectQuotedMatterForUpdate matterId) v := by
  refine attempt_bind (attempt_snapshot fun w₁ hw₁ _ ↦ ?_)
  cases (v.pending w₁.shared.store).quotedMatter matterId with
  | none => exact attempt_pure (hnone w₁ hw₁)
  | some found =>
    refine attempt_bind
      (attempt_lock fun w₂ hw₂ _ _ ↦ attempt_bind (attempt_lock fun w₃ hw₃ _ _ ↦ ?_))
    refine attempt_bind
      (attempt_lock fun w₄ hw₄ _ _ ↦ attempt_bind (attempt_lock fun w₅ hw₅ _ _ ↦ ?_))
    have hw := (((hw₁.trans hw₂).trans hw₃).trans hw₄).trans hw₅
    have hp : w₄.pending = id :=
      (((hw₁.trans hw₂).trans hw₃).trans hw₄).pending.trans hpending
    rw [hp]
    refine attempt_pure ?_
    cases hfound : (id w₅.shared.store).quotedMatter matterId with
    | none => exact hnone w₅ hw
    | some found => exact hsome w₅ found hw hfound

theorem unconflicted_quoteFailure {e : Failure} (h : e.Unconflicted) :
    (quoteFailure e).Unconflicted := by
  unfold quoteFailure
  split
  · simp
  · simp
  · exact h

theorem attempt_createPaymentQuote {actor : ActorContext} {body : QuoteBody} {timestamp : ℤ}
    (hpending : v.pending = id) :
    engagementDiscipline.Attempt i (.quote actor body)
      (fun _ w ↦ Committable engagementDiscipline i (.quote actor body) w)
      Failure.Unconflicted (createPaymentQuote actor body timestamp) v := by
  refine attempt_bind (attempt_ensure trivial fun _ ↦ ?_)
  refine attempt_bind (attempt_selectQuotedMatterForUpdate hpending
    (fun _ _ ↦ attempt_throw trivial) fun w₁ found hw₁ hfound ↦ ?_)
  obtain ⟨hmatter, ha, hdecision⟩ := quotedMatter_eq_some hfound
  refine attempt_bind (attempt_snapshot fun w₂ hw₂ _ ↦ ?_)
  refine attempt_bind (attempt_ensure trivial fun _ ↦ ?_)
  refine attempt_bind (attempt_ensure trivial fun _ ↦ ?_)
  refine attempt_bind (attempt_ensure trivial fun hroute ↦ ?_)
  refine attempt_bind (attempt_nextval fun w₃ n hw₃ _ _ _ ↦ ?_)
  refine attempt_bind (attempt_ensure trivial fun _ ↦ attempt_bind (attempt_write ?_))
  refine attempt_bind (attempt_write (attempt_pure (committable_of_change fun s hs _ ↦ ?_)))
  have hp : w₃.pending = id := ((hw₁.trans hw₂).trans hw₃).pending.trans hpending
  simp only [hp, Function.comp_id]
  have hneed : ∃ need, w₁.shared.store.need found.allocation.needRequestId = some need := by
    obtain ⟨hmem, hid⟩ := lookupBy_mem hdecision
    exact hid ▸ hw₁.inv.store.decided found.decision hmem
  have hpaid : w₁.shared.store.PaidQuote (body.row found.matter.providerId timestamp n) :=
    ⟨found.matter, found.allocation, hmatter, rfl, ha, hneed, found.decision, hdecision, hroute⟩
  exact .quote (hpaid.continues ((hw₂.trans hw₃).since.trans hs).mono)

theorem serves_quote {actor : ActorContext} {body : QuoteBody} (hpending : v.pending = id) :
    engagementDiscipline.Serves i (.quote actor body) Failure.Unconflicted
      (quote actor body) v := by
  refine serves_bind (attempt_requireActor (serves_bind (attempt_parseBody fun _ ↦ ?_)))
  refine serves_bind (attempt_fromExcept (fun matchesTotal _ ↦ ?_) fun e he ↦ ?_)
  · refine serves_bind (attempt_ensure (by simp) fun _ ↦ ?_)
    refine serves_bind (attempt_bind (attempt_now fun w₁ hw₁ ↦ attempt_pure ?_))
    refine serves_bind (attempt_ensure (by simp) fun _ ↦ ?_)
    refine serves_withTransaction fun w₂ hw₂ ↦ ?_
    refine attempt_bind (attempt_snapshot fun w₃ hw₃ _ ↦ ?_)
    cases (w₂.pending w₃.shared.store).quotedMatter body.matterId with
    | none => exact attempt_throw (by simp)
    | some found =>
      refine attempt_bind (attempt_ensure (by simp) fun _ ↦ ?_)
      refine attempt_bind (attempt_ensure (by simp) fun _ ↦ ?_)
      refine attempt_bind (attempt_ensure (by simp) fun _ ↦ ?_)
      refine attempt_tryCatch (fun e _ he ↦ attempt_throw (unconflicted_quoteFailure he))
        (attempt_createPaymentQuote ?_)
      exact ((hw₁.trans hw₂).trans hw₃).pending.trans hpending
  · rw [quoteFeeBreakdownMatchesTotal_eq_error he]
    exact trivial

/-! ## All requests -/

theorem serves_holdBooking {held : HeldBooking} (hpending : v.pending = id) :
    engagementDiscipline.Serves i (.holdBooking held) Failure.Unconflicted (holdBooking held) v :=
  serves_withTransaction fun _ hw ↦ attempt_insertHeldBooking (hw.pending.trans hpending)

theorem serves_changeRegistry {registry : Registry} (hpending : v.pending = id) :
    engagementDiscipline.Serves i (.changeRegistry registry) Failure.Unconflicted
      (withTransaction fun _ ↦ write (Database.withRegistry registry)) v := by
  refine serves_withTransaction fun w hw ↦ attempt_write (committable_of_change fun s _ _ ↦ ?_)
  simp only [hw.pending, hpending, Function.comp_id]
  exact .changeRegistry

/-- **Every request** keeps to the discipline, fails only without having committed, and never
because the scheduling tables contradict each other. -/
theorem serves_engagement (config : AppConfig) (seededKey : String → String → String)
    (r : EngagementRequest) (hpending : v.pending = id) :
    engagementDiscipline.Serves i r Failure.Unconflicted
      (engagementProgram config seededKey r) v := by
  cases r with
  | createNeed actor body =>
    exact serves_map (serves_createNeed hpending fun w _ _ hw hp hrouted ↦
      committable_createNeed hw.inv hp hrouted)
  | referral actor needId => exact serves_map serves_referral
  | directory actor needId query => exact serves_map (serves_directory hpending)
  | select actor needId providerId => exact serves_map (serves_select hpending)
  | rotate actor needId rosterId => exact serves_map (serves_rotate hpending)
  | accept actor bookingId => exact serves_map (serves_accept hpending)
  | decline actor bookingId reasonCode => exact serves_map (serves_decline hpending)
  | cancel actor bookingId reasonCode => exact serves_map (serves_cancel hpending)
  | quote actor body => exact serves_map (serves_quote hpending)
  | holdBooking held => exact serves_map (serves_holdBooking hpending)
  | changeRegistry registry => exact serves_map (serves_changeRegistry hpending)
  | hold keys => exact serves_map (serves_holdLocks keys)

end Nayasetu
