import Nayasetu.Engagement.Episode
import Nayasetu.Scheduling.Triggers

/-!
# The state graph of scheduling

What the triggers and the constraints alone leave possible. Every statement concerns one allocation
with what is booked under it, so the invariant is said of episodes: `Episode.Guarded` lists the
states an episode can be in when anyone may insert and update rows. It is wider than
`Episode.Consistent`, which also knows what the routes never do.
-/

namespace Nayasetu

open Collections

def Booking.Taken (booking : Booking) : Prop :=
  booking.status = .confirmed ∨ booking.status = .scheduled

/-- The booking has been declined or cancelled. -/
def Booking.Freed (booking : Booking) : Prop :=
  booking.status = .declined ∨ booking.status = .cancelled

/-- The matter names the allocation and the participants of the booking. -/
structure Matter.ComesOf (matter : Matter) (booking : Booking) : Prop where
  allocation : matter.allocationId = booking.allocationId
  provider : matter.providerId = booking.providerId
  citizen : matter.citizenUserId = booking.citizenUserId

section Rows

variable {a : Allocation} {b b' : Booking} {m m' : Matter}

theorem Booking.Taken.active (h : b.Taken) : b.status.active = true := by
  rcases h with h | h <;> rw [h] <;> rfl

theorem Booking.Taken.ne_held (h : b.Taken) : b.status ≠ .held := by
  rcases h with h | h <;> rw [h] <;> decide

theorem Booking.Freed.ne_held (h : b.Freed) : b.status ≠ .held := by
  rcases h with h | h <;> rw [h] <;> decide

theorem Booking.Taken.not_freed (h : b.Taken) : ¬ b.Freed := by
  rintro (h' | h') <;> rcases h with h | h <;> exact absurd (h.symm.trans h') (by decide)

theorem Booking.Identifies.sameReservation (h : b.Identifies a) (hsame : b.SameReservation b') :
    b'.Identifies a :=
  ⟨h.1.trans hsame.2.2.1.symm, h.2.1.trans hsame.2.1.symm, h.2.2.trans hsame.2.2.2.1.symm⟩

theorem Matter.ComesOf.sameIdentity (h : m.ComesOf b) (hsame : m.SameIdentity m') : m'.ComesOf b :=
  ⟨hsame.2.1.trans h.allocation, hsame.2.2.1.trans h.provider, hsame.2.2.2.1.trans h.citizen⟩

end Rows

/-! ## Guarded episodes

The states, and for each kind of statement the step it can make.
-/

namespace Episode

/-- The states of an episode that the triggers leave possible. -/
inductive Guarded : Episode → Prop where
  | unbooked (allocation : Option Allocation) : Guarded ⟨allocation, [], []⟩
  | held {a : Allocation} {b : Booking} (hlinked : b.Identifies a) (hheld : b.status = .held)
    (hassigned : a.status = .assigned) : Guarded ⟨some a, [b], []⟩
  | freed {a : Allocation} {b : Booking} (hlinked : b.Identifies a) (hfreed : b.Freed) :
    Guarded ⟨some a, [b], []⟩
  | taken {a : Allocation} {b : Booking} (hlinked : b.Identifies a) (htaken : b.Taken)
    (hassigned : a.status = .assigned) : Guarded ⟨some a, [b], []⟩
  | opened {a : Allocation} {b : Booking} {m : Matter} (hlinked : b.Identifies a) (htaken : b.Taken)
    (hmatter : m.ComesOf b) (hopened : m.status = .opened) (hassigned : a.status = .assigned) :
    Guarded ⟨some a, [b], [m]⟩
  | closed {a : Allocation} {b : Booking} {m : Matter} (hlinked : b.Identifies a) (htaken : b.Taken)
    (hmatter : m.ComesOf b) (hclosed : m.status = .closed)
    (hended : a.status = .assigned ∨ a.status = .completed) : Guarded ⟨some a, [b], [m]⟩

/-- What `protect_active_scheduling_allocation` lets an allocation become. -/
def Permits (e : Episode) (old new : Allocation) : Prop :=
  new.status = old.status ∨ new.status = .assigned ∨
    (new.status = .completed ∧ ∃ m ∈ e.matters, m.status = .closed) ∨
    ∀ b ∈ e.bookings, b.status.active = false

variable {a old new : Allocation} {b b' : Booking} {m m' : Matter} {e : Episode}

theorem Guarded.of_allocation_none (h : e.Guarded) (ha : e.allocation = none) :
    e = ⟨none, [], []⟩ := by
  cases h with
  | unbooked allocation => rw [show allocation = none from ha]
  | held | freed | taken | opened | closed => exact absurd ha (by simp)

theorem Guarded.of_bookings_nil (h : e.Guarded) (hb : e.bookings = []) : e.matters = [] := by
  cases h with
  | unbooked => rfl
  | held | freed | taken | opened | closed => exact absurd hb (by simp)

/-- A held booking stands alone with an assigned allocation. -/
theorem Guarded.of_held (h : e.Guarded) (hb : b ∈ e.bookings) (hheld : b.status = .held) :
    ∃ a, e = ⟨some a, [b], []⟩ ∧ b.Identifies a ∧ a.status = .assigned := by
  cases h with
  | unbooked => exact absurd hb List.not_mem_nil
  | held hlinked _ hassigned =>
    obtain rfl := List.mem_singleton.mp hb
    exact ⟨_, rfl, hlinked, hassigned⟩
  | freed _ hfreed =>
    obtain rfl := List.mem_singleton.mp hb
    exact absurd hheld hfreed.ne_held
  | taken _ htaken _ | opened _ htaken _ _ _ | closed _ htaken _ _ _ =>
    obtain rfl := List.mem_singleton.mp hb
    exact absurd hheld htaken.ne_held

/-- An accepted booking has an allocation that is assigned, or completed with a closed matter. -/
theorem Guarded.of_taken (h : e.Guarded) (hb : b ∈ e.bookings) (htaken : b.Taken) :
    ∃ a, e.allocation = some a ∧ b.Identifies a ∧ (a.status = .assigned ∨
      (a.status = .completed ∧ ∃ m ∈ e.matters, m.ComesOf b ∧ m.status = .closed)) := by
  cases h with
  | unbooked => exact absurd hb List.not_mem_nil
  | held _ hheld _ =>
    obtain rfl := List.mem_singleton.mp hb
    exact absurd hheld htaken.ne_held
  | freed _ hfreed =>
    obtain rfl := List.mem_singleton.mp hb
    exact absurd hfreed htaken.not_freed
  | taken hlinked _ hassigned | opened hlinked _ _ _ hassigned =>
    obtain rfl := List.mem_singleton.mp hb
    exact ⟨_, rfl, hlinked, .inl hassigned⟩
  | closed hlinked _ hmatter hclosed hended =>
    obtain rfl := List.mem_singleton.mp hb
    exact ⟨_, rfl, hlinked, hended.imp_right fun hcompleted ↦
      ⟨hcompleted, _, List.mem_singleton_self _, hmatter, hclosed⟩⟩

/-- A matter comes of the one booking, which has been accepted. -/
theorem Guarded.of_matter (h : e.Guarded) (hm : m ∈ e.matters) :
    ∃ a b, e = ⟨some a, [b], [m]⟩ ∧ b.Identifies a ∧ b.Taken ∧ m.ComesOf b ∧
      ((m.status = .opened ∧ a.status = .assigned) ∨
        (m.status = .closed ∧ (a.status = .assigned ∨ a.status = .completed))) := by
  cases h with
  | unbooked | held | freed | taken => exact absurd hm List.not_mem_nil
  | opened hlinked htaken hmatter hopened hassigned =>
    obtain rfl := List.mem_singleton.mp hm
    exact ⟨_, _, rfl, hlinked, htaken, hmatter, .inl ⟨hopened, hassigned⟩⟩
  | closed hlinked htaken hmatter hclosed hended =>
    obtain rfl := List.mem_singleton.mp hm
    exact ⟨_, _, rfl, hlinked, htaken, hmatter, .inr ⟨hclosed, hended⟩⟩

/-! ### Steps -/

theorem Guarded.update (h : e.Guarded) (hold : e.allocation = some old)
    (hpermits : e.Permits old new)
    (hlinked : ∀ b ∈ e.bookings, b.Identifies old → b.Identifies new) :
    { e with allocation := some new }.Guarded := by
  -- an active booking without a closed matter keeps the allocation assigned
  have hassigned (hb : ∃ b ∈ e.bookings, b.status.active = true)
      (hm : ∀ m ∈ e.matters, m.status ≠ .closed) (hstatus : old.status = .assigned) :
      new.status = .assigned := by
    rcases hpermits with hsame | hnew | ⟨-, m, hmem, hclosed⟩ | hfree
    · exact hsame.trans hstatus
    · exact hnew
    · exact absurd hclosed (hm m hmem)
    · obtain ⟨b, hmem, hactive⟩ := hb
      exact absurd (hactive.symm.trans (hfree b hmem)) (by simp)
  cases h with
  | unbooked => exact .unbooked _
  | held hid hheld hstatus =>
    obtain rfl := Option.some.inj hold
    refine .held (hlinked _ (List.mem_singleton_self _) hid) hheld (hassigned ?_ ?_ hstatus)
    · exact ⟨_, List.mem_singleton_self _, by rw [hheld]; rfl⟩
    · exact fun m hm ↦ absurd hm List.not_mem_nil
  | freed hid hfreed =>
    obtain rfl := Option.some.inj hold
    exact .freed (hlinked _ (List.mem_singleton_self _) hid) hfreed
  | taken hid htaken hstatus =>
    obtain rfl := Option.some.inj hold
    refine .taken (hlinked _ (List.mem_singleton_self _) hid) htaken (hassigned ?_ ?_ hstatus)
    · exact ⟨_, List.mem_singleton_self _, htaken.active⟩
    · exact fun m hm ↦ absurd hm List.not_mem_nil
  | opened hid htaken hmatter hopened hstatus =>
    obtain rfl := Option.some.inj hold
    refine .opened (hlinked _ (List.mem_singleton_self _) hid) htaken hmatter hopened
      (hassigned ?_ ?_ hstatus)
    · exact ⟨_, List.mem_singleton_self _, htaken.active⟩
    · intro m hm hclosed
      rw [List.mem_singleton.mp hm, hopened] at hclosed
      exact absurd hclosed (by decide)
  | closed hid htaken hmatter hclosed hended =>
    obtain rfl := Option.some.inj hold
    refine .closed (hlinked _ (List.mem_singleton_self _) hid) htaken hmatter hclosed ?_
    rcases hpermits with hsame | hnew | ⟨hcompleted, -⟩ | hfree
    · rwa [hsame]
    · exact .inl hnew
    · exact .inr hcompleted
    · exact absurd (htaken.active.symm.trans (hfree _ (List.mem_singleton_self _))) (by simp)

/-- A slot is held under an assigned allocation that has no booking yet. -/
theorem Guarded.hold (h : e.Guarded) (hnone : e.bookings = []) (ha : e.allocation = some a)
    (hlinked : b.Identifies a) (hheld : b.status = .held) (hassigned : a.status = .assigned) :
    { e with bookings := e.bookings ++ [b] }.Guarded := by
  obtain ⟨allocation, bookings, matters⟩ := e
  obtain rfl : matters = [] := h.of_bookings_nil hnone
  obtain rfl : bookings = [] := hnone
  obtain rfl : allocation = some a := ha
  exact .held hlinked hheld hassigned

/-- A held booking is accepted, declined or cancelled. -/
theorem Guarded.settle (h : e.Guarded) (hb : b ∈ e.bookings) (hheld : b.status = .held)
    (hsame : b.SameReservation b')
    (hstatus : b'.status ∈ [BookingStatus.confirmed, .declined, .cancelled]) :
    { e with bookings := replaceBy (·.id) b' e.bookings }.Guarded := by
  obtain ⟨a, rfl, hlinked, hassigned⟩ := h.of_held hb hheld
  have hreplace : replaceBy (·.id) b' [b] = [b'] := by simp [replaceBy, hsame.1]
  have hlinked' := hlinked.sameReservation hsame
  simp only [hreplace]
  rcases List.mem_cons.mp hstatus with hconfirmed | hfreed
  · exact .taken hlinked' (.inl hconfirmed) hassigned
  · exact .freed hlinked' (by simpa [Booking.Freed] using hfreed)

theorem Guarded.openMatter (h : e.Guarded) (hnone : e.matters = []) (hb : b ∈ e.bookings)
    (htaken : b.Taken) (hmatter : m.ComesOf b) (hopened : m.status = .opened)
    (hassigned : ∀ a ∈ e.allocation, a.status = .assigned) :
    { e with matters := e.matters ++ [m] }.Guarded := by
  cases h with
  | unbooked => exact absurd hb List.not_mem_nil
  | held _ hheld _ =>
    obtain rfl := List.mem_singleton.mp hb
    exact absurd hheld htaken.ne_held
  | freed _ hfreed =>
    obtain rfl := List.mem_singleton.mp hb
    exact absurd hfreed htaken.not_freed
  | taken hlinked _ _ =>
    obtain rfl := List.mem_singleton.mp hb
    exact .opened hlinked htaken hmatter hopened (hassigned _ rfl)
  | opened | closed => exact absurd hnone (by simp)

theorem Guarded.changeMatter (h : e.Guarded) (hm : m ∈ e.matters) (hsame : m.SameIdentity m')
    (hclosed : m.status = .closed → m'.status = .closed) :
    { e with matters := replaceBy (·.id) m' e.matters }.Guarded := by
  obtain ⟨a, b, rfl, hlinked, htaken, hmatter, hstatus⟩ := h.of_matter hm
  have hreplace : replaceBy (·.id) m' [m] = [m'] := by simp [replaceBy, hsame.1]
  have hmatter' := hmatter.sameIdentity hsame
  simp only [hreplace]
  rcases hstatus with ⟨-, hassigned⟩ | ⟨hold, hended⟩
  · cases hnew : m'.status with
    | opened => exact .opened hlinked htaken hmatter' hnew hassigned
    | closed => exact .closed hlinked htaken hmatter' hnew (.inl hassigned)
  · exact .closed hlinked htaken hmatter' (hclosed hold) hended

end Episode

/-! ## Guarded databases

All episodes are guarded, and identifiers are not used twice. One statement after the other keeps
it so.
-/

namespace Database

/-- What every accepted statement preserves. -/
structure Guarded (db : Database) : Prop where
  allocation_ids : (db.allocations.map (·.id)).Nodup
  booking_ids : (db.bookings.map (·.id)).Nodup
  matter_ids : (db.matters.map (·.id)).Nodup
  episodes : ∀ id, (db.episode id).Guarded

variable {db db' : Database}

theorem episode_updateMatter (hids : (db.matters.map (·.id)).Nodup) {row old : Matter}
    (hold : db.matter row.id = some old) (hallocation : row.allocationId = old.allocationId)
    (id : ℕ) : (db.updateMatter row).episode id =
      if id = row.allocationId then
        { db.episode id with matters := replaceBy (·.id) row (db.episode id).matters }
      else db.episode id := by
  rw [episode, updateMatter, filter_group_replaceBy fun m hm hid ↦
    (column_eq_of_lookupBy hids hold (·.allocationId) m hm hid).trans hallocation.symm]
  split <;> rfl

/-! ### The triggers -/

theorem enforceBookingLifecycle_insert {new : Booking} :
    db.enforceBookingLifecycle none new = .ok () ↔
      new.status = .held ∧ db.BookedAssigned new := by
  simp only [enforceBookingLifecycle, unit_bind_eq_ok_iff, require_eq_ok_iff]

theorem enforceBookingLifecycle_update {old new : Booking} :
    db.enforceBookingLifecycle (some old) new = .ok () ↔
      old.SameReservation new ∧ old.updatedAt ≤ new.updatedAt ∧
      (old.status = .held ∧ new.status ∈ [BookingStatus.confirmed, .declined, .cancelled]) ∧
      db.BookedAssigned old := by
  simp only [enforceBookingLifecycle, unit_bind_eq_ok_iff, require_eq_ok_iff]

theorem of_enforceMatterLifecycle_insert {new : Matter}
    (h : db.enforceMatterLifecycle none new = .ok ()) :
    new.status = .opened ∧ (∃ b ∈ db.bookings, new.ComesOf b ∧ b.Taken) ∧
      ∃ a ∈ db.allocations, a.id = new.allocationId ∧ a.status = .assigned := by
  rw [enforceMatterLifecycle, unit_bind_eq_ok_iff, require_eq_ok_iff] at h
  obtain ⟨hopened, h⟩ := h
  cases hb : db.participantsBooking new.allocationId new.providerId new.citizenUserId with
  | none =>
    rw [hb] at h
    cases h
  | some b =>
    simp only [hb, unit_bind_eq_ok_iff, require_eq_ok_iff] at h
    obtain ⟨htaken, a, ha, hid, -, hassigned⟩ := h
    have hparties := List.find?_some hb
    simp only [Bool.and_eq_true, decide_eq_true_eq] at hparties
    obtain ⟨⟨hallocation, hprovider⟩, hcitizen⟩ := hparties
    exact ⟨hopened, ⟨b, List.mem_of_find?_eq_some hb,
      ⟨hallocation.symm, hprovider.symm, hcitizen.symm⟩, htaken⟩, a, ha, hid, hassigned⟩

theorem enforceMatterLifecycle_update {old new : Matter} :
    db.enforceMatterLifecycle (some old) new = .ok () ↔
      old.SameIdentity new ∧ (old.status = .closed → new.status = .closed) := by
  simp only [enforceMatterLifecycle, unit_bind_eq_ok_iff, require_eq_ok_iff]

/-- The guard of an allocation looks at its episode only. -/
theorem permits_of_protect {old new : Allocation}
    (h : db.protectActiveSchedulingAllocation old new = .ok ()) :
    (db.episode old.id).Permits old new := by
  rw [protectActiveSchedulingAllocation] at h
  split at h
  next hsame => exact hsame.imp_right .inl
  next =>
    split at h
    next hcompleted =>
      obtain ⟨-, hnew, b, -, hb, -, m, hm, hallocation, -, -, hclosed⟩ := hcompleted
      have hmem : m ∈ (db.episode old.id).matters :=
        mem_episode_matters.mpr ⟨hm, hallocation.trans hb⟩
      exact .inr (.inr (.inl ⟨hnew, m, hmem, hclosed⟩))
    next =>
      simp only [unit_bind_eq_ok_iff, require_eq_ok_iff] at h
      refine .inr (.inr (.inr fun b hb ↦ Bool.eq_false_iff.mpr fun hactive ↦ h.1 ?_))
      obtain ⟨hmem, hid⟩ := mem_episode_bookings.mp hb
      exact ⟨b, hmem, hid, hactive⟩

/-! ### One statement -/

namespace Guarded

theorem episode_of_assigned (hdb : db.Guarded) {b : Booking} (h : db.BookedAssigned b) :
    ∃ a, (db.episode b.allocationId).allocation = some a ∧ b.Identifies a ∧
    a.status = .assigned := by
  obtain ⟨a, ha, hlinked, hassigned⟩ := h
  exact ⟨a, (lookupBy_eq_some_iff hdb.allocation_ids).mpr ⟨ha, hlinked.1⟩, hlinked, hassigned⟩

theorem insertAllocation (hdb : db.Guarded) {row : Allocation}
    (hfree : ∀ other ∈ db.allocations, other.id ≠ row.id) : (db.insertAllocation row).Guarded where
  allocation_ids := nodup_map_append hdb.allocation_ids hfree
  booking_ids := hdb.booking_ids
  matter_ids := hdb.matter_ids
  episodes id := by
    have hnone : db.allocation row.id = none := lookupBy_eq_none_iff.mpr hfree
    rw [episode_insertAllocation hnone]
    split
    next hid =>
      subst hid
      rw [(hdb.episodes row.id).of_allocation_none hnone]
      exact .unbooked _
    next => exact hdb.episodes id

theorem updateAllocation (hdb : db.Guarded) {row old : Allocation}
    (hold : db.allocation row.id = some old) (hpermits : (db.episode row.id).Permits old row)
    (hlinked : ∀ b ∈ db.bookings, b.Identifies old → b.Identifies row) :
    (db.updateAllocation row).Guarded where
  allocation_ids := nodup_map_replaceBy hdb.allocation_ids row
  booking_ids := hdb.booking_ids
  matter_ids := hdb.matter_ids
  episodes id := by
    rw [episode_updateAllocation hold]
    split
    next hid =>
      subst hid
      exact (hdb.episodes row.id).update hold hpermits fun b hb ↦
        hlinked b (mem_episode_bookings.mp hb).1
    next => exact hdb.episodes id

/-- An allocation that takes a new identifier: nothing is booked under the old one, or the foreign
keys would have refused, and nothing under the new one. -/
theorem moveAllocation (hdb : db.Guarded) {row : Allocation} {id : ℕ}
    (hfree : ∀ other ∈ db.allocations, other.id ≠ id → other.id ≠ row.id) (hid : row.id ≠ id)
    (hbookings : ∀ b ∈ db.bookings, b.allocationId ≠ id)
    (hmatters : ∀ m ∈ db.matters, m.allocationId ≠ id) : (db.replaceAllocation id row).Guarded where
  allocation_ids := nodup_map_replaceAt hdb.allocation_ids hfree
  booking_ids := hdb.booking_ids
  matter_ids := hdb.matter_ids
  episodes k := by
    have hnone : db.allocation row.id = none := lookupBy_eq_none_iff.mpr fun a ha ↦ by
      by_cases h : a.id = id
      · rw [h]
        exact hid.symm
      · exact hfree a ha h
    have hunbooked (hk : (db.episode k).bookings = [] ∧ (db.episode k).matters = []) :
        ((db.replaceAllocation id row).episode k).Guarded := by
      obtain ⟨hb, hm⟩ := hk
      have heq : (db.replaceAllocation id row).episode k =
          ⟨(db.replaceAllocation id row).allocation k, [], []⟩ := by
        rw [← hb, ← hm]
        rfl
      rw [heq]
      exact .unbooked _
    by_cases hk : k = id
    · subst hk
      refine hunbooked ⟨?_, ?_⟩
      · exact List.eq_nil_iff_forall_not_mem.mpr fun b hb ↦
          hbookings b (mem_episode_bookings.mp hb).1 (mem_episode_bookings.mp hb).2
      · exact List.eq_nil_iff_forall_not_mem.mpr fun m hm ↦
          hmatters m (mem_episode_matters.mp hm).1 (mem_episode_matters.mp hm).2
    by_cases hnew : k = row.id
    · subst hnew
      refine hunbooked ?_
      rw [(hdb.episodes row.id).of_allocation_none hnone]
      exact ⟨rfl, rfl⟩
    · have heq : (db.replaceAllocation id row).episode k = db.episode k := by
        have hlookup : (db.replaceAllocation id row).allocation k = db.allocation k :=
          lookupBy_replaceAt_of_ne hk hnew db.allocations
        rw [episode, hlookup]
        rfl
      rw [heq]
      exact hdb.episodes k

theorem insertBooking (hdb : db.Guarded) {row : Booking} (hheld : row.status = .held)
    (hassigned : db.BookedAssigned row) (hfree : ∀ other ∈ db.bookings, other.id ≠ row.id)
    (hunique : ∀ other ∈ db.bookings, other.allocationId ≠ row.allocationId) :
    (db.insertBooking row).Guarded where
  allocation_ids := hdb.allocation_ids
  booking_ids := nodup_map_append hdb.booking_ids hfree
  matter_ids := hdb.matter_ids
  episodes id := by
    rw [episode_insertBooking]
    split
    next hid =>
      subst hid
      obtain ⟨a, ha, hlinked, hstatus⟩ := hdb.episode_of_assigned hassigned
      have hnone : (db.episode row.allocationId).bookings = [] :=
        List.eq_nil_iff_forall_not_mem.mpr fun b hb ↦
          hunique b (mem_episode_bookings.mp hb).1 (mem_episode_bookings.mp hb).2
      exact (hdb.episodes row.allocationId).hold hnone ha hlinked hheld hstatus
    next => exact hdb.episodes id

theorem updateBooking (hdb : db.Guarded) {row old : Booking} (hold : db.booking row.id = some old)
    (hsame : old.SameReservation row) (hheld : old.status = .held)
    (hstatus : row.status ∈ [BookingStatus.confirmed, .declined, .cancelled]) :
    (db.updateBooking row).Guarded where
  allocation_ids := hdb.allocation_ids
  booking_ids := nodup_map_replaceBy hdb.booking_ids row
  matter_ids := hdb.matter_ids
  episodes id := by
    rw [episode_updateBooking hdb.booking_ids hold hsame.2.2.1]
    split
    next hid =>
      subst hid
      have hmem : old ∈ (db.episode row.allocationId).bookings :=
        mem_episode_bookings.mpr ⟨(mem_of_booking hold).1, hsame.2.2.1.symm⟩
      exact (hdb.episodes row.allocationId).settle hmem hheld hsame hstatus
    next => exact hdb.episodes id

theorem insertMatter (hdb : db.Guarded) {row : Matter} (hopened : row.status = .opened)
    (hbooked : ∃ b ∈ db.bookings, row.ComesOf b ∧ b.Taken)
    (hassigned : ∃ a ∈ db.allocations, a.id = row.allocationId ∧ a.status = .assigned)
    (hfree : ∀ other ∈ db.matters, other.id ≠ row.id)
    (hunique : ∀ other ∈ db.matters, other.allocationId ≠ row.allocationId) :
    (db.insertMatter row).Guarded where
  allocation_ids := hdb.allocation_ids
  booking_ids := hdb.booking_ids
  matter_ids := nodup_map_append hdb.matter_ids hfree
  episodes id := by
    rw [episode_insertMatter]
    split
    next hid =>
      subst hid
      obtain ⟨b, hb, hmatter, htaken⟩ := hbooked
      obtain ⟨a, ha, haid, hstatus⟩ := hassigned
      have hlookup : db.allocation row.allocationId = some a :=
        (lookupBy_eq_some_iff hdb.allocation_ids).mpr ⟨ha, haid⟩
      have hnone : (db.episode row.allocationId).matters = [] :=
        List.eq_nil_iff_forall_not_mem.mpr fun m hm ↦
          hunique m (mem_episode_matters.mp hm).1 (mem_episode_matters.mp hm).2
      refine (hdb.episodes row.allocationId).openMatter hnone
        (mem_episode_bookings.mpr ⟨hb, hmatter.allocation.symm⟩) htaken hmatter hopened ?_
      intro a' ha'
      obtain rfl := Option.some.inj (hlookup.symm.trans ha')
      exact hstatus
    next => exact hdb.episodes id

theorem updateMatter (hdb : db.Guarded) {row old : Matter} (hold : db.matter row.id = some old)
    (hsame : old.SameIdentity row) (hclosed : old.status = .closed → row.status = .closed) :
    (db.updateMatter row).Guarded where
  allocation_ids := hdb.allocation_ids
  booking_ids := hdb.booking_ids
  matter_ids := nodup_map_replaceBy hdb.matter_ids row
  episodes id := by
    rw [episode_updateMatter hdb.matter_ids hold hsame.2.1]
    split
    next hid =>
      subst hid
      have hmem : old ∈ (db.episode row.allocationId).matters :=
        mem_episode_matters.mpr ⟨(mem_of_matter hold).1, hsame.2.1.symm⟩
      exact (hdb.episodes row.allocationId).changeMatter hmem hsame hclosed
    next => exact hdb.episodes id

end Guarded

/-! ### What the constraints leave -/

theorem of_checkAllocation {others : List Allocation} {row : Allocation}
    (h : db.checkAllocation others row = .ok ()) : ∀ other ∈ others, other.id ≠ row.id := by
  simp only [checkAllocation, unit_bind_eq_ok_iff, require_eq_ok_iff] at h
  exact h.2.1

theorem of_checkBooking {others : List Booking} {row : Booking}
    (h : db.checkBooking others row = .ok ()) : (∀ other ∈ others, other.id ≠ row.id) ∧
      ∀ other ∈ others, other.allocationId ≠ row.allocationId := by
  simp only [checkBooking, unit_bind_eq_ok_iff, require_eq_ok_iff] at h
  exact ⟨h.2.1, h.2.2.1⟩

theorem of_checkMatter {others : List Matter} {row : Matter}
    (h : checkMatter others row = .ok ()) : (∀ other ∈ others, other.id ≠ row.id) ∧
      ∀ other ∈ others, other.allocationId ≠ row.allocationId := by
  simp only [checkMatter, unit_bind_eq_ok_iff, require_eq_ok_iff] at h
  exact h.2

theorem checkReferences_eq_ok_iff {old new : Allocation} : db.checkReferences old new = .ok () ↔
    (∀ b ∈ db.bookings, b.allocationId = old.id → b.allocationId = new.id) ∧
    (∀ b ∈ db.bookings, b.Identifies old → b.Identifies new) ∧
    ∀ m ∈ db.matters, m.allocationId = old.id → m.allocationId = new.id := by
  simp only [checkReferences, unit_bind_eq_ok_iff, require_eq_ok_iff]

/-- An accepted update of an allocation, whether or not it moves to another identifier. -/
theorem Guarded.replaceAllocation (hdb : db.Guarded) {row old : Allocation} {id : ℕ}
    (hold : db.allocation id = some old)
    (hprotect : db.protectActiveSchedulingAllocation old row = .ok ())
    (hcheck : db.checkAllocation (db.allocations.filter (·.id ≠ id)) row = .ok ())
    (hrefs : db.checkReferences old row = .ok ()) : (db.replaceAllocation id row).Guarded := by
  obtain ⟨hbookings, hlinked, hmatters⟩ := checkReferences_eq_ok_iff.mp hrefs
  obtain rfl := (mem_of_allocation hold).2
  by_cases hid : row.id = old.id
  · have heq : db.replaceAllocation old.id row = db.updateAllocation row := by
      rw [Database.replaceAllocation, ← hid, replaceAt_key]
      rfl
    rw [heq]
    refine hdb.updateAllocation (hid ▸ hold) ?_ hlinked
    rw [hid]
    exact permits_of_protect hprotect
  · refine hdb.moveAllocation (fun other ho hne ↦ ?_) hid (fun b hb h ↦ ?_) fun m hm h ↦ ?_
    · exact of_checkAllocation hcheck other (List.mem_filter.mpr ⟨ho, decide_eq_true hne⟩)
    · exact hid ((hbookings b hb h).symm.trans h)
    · exact hid ((hmatters m hm h).symm.trans h)

/-! ### Runs -/

/-- A closed matter stays closed, and a declined or cancelled booking stays as it is. -/
structure KeepsEnded (db db' : Database) : Prop where
  matters : Extends (·.id) (fun m m' : Matter ↦ m.status = .closed → m'.status = .closed)
    db.matters db'.matters
  bookings : Extends (·.id) (fun b b' : Booking ↦ b.Freed → b' = b) db.bookings db'.bookings

theorem KeepsEnded.refl (db : Database) : db.KeepsEnded db :=
  ⟨.refl (fun _ h ↦ h) _, .refl (fun _ _ ↦ rfl) _⟩

theorem KeepsEnded.trans {db₁ db₂ db₃ : Database} (h₁ : db₁.KeepsEnded db₂)
    (h₂ : db₂.KeepsEnded db₃) : db₁.KeepsEnded db₃ where
  matters := h₁.matters.trans (fun _ _ _ h h' hclosed ↦ h' (h hclosed)) h₂.matters
  bookings := by
    refine h₁.bookings.trans (fun b b' b'' h h' hfreed ↦ ?_) h₂.bookings
    obtain rfl := h hfreed
    exact h' hfreed

/-- What one accepted statement preserves. -/
theorem Guarded.accept (hdb : db.Guarded) {statement : Statement}
    (h : db.accept statement = .ok db') : db'.Guarded ∧ db.KeepsEnded db' := by
  cases statement with
  | insertAllocation row =>
    rw [Database.accept, unit_bind_eq_ok_iff] at h
    obtain ⟨hcheck, h⟩ := h
    obtain rfl := Except.ok.inj h
    exact ⟨hdb.insertAllocation (of_checkAllocation hcheck), .refl (fun _ h ↦ h) _,
      .refl (fun _ _ ↦ rfl) _⟩
  | updateAllocation id row =>
    cases hold : db.allocation id with
    | none =>
      rw [Database.accept, hold] at h
      obtain rfl := Except.ok.inj h
      exact ⟨hdb, .refl db⟩
    | some old =>
      simp only [Database.accept, hold, unit_bind_eq_ok_iff] at h
      obtain ⟨hprotect, hcheck, hrefs, h⟩ := h
      obtain rfl := Except.ok.inj h
      exact ⟨hdb.replaceAllocation hold hprotect hcheck hrefs, .refl (fun _ h ↦ h) _,
        .refl (fun _ _ ↦ rfl) _⟩
  | insertBooking row =>
    simp only [Database.accept, unit_bind_eq_ok_iff] at h
    obtain ⟨htrigger, hcheck, h⟩ := h
    obtain rfl := Except.ok.inj h
    obtain ⟨hheld, hassigned⟩ := enforceBookingLifecycle_insert.mp htrigger
    obtain ⟨hfree, hunique⟩ := of_checkBooking hcheck
    exact ⟨hdb.insertBooking hheld hassigned hfree hunique, .refl (fun _ h ↦ h) _,
      .append (fun _ _ ↦ rfl) _ _⟩
  | updateBooking id row =>
    cases hold : db.booking id with
    | none =>
      rw [Database.accept, hold] at h
      obtain rfl := Except.ok.inj h
      exact ⟨hdb, .refl db⟩
    | some old =>
      simp only [Database.accept, hold, unit_bind_eq_ok_iff] at h
      obtain ⟨htrigger, -, h⟩ := h
      obtain rfl := Except.ok.inj h
      -- the trigger lets only a held booking change its state
      obtain ⟨hsame, -, ⟨hheld, hstatus⟩, -⟩ := enforceBookingLifecycle_update.mp htrigger
      have hrow : db.booking row.id = some old := by
        rw [hsame.1, (mem_of_booking hold).2]
        exact hold
      refine ⟨hdb.updateBooking hrow hsame hheld hstatus, .refl (fun _ h ↦ h) _,
        .replaceBy (fun _ _ ↦ rfl) fun b hb hfreed ↦ ?_⟩
      -- the booking that moves was held
      obtain rfl := Option.some.inj (hrow.symm.trans hb)
      exact absurd hheld hfreed.ne_held
  | insertMatter row =>
    simp only [Database.accept, unit_bind_eq_ok_iff] at h
    obtain ⟨htrigger, hcheck, h⟩ := h
    obtain rfl := Except.ok.inj h
    obtain ⟨hopened, hbooked, hassigned⟩ := of_enforceMatterLifecycle_insert htrigger
    obtain ⟨hfree, hunique⟩ := of_checkMatter hcheck
    exact ⟨hdb.insertMatter hopened hbooked hassigned hfree hunique, .append (fun _ h ↦ h) _ _,
      .refl (fun _ _ ↦ rfl) _⟩
  | updateMatter id row =>
    cases hold : db.matter id with
    | none =>
      rw [Database.accept, hold] at h
      obtain rfl := Except.ok.inj h
      exact ⟨hdb, .refl db⟩
    | some old =>
      simp only [Database.accept, hold, unit_bind_eq_ok_iff] at h
      obtain ⟨htrigger, -, h⟩ := h
      obtain rfl := Except.ok.inj h
      obtain ⟨hsame, hclosed⟩ := enforceMatterLifecycle_update.mp htrigger
      have hrow : db.matter row.id = some old := by
        rw [hsame.1, (mem_of_matter hold).2]
        exact hold
      refine ⟨hdb.updateMatter hrow hsame hclosed, .replaceBy (fun _ h ↦ h) fun m hm ↦ ?_,
        .refl (fun _ _ ↦ rfl) _⟩
      obtain rfl := Option.some.inj (hrow.symm.trans hm)
      exact hclosed

theorem acceptAll_cons {statement : Statement} {statements : List Statement} :
    db.acceptAll (statement :: statements) = .ok db' ↔
      ∃ mid, db.accept statement = .ok mid ∧ mid.acceptAll statements = .ok db' := by
  rw [acceptAll, List.foldlM_cons, bind_eq_ok_iff]
  rfl

theorem Guarded.acceptAll (hdb : db.Guarded) {statements : List Statement}
    (h : db.acceptAll statements = .ok db') : db'.Guarded ∧ db.KeepsEnded db' := by
  induction statements generalizing db with
  | nil =>
    obtain rfl := Except.ok.inj h
    exact ⟨hdb, .refl db⟩
  | cons statement statements ih =>
    obtain ⟨mid, hstep, hrest⟩ := acceptAll_cons.mp h
    obtain ⟨hmid, hkeeps⟩ := hdb.accept hstep
    obtain ⟨hdb', hkeeps'⟩ := ih hmid hrest
    exact ⟨hdb', hkeeps.trans hkeeps'⟩

/-- Before anything is booked, only the keys of the allocations matter. -/
theorem guarded_of_unbooked (hids : (db.allocations.map (·.id)).Nodup)
    (hbookings : db.bookings = [])
    (hmatters : db.matters = []) : db.Guarded where
  allocation_ids := hids
  booking_ids := by simp [hbookings]
  matter_ids := by simp [hmatters]
  episodes id := by
    rw [episode, hbookings, hmatters]
    exact .unbooked _

end Database

/-! ## The state graph

What is claimed of the tables, in their own terms, follows from the states of the episodes.
-/

/-- The allocations, bookings and matters are in states that go together. -/
structure StateGraph (db : Database) : Prop where
  held : ∀ b ∈ db.bookings, b.status = .held →
    ∃ a, db.allocation b.allocationId = some a ∧ a.status = .assigned
  taken : ∀ b ∈ db.bookings, b.Taken →
    ∃ a, db.allocation b.allocationId = some a ∧ (a.status = .assigned ∨
      (a.status = .completed ∧ ∃ m ∈ db.matters, m.ComesOf b ∧ m.status = .closed))
  opened : ∀ m ∈ db.matters, m.status = .opened →
    (∃ b ∈ db.bookings, m.ComesOf b ∧ b.Taken) ∧
      ∃ a, db.allocation m.allocationId = some a ∧ a.status = .assigned
  closed : ∀ m ∈ db.matters, m.status = .closed →
    (∃ b ∈ db.bookings, m.ComesOf b ∧ b.Taken) ∧
      ∃ a, db.allocation m.allocationId = some a ∧ (a.status = .assigned ∨ a.status = .completed)

open Database

variable {db : Database}

/-- A matter comes of an accepted booking, and its allocation has not been given up. -/
theorem Database.Guarded.matter (h : db.Guarded) {m : Matter} (hm : m ∈ db.matters) :
    (∃ b ∈ db.bookings, m.ComesOf b ∧ b.Taken) ∧ ∃ a, db.allocation m.allocationId = some a ∧
      ((m.status = .opened ∧ a.status = .assigned) ∨
        (m.status = .closed ∧ (a.status = .assigned ∨ a.status = .completed))) := by
  obtain ⟨a, b, he, -, htaken, hmatter, hstatus⟩ :=
    (h.episodes m.allocationId).of_matter (mem_episode_matters.mpr ⟨hm, rfl⟩)
  have hb : b ∈ (db.episode m.allocationId).bookings := by
    rw [he]
    exact List.mem_singleton_self b
  exact ⟨⟨b, (mem_episode_bookings.mp hb).1, hmatter, htaken⟩, a,
    congrArg Episode.allocation he, hstatus⟩

theorem Database.Guarded.stateGraph (h : db.Guarded) : StateGraph db where
  held b hb hheld := by
    obtain ⟨a, he, -, hassigned⟩ :=
      (h.episodes b.allocationId).of_held (mem_episode_bookings.mpr ⟨hb, rfl⟩) hheld
    exact ⟨a, congrArg Episode.allocation he, hassigned⟩
  taken b hb htaken := by
    obtain ⟨a, ha, -, hstatus⟩ :=
      (h.episodes b.allocationId).of_taken (mem_episode_bookings.mpr ⟨hb, rfl⟩) htaken
    refine ⟨a, ha, hstatus.imp_right fun ⟨hcompleted, m, hm, hclosed⟩ ↦
      ⟨hcompleted, m, ?_, hclosed⟩⟩
    exact (mem_episode_matters.mp hm).1
  opened m hm hopened := by
    obtain ⟨hbooked, a, ha, ⟨-, hassigned⟩ | ⟨hclosed, -⟩⟩ := h.matter hm
    · exact ⟨hbooked, a, ha, hassigned⟩
    · exact absurd (hopened.symm.trans hclosed) (by decide)
  closed m hm hclosed := by
    obtain ⟨hbooked, a, ha, ⟨hopened, -⟩ | ⟨-, hended⟩⟩ := h.matter hm
    · exact absurd (hopened.symm.trans hclosed) (by decide)
    · exact ⟨hbooked, a, ha, hended⟩

/-- However rows are inserted and updated, from tables without bookings and matters on, the
triggers keep the state graph; what has ended stays ended. -/
theorem triggers_keep_stateGraph {db₀ db db' : Database} {past future : List Statement}
    (hids : (db₀.allocations.map (·.id)).Nodup) (hbookings : db₀.bookings = [])
    (hmatters : db₀.matters = []) (hpast : db₀.acceptAll past = .ok db)
    (hfuture : db.acceptAll future = .ok db') : StateGraph db ∧
      (∀ id m, db.matter id = some m → m.status = .closed →
        ∃ m', db'.matter id = some m' ∧ m'.status = .closed) ∧
      ∀ id b, db.booking id = some b → b.Freed → db'.booking id = some b := by
  obtain ⟨hdb, -⟩ := (guarded_of_unbooked hids hbookings hmatters).acceptAll hpast
  obtain ⟨-, hkeeps⟩ := hdb.acceptAll hfuture
  refine ⟨hdb.stateGraph, fun id m hm hclosed ↦ ?_, fun id b hb hfreed ↦ ?_⟩
  · obtain ⟨m', hm', hstays⟩ := hkeeps.matters id m hm
    exact ⟨m', hm', hstays hclosed⟩
  · obtain ⟨b', hb', hstays⟩ := hkeeps.bookings id b hb
    rw [hstays hfreed] at hb'
    exact hb'

/-! ### A run

One booking is accepted, its matter closed and its allocation completed, and the allocation is
assigned again; another booking is declined. -/

def twoRequests : Database where
  providers := [{
    id := 1, userId := 2, providerType := "ADVOCATE", displayName := "A", district := "D"
    languages := [], serviceModes := [], status := "ACTIVE", tier := .selfDeclared
    tierDecidedAt := none, tierExpiresAt := none }]
  needs := [10, 20].map fun id ↦ {
    id := id, citizenUserId := 3, operatorDelegationId := none, taxonomyCode := "T"
    district := "D", language := "L", modePref := "M", feeCeiling := none, urgency := "U"
    channel := "C", createdAt := 0, directoryProviderType := none, directoryMinimumTier := none
    directoryGeneratedAt := none }

def requestAllocation (needId : ℕ) (status : AllocationStatus) : Allocation where
  id := needId + 1
  needRequestId := needId
  providerId := 1
  mode := .citizenChoice
  rosterId := none
  seed := some "S"
  position := some 1
  decidedAt := 0
  decidedBy := 3
  status := status
  endedAt := none
  declineReason := none

def requestBooking (needId : ℕ) (status : BookingStatus) : Booking where
  id := needId + 2
  needRequestId := needId
  allocationId := needId + 1
  providerId := 1
  citizenUserId := 3
  slot := (needId, needId + 1)
  status := status
  createdAt := 0
  updatedAt := 0

def requestMatter (status : MatterStatus) (closedAt : Option ℤ) (closeReason : Option String) :
    Matter where
  id := 13
  allocationId := 11
  providerId := 1
  citizenUserId := 3
  status := status
  openedAt := 0
  closedAt := closedAt
  closeReason := closeReason

/-- The first booking is accepted and its matter closed, the second is declined. -/
def closingStatements : List Statement := [
  .insertAllocation (requestAllocation 10 .assigned), .insertBooking (requestBooking 10 .held),
  .insertAllocation (requestAllocation 20 .assigned), .insertBooking (requestBooking 20 .held),
  .updateBooking 12 (requestBooking 10 .confirmed), .updateBooking 22 (requestBooking 20 .declined),
  .updateAllocation 21 (requestAllocation 20 .declined),
  .insertMatter (requestMatter .opened none none),
  .updateMatter 13 (requestMatter .closed (some 1) (some "DONE"))]

/-- The allocation of the first booking is completed, and assigned again. -/
def reassigningStatements : List Statement := [
  .updateAllocation 11 (requestAllocation 10 .completed),
  .updateAllocation 11 (requestAllocation 10 .assigned)]

theorem triggers_keep_stateGraph_closing : ∃ db db',
    twoRequests.acceptAll closingStatements = .ok db ∧
    db.acceptAll reassigningStatements = .ok db' ∧ StateGraph db ∧
      (∀ id m, db.matter id = some m → m.status = .closed →
        ∃ m', db'.matter id = some m' ∧ m'.status = .closed) ∧
      ∀ id b, db.booking id = some b → b.Freed → db'.booking id = some b :=
  have hids : (twoRequests.allocations.map (·.id)).Nodup := by decide
  ⟨_, _, rfl, rfl, triggers_keep_stateGraph hids rfl rfl
    (rfl : twoRequests.acceptAll closingStatements = .ok _)
    (rfl : Database.acceptAll _ reassigningStatements = .ok _)⟩

end Nayasetu
