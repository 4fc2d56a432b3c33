import Nayasetu.Engagement.Requests

/-!
# Episodes

An allocation, the booking made for it and the matter that comes of it are one episode. Whatever
happens to the three tables, an episode goes one way: it is assigned, a slot is held for it, and the
held booking is accepted, declined or cancelled, once.

`Episode.Step` is this machine and `Episode.Consistent` says in which states it can be. What the
writes to the tables do to episodes is said by one equation each.
-/

namespace Nayasetu

open Collections

/-- An allocation with the bookings and matters that name it. -/
structure Episode where
  allocation : Option Allocation
  bookings : List Booking
  matters : List Matter

/-- The episode of an allocation. -/
def Database.episode (db : Database) (id : ℕ) : Episode where
  allocation := db.allocation id
  bookings := db.bookings.filter (·.allocationId = id)
  matters := db.matters.filter (·.allocationId = id)

/-- The booking is one of this allocation's request and provider. -/
structure Booking.LinkedTo (booking : Booking) (allocation : Allocation) : Prop where
  need : booking.needRequestId = allocation.needRequestId
  provider : booking.providerId = allocation.providerId

structure Matter.OpenedFor (matter : Matter) (booking : Booking) : Prop where
  status : matter.status = .opened
  provider : matter.providerId = booking.providerId
  citizen : matter.citizenUserId = booking.citizenUserId

/-- Only the status and the time of update have changed. -/
structure Booking.MovedTo (booking booking' : Booking) (status : BookingStatus) : Prop where
  id : booking'.id = booking.id
  need : booking'.needRequestId = booking.needRequestId
  allocation : booking'.allocationId = booking.allocationId
  provider : booking'.providerId = booking.providerId
  citizen : booking'.citizenUserId = booking.citizenUserId
  status : booking'.status = status

theorem Booking.MovedTo.linkedTo {booking booking' : Booking} {status : BookingStatus}
    {allocation : Allocation} (h : booking.MovedTo booking' status)
    (hlinked : booking.LinkedTo allocation) : booking'.LinkedTo allocation :=
  ⟨h.need.trans hlinked.need, h.provider.trans hlinked.provider⟩

/-- Only the status, the end and its reason have changed. -/
structure Allocation.EndedAs (allocation allocation' : Allocation) (status : AllocationStatus) :
    Prop where
  id : allocation'.id = allocation.id
  need : allocation'.needRequestId = allocation.needRequestId
  provider : allocation'.providerId = allocation.providerId
  mode : allocation'.mode = allocation.mode
  roster : allocation'.rosterId = allocation.rosterId
  status : allocation'.status = status

theorem Allocation.EndedAs.linkedTo {allocation allocation' : Allocation}
    {status : AllocationStatus}
    {booking : Booking} (h : allocation.EndedAs allocation' status)
    (hlinked : booking.LinkedTo allocation) : booking.LinkedTo allocation' :=
  ⟨hlinked.need.trans h.need.symm, hlinked.provider.trans h.provider.symm⟩

/-- How a held booking that is not accepted ends, with its allocation. -/
inductive Outcome : BookingStatus → AllocationStatus → Prop where
  | declined : Outcome .declined .declined
  | cancelled : Outcome .cancelled .cancelled

namespace Episode

/-- One thing that happens to an episode. -/
inductive Step : Episode → Episode → Prop where
  | assign {a : Allocation} (hassigned : a.status = .assigned) :
    Step ⟨none, [], []⟩ ⟨some a, [], []⟩
  | hold {a : Allocation} {b : Booking} (hassigned : a.status = .assigned) (hlinked : b.LinkedTo a)
    (hheld : b.status = .held) : Step ⟨some a, [], []⟩ ⟨some a, [b], []⟩
  | accept {a : Allocation} {b b' : Booking} {m : Matter} (hheld : b.status = .held)
    (hmoved : b.MovedTo b' .confirmed) (hmatter : m.OpenedFor b) :
    Step ⟨some a, [b], []⟩ ⟨some a, [b'], [m]⟩
  | close {a a' : Allocation} {b b' : Booking} {status : BookingStatus} {ending : AllocationStatus}
    (houtcome : Outcome status ending) (hheld : b.status = .held) (hmoved : b.MovedTo b' status)
    (hended : a.EndedAs a' ending) : Step ⟨some a, [b], []⟩ ⟨some a', [b'], []⟩

/-- The states an episode can be in. -/
inductive Consistent : Episode → Prop where
  | absent : Consistent ⟨none, [], []⟩
  | assigned {a : Allocation} (hassigned : a.status = .assigned) : Consistent ⟨some a, [], []⟩
  | held {a : Allocation} {b : Booking} (hassigned : a.status = .assigned) (hlinked : b.LinkedTo a)
    (hheld : b.status = .held) : Consistent ⟨some a, [b], []⟩
  | confirmed {a : Allocation} {b : Booking} {m : Matter} (hassigned : a.status = .assigned)
    (hlinked : b.LinkedTo a) (hconfirmed : b.status = .confirmed) (hmatter : m.OpenedFor b) :
    Consistent ⟨some a, [b], [m]⟩
  | closed {a : Allocation} {b : Booking} {status : BookingStatus} {ending : AllocationStatus}
    (houtcome : Outcome status ending) (hended : a.status = ending) (hlinked : b.LinkedTo a)
    (hstatus : b.status = status) : Consistent ⟨some a, [b], []⟩

variable {a a' : Allocation} {b b' : Booking} {m : Matter} {e e' : Episode}

/-- A held booking stands alone with an assigned allocation. -/
theorem Consistent.of_held (h : e.Consistent) (hb : b ∈ e.bookings) (hheld : b.status = .held) :
    ∃ a, e = ⟨some a, [b], []⟩ ∧ a.status = .assigned ∧ b.LinkedTo a := by
  cases h with
  | absent => exact absurd hb List.not_mem_nil
  | assigned _ => exact absurd hb List.not_mem_nil
  | held hassigned hlinked _ =>
    obtain rfl := List.mem_singleton.mp hb
    exact ⟨_, rfl, hassigned, hlinked⟩
  | confirmed _ _ hconfirmed _ =>
    obtain rfl := List.mem_singleton.mp hb
    exact absurd (hheld.symm.trans hconfirmed) (by decide)
  | closed houtcome _ _ hstatus =>
    obtain rfl := List.mem_singleton.mp hb
    cases houtcome <;> exact absurd (hheld.symm.trans hstatus) (by decide)

/-- Without a booking there is no matter, and the allocation, if there is one, is assigned. -/
theorem Consistent.of_bookings_nil (h : e.Consistent) (hb : e.bookings = []) :
    e.matters = [] ∧ ∀ a ∈ e.allocation, a.status = .assigned := by
  cases h with
  | absent => exact ⟨rfl, by simp⟩
  | assigned hassigned => exact ⟨rfl, by simpa using hassigned⟩
  | held _ _ _ => exact absurd hb (by simp)
  | confirmed _ _ _ _ => exact absurd hb (by simp)
  | closed _ _ _ _ => exact absurd hb (by simp)

theorem Consistent.of_allocation_none (h : e.Consistent) (ha : e.allocation = none) :
    e = ⟨none, [], []⟩ := by
  cases h <;> first | rfl | exact absurd ha (by simp)

theorem Step.consistent (h : Step e e') (he : e.Consistent) : e'.Consistent := by
  cases h with
  | assign hassigned => exact .assigned hassigned
  | hold hassigned hlinked hheld => exact .held hassigned hlinked hheld
  | accept hheld hmoved hmatter =>
    obtain ⟨a, heq, hassigned, hlinked⟩ := he.of_held (List.mem_singleton_self _) hheld
    obtain rfl := Option.some.inj (Episode.mk.inj heq).1
    exact .confirmed hassigned (hmoved.linkedTo hlinked) hmoved.status
      ⟨hmatter.status, hmatter.provider.trans hmoved.provider.symm,
        hmatter.citizen.trans hmoved.citizen.symm⟩
  | close houtcome hheld hmoved hended =>
    obtain ⟨a, heq, -, hlinked⟩ := he.of_held (List.mem_singleton_self _) hheld
    obtain rfl := Option.some.inj (Episode.mk.inj heq).1
    exact .closed houtcome hended.status (hended.linkedTo (hmoved.linkedTo hlinked)) hmoved.status

end Episode

/-! ## What the writes change

A write to one of the three tables changes the episode of one allocation, and leaves the other
ones.
-/

namespace Database

variable {db : Database}

theorem mem_of_allocation {id : ℕ} {a : Allocation} (h : db.allocation id = some a) :
    a ∈ db.allocations ∧ a.id = id := lookupBy_mem h

theorem mem_of_booking {id : ℕ} {b : Booking} (h : db.booking id = some b) :
    b ∈ db.bookings ∧ b.id = id := lookupBy_mem h

theorem mem_of_matter {id : ℕ} {m : Matter} (h : db.matter id = some m) :
    m ∈ db.matters ∧ m.id = id := lookupBy_mem h

theorem mem_episode_bookings {id : ℕ} {b : Booking} :
    b ∈ (db.episode id).bookings ↔ b ∈ db.bookings ∧ b.allocationId = id := by
  simp [episode]

theorem mem_episode_matters {id : ℕ} {m : Matter} :
    m ∈ (db.episode id).matters ↔ m ∈ db.matters ∧ m.allocationId = id := by
  simp [episode]

theorem episode_insertAllocation {row : Allocation} (h : db.allocation row.id = none) (id : ℕ) :
    (db.insertAllocation row).episode id =
      if id = row.id then { db.episode id with allocation := some row } else db.episode id := by
  have hlookup : (db.insertAllocation row).allocation id =
      (db.allocation id).or (if row.id = id then some row else none) :=
    lookupBy_append_singleton id db.allocations row
  by_cases hid : id = row.id
  · subst hid
    rw [h, if_pos rfl, Option.none_or] at hlookup
    simp only [episode, hlookup, if_true]
    rfl
  · rw [if_neg (Ne.symm hid), Option.or_none] at hlookup
    simp only [episode, hlookup, if_neg hid]
    rfl

theorem episode_updateAllocation {row old : Allocation} (h : db.allocation row.id = some old)
    (id : ℕ) : (db.updateAllocation row).episode id =
      if id = row.id then { db.episode id with allocation := some row } else db.episode id := by
  have hlookup : (db.updateAllocation row).allocation id =
      if id = row.id then (db.allocation id).map fun _ ↦ row else db.allocation id :=
    lookupBy_replaceBy id row db.allocations
  by_cases hid : id = row.id
  · subst hid
    rw [h, if_pos rfl, Option.map_some] at hlookup
    simp only [episode, hlookup, if_true]
    rfl
  · rw [if_neg hid] at hlookup
    simp only [episode, hlookup, if_neg hid]
    rfl

theorem episode_insertBooking (row : Booking) (id : ℕ) : (db.insertBooking row).episode id =
    if id = row.allocationId then
      { db.episode id with bookings := (db.episode id).bookings ++ [row] }
    else db.episode id := by
  have hfilter : (db.bookings ++ [row]).filter (·.allocationId = id) =
      db.bookings.filter (·.allocationId = id) ++ if row.allocationId = id then [row] else [] := by
    rw [List.filter_append, List.filter_singleton]
    by_cases h : row.allocationId = id <;> simp [h]
  by_cases hid : id = row.allocationId
  · rw [if_pos hid.symm] at hfilter
    rw [if_pos hid, episode, insertBooking, hfilter]
    rfl
  · rw [if_neg (Ne.symm hid), List.append_nil] at hfilter
    rw [if_neg hid, episode, insertBooking, hfilter]
    rfl

theorem episode_insertMatter (row : Matter) (id : ℕ) : (db.insertMatter row).episode id =
    if id = row.allocationId then
      { db.episode id with matters := (db.episode id).matters ++ [row] }
    else db.episode id := by
  have hfilter : (db.matters ++ [row]).filter (·.allocationId = id) =
      db.matters.filter (·.allocationId = id) ++ if row.allocationId = id then [row] else [] := by
    rw [List.filter_append, List.filter_singleton]
    by_cases h : row.allocationId = id <;> simp [h]
  by_cases hid : id = row.allocationId
  · rw [if_pos hid.symm] at hfilter
    rw [if_pos hid, episode, insertMatter, hfilter]
    rfl
  · rw [if_neg (Ne.symm hid), List.append_nil] at hfilter
    rw [if_neg hid, episode, insertMatter, hfilter]
    rfl

theorem episode_updateBooking (hids : (db.bookings.map (·.id)).Nodup) {row old : Booking}
    (hold : db.booking row.id = some old) (hallocation : row.allocationId = old.allocationId)
    (id : ℕ) : (db.updateBooking row).episode id =
      if id = row.allocationId then
        { db.episode id with bookings := replaceBy (·.id) row (db.episode id).bookings }
      else db.episode id := by
  rw [episode, updateBooking, filter_group_replaceBy fun b hb hid ↦
    (column_eq_of_lookupBy hids hold (·.allocationId) b hb hid).trans hallocation.symm]
  split <;> rfl

end Database

end Nayasetu
