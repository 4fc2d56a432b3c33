import Nayasetu.Engagement.Invariant

/-!
# What changes preserve

For each change: what it takes nothing back from, which episode it moves, that the tables stay
coherent, that the locks of other sessions are respected and that numbers stay free.
-/

namespace Nayasetu

open RowLock Collections

variable {held : LockKey → Prop} {drawn : ℕ → Prop} {db db' : Database} {r : EngagementRequest}

/-! ## Rows under lock

What is locked is found where it was, so replacing it changes the episode it belongs to and no
other.
-/

section Rows

variable {bookingId : ℕ} {a a' : Allocation} {b b' : Booking} {status : BookingStatus}

theorem Moving.id_eq (h : Moving held db bookingId a b b' status) : b'.id = bookingId :=
  h.moved.id.trans (Database.mem_of_booking h.booking).2

theorem Moving.lookup (h : Moving held db bookingId a b b' status) : db.booking b'.id = some b :=
  h.id_eq ▸ h.booking

/-- The episode of a held booking. -/
theorem Moving.episode (h : Moving held db bookingId a b b' status) (hdb : Coherent db) :
    db.episode b.allocationId = ⟨some a, [b], []⟩ ∧ a.status = .assigned ∧ b.LinkedTo a := by
  have hmem : b ∈ (db.episode b.allocationId).bookings :=
    Database.mem_episode_bookings.mpr ⟨(Database.mem_of_booking h.booking).1, rfl⟩
  obtain ⟨a₀, heq, hassigned, hlinked⟩ := (hdb.episodes _).of_held hmem h.isHeld
  have ha : some a = some a₀ := h.allocation.symm.trans (congrArg Episode.allocation heq)
  obtain rfl := Option.some.inj ha
  exact ⟨heq, hassigned, hlinked⟩

theorem Moving.allocation_id (h : Moving held db bookingId a b b' status) : a.id = b.allocationId :=
  (Database.mem_of_allocation h.allocation).2

theorem Moving.episode_updateBooking (h : Moving held db bookingId a b b' status)
    (hdb : Coherent db) (id : ℕ) : (db.updateBooking b').episode id =
      if id = b.allocationId then ⟨some a, [b'], []⟩ else db.episode id := by
  rw [Database.episode_updateBooking hdb.booking_ids h.lookup h.moved.allocation,
    h.moved.allocation]
  by_cases hid : id = b.allocationId
  · subst hid
    rw [if_pos rfl, if_pos rfl, (h.episode hdb).1, replaceBy, List.map_singleton,
      if_pos h.moved.id.symm]
  · rw [if_neg hid, if_neg hid]

theorem Allocation.EndedAs.becomes {ending : AllocationStatus} (h : a.EndedAs a' ending)
    (ha : a.status = .assigned) : a.Becomes a' :=
  ⟨h.need, h.provider, h.mode, h.roster, fun hne ↦ absurd ha hne⟩

theorem Moving.becomes (h : Moving held db bookingId a b b' status) : b.Becomes b' :=
  ⟨h.moved.allocation, fun hne ↦ absurd h.isHeld hne⟩

theorem Moving.extends (h : Moving held db bookingId a b b' status) :
    Extends (·.id) Booking.Becomes db.bookings (replaceBy (·.id) b' db.bookings) :=
  .replaceBy Booking.Becomes.refl fun b₀ hb₀ ↦ by
    obtain rfl := Option.some.inj (hb₀.symm.trans h.lookup)
    exact h.becomes

theorem NewAllocation.lookup {row : Allocation} (h : NewAllocation held drawn db row) :
    db.allocation row.id = none := lookupBy_eq_none_iff.mpr h.free.allocation

end Rows

/-! ## Nothing is taken back

Requests, allocations and bookings only move on, and paid requests stay paid.
-/

theorem continues_releaseMember (member? : Option RosterMembership)
    (h : ∀ member ∈ member?, db.membership member.key = some member) :
    Extends (·.key) RosterMembership.Becomes db.memberships
      (db.releaseMember member?).memberships := by
  cases member? with
  | none => exact .refl RosterMembership.Becomes.refl _
  | some member =>
    refine .replaceBy RosterMembership.Becomes.refl fun member₀ h₀ ↦ ?_
    obtain rfl := Option.some.inj (h₀.symm.trans (h member rfl))
    exact rfl

theorem Released.lookup {a : Allocation} {member? : Option RosterMembership}
    (h : Released held db a member?) : ∀ member ∈ member?,
      db.membership member.key = some member ∧ a.rosterId = some member.rosterId ∧
        member.providerId = a.providerId ∧ held (.rosterMembership member.key) := by
  intro member hmember
  cases hroster : a.rosterId with
  | none => exact absurd (h.unrostered hroster ▸ hmember) (by simp)
  | some rosterId =>
    obtain ⟨member', heq, hlookup, hlock⟩ := h.rostered rosterId hroster
    obtain rfl := Option.some.inj (hmember.symm.trans heq)
    have hkey : member.key = (rosterId, a.providerId) := (lookupBy_mem hlookup).2
    rw [hkey]
    exact ⟨hlookup, congrArg some (Prod.mk.inj hkey).1.symm, (Prod.mk.inj hkey).2, hlock⟩

theorem Moving.continues_close {bookingId : ℕ} {a a' : Allocation} {b b' : Booking}
    {status : BookingStatus} {ending : AllocationStatus} {member? : Option RosterMembership}
    (h : Moving held db bookingId a b b' status) (hended : a.EndedAs a' ending)
    (hreleased : Released held db a member?) (hdb : Coherent db) :
    Continues db (((db.updateBooking b').updateAllocation a').releaseMember member?) := by
  have hallocation : Extends (·.id) Allocation.Becomes db.allocations
      (replaceBy (·.id) a' db.allocations) :=
    .replaceBy Allocation.Becomes.refl fun a₀ h₀ ↦ by
      have hid : a'.id = b.allocationId := hended.id.trans h.allocation_id
      obtain rfl := Option.some.inj (h₀.symm.trans (hid ▸ h.allocation))
      exact hended.becomes (h.episode hdb).2.1
  exact { Continues.refl db with
    booking := h.extends
    allocation := hallocation
    member := continues_releaseMember member? fun m hm ↦ (hreleased.lookup m hm).1 }

/-- No change takes anything back. -/
theorem Change.continues (h : Change held drawn db r db') (hdb : Coherent db) :
    Continues db db' := by
  cases h with
  | createNeed _ _ _ _ =>
    exact { Continues.refl db with
      need := .append NeedRequest.Becomes.refl _ _
      decision := .append Eq.refl _ _ }
  | @directory _ _ _ need need' _ _ _ _ hneed _ hcitizen _ _ =>
    refine { Continues.refl db with need := .replaceBy NeedRequest.Becomes.refl fun n hn ↦ ?_ }
    obtain rfl := Option.some.inj (hn.symm.trans hneed)
    exact hcitizen
  | directoryShown => exact .refl db
  | select _ _ _ _ =>
    exact { Continues.refl db with allocation := .append Allocation.Becomes.refl _ _ }
  | @rotate _ _ rosterId row member timestamp _ _ _ _ _ _ hmember _ _ =>
    refine { Continues.refl db with
      allocation := .append Allocation.Becomes.refl _ _
      member := .replaceBy RosterMembership.Becomes.refl fun m hm ↦ ?_ }
    have hkey : (member.assign timestamp).key = (rosterId, row.providerId) :=
      (lookupBy_mem hmember).2
    obtain rfl := Option.some.inj (hm.symm.trans (hkey ▸ hmember))
    exact rfl
  | accept hmoving _ _ _ _ =>
    exact { Continues.refl db with
      booking := hmoving.extends
      matter := .append Eq.refl _ _ }
  | decline hmoving hended hreleased =>
    have hc := hmoving.continues_close hended hreleased hdb
    exact { hc with }
  | cancel hmoving hended hreleased =>
    have hc := hmoving.continues_close hended hreleased hdb
    exact { hc with }
  | quote _ => exact { Continues.refl db with }
  | holdBooking _ _ _ _ _ _ _ _ =>
    exact { Continues.refl db with booking := .append Booking.Becomes.refl _ _ }
  | changeRegistry => exact { Continues.refl db with }

/-! ## One episode at a time

A commit moves one episode by one step of the machine, or none.
-/

/-- At most one episode moves, by one step, and it is new or under the session's lock. -/
inductive EpisodeChange (held : LockKey → Prop) (db db' : Database) : Prop where
  | same (h : ∀ id, db'.episode id = db.episode id)
  | step (id : ℕ) (hown : db.allocation id = none ∨ held (.allocation id))
    (hstep : Episode.Step (db.episode id) (db'.episode id))
    (hrest : ∀ other, other ≠ id → db'.episode other = db.episode other)

theorem NewAllocation.episodes {row : Allocation} (h : NewAllocation held drawn db row)
    (hdb : Coherent db) (hdb' : ∀ id, db'.episode id = (db.insertAllocation row).episode id) :
    EpisodeChange held db db' := by
  have hepisode (id : ℕ) : db'.episode id =
      if id = row.id then { db.episode id with allocation := some row } else db.episode id :=
    (hdb' id).trans (Database.episode_insertAllocation h.lookup id)
  refine .step row.id (.inl h.lookup) ?_ fun other hother ↦ (hepisode other).trans (if_neg hother)
  rw [hepisode, if_pos rfl, (hdb.episodes row.id).of_allocation_none h.lookup]
  exact .assign h.status

theorem Moving.episodes_close {bookingId : ℕ} {a a' : Allocation} {b b' : Booking}
    {status : BookingStatus} {ending : AllocationStatus}
    (h : Moving held db bookingId a b b' status) (hended : a.EndedAs a' ending)
    (houtcome : Outcome status ending) (hdb : Coherent db)
    (hdb' : ∀ id, db'.episode id = ((db.updateBooking b').updateAllocation a').episode id) :
    EpisodeChange held db db' := by
  have hid : a'.id = b.allocationId := hended.id.trans h.allocation_id
  have hlookup : (db.updateBooking b').allocation a'.id = some a := hid ▸ h.allocation
  have hepisode (id : ℕ) : db'.episode id =
      if id = b.allocationId then ⟨some a', [b'], []⟩ else db.episode id := by
    rw [hdb', Database.episode_updateAllocation hlookup, h.episode_updateBooking hdb, hid]
    by_cases h' : id = b.allocationId
    · rw [if_pos h', if_pos h', if_pos h']
    · rw [if_neg h', if_neg h', if_neg h']
  refine .step b.allocationId (.inr h.allocationLock) ?_
    fun other hother ↦ (hepisode other).trans (if_neg hother)
  rw [hepisode, if_pos rfl, (h.episode hdb).1]
  exact .close houtcome h.isHeld h.moved hended

/-- **Refinement.** Every change leaves all episodes alone or moves one of them by one step. -/
theorem Change.episodes (h : Change held drawn db r db') (hdb : Coherent db) :
    EpisodeChange held db db' := by
  cases h with
  | createNeed _ _ _ _ => exact .same fun _ ↦ rfl
  | directory _ _ _ _ _ => exact .same fun _ ↦ rfl
  | directoryShown => exact .same fun _ ↦ rfl
  | select hnew _ _ _ => exact hnew.episodes hdb fun _ ↦ rfl
  | rotate hnew _ _ _ _ _ => exact hnew.episodes hdb fun _ ↦ rfl
  | @accept _ _ a b b' m _ _ _ hmoving _ _ hallocation hmatter =>
    have hepisode (id : ℕ) : ((db.updateBooking b').insertMatter m).episode id =
        if id = b.allocationId then ⟨some a, [b'], [m]⟩ else db.episode id := by
      rw [Database.episode_insertMatter, hmoving.episode_updateBooking hdb, hallocation]
      by_cases hid : id = b.allocationId
      · rw [if_pos hid, if_pos hid, if_pos hid, List.nil_append]
      · rw [if_neg hid, if_neg hid, if_neg hid]
    refine .step b.allocationId (.inr hmoving.allocationLock) ?_
      fun other hother ↦ (hepisode other).trans (if_neg hother)
    refine (hepisode b.allocationId).trans (if_pos rfl) ▸ ?_
    rw [(hmoving.episode hdb).1]
    exact .accept hmoving.isHeld hmoving.moved hmatter
  | decline hmoving hended _ => exact hmoving.episodes_close hended .declined hdb fun _ ↦ rfl
  | cancel hmoving hended _ => exact hmoving.episodes_close hended .cancelled hdb fun _ ↦ rfl
  | quote _ => exact .same fun _ ↦ rfl
  | @holdBooking _ a row _ _ ha hlock hassigned hlinked hheld hfirst =>
    have hnil : (db.episode row.allocationId).bookings = [] :=
      List.filter_eq_nil_iff.mpr fun other hother ↦ by simpa using hfirst other hother
    have hepisode : db.episode row.allocationId = ⟨some a, [], []⟩ := by
      have hmatters := ((hdb.episodes row.allocationId).of_bookings_nil hnil).1
      rw [← show (db.episode row.allocationId).allocation = some a from ha, ← hnil, ← hmatters]
    refine .step row.allocationId (.inr hlock) ?_
      fun other hother ↦ (Database.episode_insertBooking row other).trans (if_neg hother)
    rw [Database.episode_insertBooking, if_pos rfl, hepisode]
    exact .hold hassigned hlinked hheld
  | changeRegistry => exact .same fun _ ↦ rfl

theorem EpisodeChange.consistent (h : EpisodeChange held db db') (hdb : Coherent db) (id : ℕ) :
    (db'.episode id).Consistent := by
  cases h with
  | same h => exact h id ▸ hdb.episodes id
  | step moved _ hstep hrest =>
    by_cases hid : id = moved
    · exact hid ▸ hstep.consistent (hdb.episodes moved)
    · exact hrest id hid ▸ hdb.episodes id

end Nayasetu
