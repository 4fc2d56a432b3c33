import Nayasetu.Engagement.Coherence

/-!
# The discipline of the engagements

What changes leave alone, and the discipline that follows. The invariant of a run remembers of every
commit which change it made, and that each booking has been moved at most once.
-/

namespace Nayasetu

open RowLock Collections

section Change

variable {held : LockKey → Prop} {drawn : ℕ → Prop} {db db' : Database} {r : EngagementRequest}

/-! ## Locks and numbers

A key that another session holds is not among those that a change requires, and what the change
writes is guarded by the latter.
-/

theorem booking_updateBooking (row : Booking) (id : ℕ) : (db.updateBooking row).booking id =
    if id = row.id then (db.booking id).map fun _ ↦ row else db.booking id :=
  lookupBy_replaceBy id row db.bookings

theorem membership_updateMembership (row : RosterMembership) (key : ℕ × ℕ) :
    (db.updateMembership row).membership key =
      if key = row.key then (db.membership key).map fun _ ↦ row else db.membership key :=
  lookupBy_replaceBy key row db.memberships

private theorem guards_needRequest (h : Change held drawn db r db') {id : ℕ}
    (hid : ¬ held (.needRequest id)) : LockKey.Guards (.needRequest id) db db' := by
  cases h with
  | createNeed _ _ _ _ =>
    intro need hneed
    exact (lookupBy_append_singleton id db.needs _).trans (by rw [← Database.need, hneed]; rfl)
  | directory _ hlock _ _ _ =>
    intro need hneed
    refine (lookupBy_replaceBy id _ db.needs).trans ?_
    refine (if_neg fun he ↦ hid ?_).trans hneed
    rw [he]
    exact hlock
  | _ => exact fun _ h ↦ h

private theorem membership_releaseMember {a : Allocation} {member? : Option RosterMembership}
    (hreleased : Released held db a member?) {key : ℕ × ℕ} (hkey : ¬ held (.rosterMembership key)) :
    (db.releaseMember member?).membership key = db.membership key := by
  cases member? with
  | none => rfl
  | some member =>
    obtain ⟨-, -, -, hlock⟩ := hreleased.lookup member rfl
    refine (membership_updateMembership member.release key).trans (if_neg fun he ↦ hkey ?_)
    rw [he]
    exact hlock

private theorem guards_rosterMembership (h : Change held drawn db r db') {key : ℕ × ℕ}
    (hkey : ¬ held (.rosterMembership key)) : LockKey.Guards (.rosterMembership key) db db' := by
  cases h with
  | rotate _ _ _ hmember hlock _ =>
    refine (membership_updateMembership _ key).trans (if_neg fun he ↦ hkey ?_)
    have hmoved : key = _ := he.trans (lookupBy_mem hmember).2
    exact hmoved ▸ hlock
  | decline _ _ hreleased => exact membership_releaseMember hreleased hkey
  | cancel _ _ hreleased => exact membership_releaseMember hreleased hkey
  | _ => exact rfl

private theorem guards_allocation (h : Change held drawn db r db') (hdb : Coherent db) {id : ℕ}
    (hid : ¬ held (.allocation id)) : LockKey.Guards (.allocation id) db db' := by
  intro a ha
  cases h.episodes hdb with
  | same h => exact h id
  | step moved hown _ hrest =>
    refine hrest id fun he ↦ ?_
    subst he
    rcases hown with hnone | hlock
    · exact absurd (hnone.symm.trans ha) (by simp)
    · exact hid hlock

private theorem booking_of_moving {bookingId id : ℕ} {a : Allocation} {b b' : Booking}
    {status : BookingStatus} (h : Moving held db bookingId a b b' status)
    (hid : ¬ held (.booking id)) : (db.updateBooking b').booking id = db.booking id :=
  (booking_updateBooking b' id).trans
    (if_neg fun he : id = b'.id ↦ hid ((he.trans h.id_eq).symm ▸ h.bookingLock))

private theorem guards_booking (h : Change held drawn db r db') {id : ℕ}
    (hid : ¬ held (.booking id)) : LockKey.Guards (.booking id) db db' := by
  cases h with
  | accept hmoving _ _ _ _ => exact fun b hb ↦ (booking_of_moving hmoving hid).trans hb
  | decline hmoving _ _ => exact fun b hb ↦ (booking_of_moving hmoving hid).trans hb
  | cancel hmoving _ _ => exact fun b hb ↦ (booking_of_moving hmoving hid).trans hb
  | holdBooking _ _ _ _ _ _ _ _ =>
    intro b hb
    exact (lookupBy_append_singleton id db.bookings _).trans (by rw [← Database.booking, hb]; rfl)
  | _ => exact fun _ h ↦ h

private theorem guards_insertAllocation {row : Allocation} (hnew : NewAllocation held drawn db row)
    {needId : ℕ} (hid : ¬ held (.oneActiveAllocation needId)) : ∀ a ∈ db.allocations ++ [row],
      a.needRequestId = needId → a.status = .assigned →
      ∃ a' ∈ db.allocations, a'.needRequestId = needId ∧ a'.status = .assigned := by
  intro a ha hneed hassigned
  rcases List.mem_append.mp ha with hold | hrow
  · exact ⟨a, hold, hneed, hassigned⟩
  · rw [List.mem_singleton.mp hrow] at hneed
    exact absurd (hneed ▸ hnew.lock) hid

private theorem guards_close {a a' : Allocation} {ending : AllocationStatus}
    {status : BookingStatus}
    (hended : a.EndedAs a' ending) (houtcome : Outcome status ending) {needId : ℕ} :
    ∀ a₀ ∈ replaceBy (·.id) a' db.allocations, a₀.needRequestId = needId → a₀.status = .assigned →
      ∃ a₁ ∈ db.allocations, a₁.needRequestId = needId ∧ a₁.status = .assigned := by
  intro a₀ ha₀ hneed hassigned
  rcases mem_replaceBy ha₀ with rfl | ⟨ha₀, -⟩
  · have hending := hended.status.symm.trans hassigned
    cases houtcome <;> exact absurd hending (by decide)
  · exact ⟨a₀, ha₀, hneed, hassigned⟩

private theorem guards_oneActiveAllocation (h : Change held drawn db r db') {needId : ℕ}
    (hid : ¬ held (.oneActiveAllocation needId)) :
    LockKey.Guards (.oneActiveAllocation needId) db db' := by
  cases h with
  | select hnew _ _ _ => exact guards_insertAllocation hnew hid
  | rotate hnew _ _ _ _ _ => exact guards_insertAllocation hnew hid
  | decline _ hended _ => exact guards_close hended .declined
  | cancel _ hended _ => exact guards_close hended .cancelled
  | _ => exact fun a ha hneed hassigned ↦ ⟨a, ha, hneed, hassigned⟩

theorem Change.guards (h : Change held drawn db r db') (hdb : Coherent db) {key : LockKey}
    (hkey : ¬ held key) : key.Guards db db' := by
  cases key with
  | needRequest id => exact guards_needRequest h hkey
  | rosterMembership key => exact guards_rosterMembership h hkey
  | allocation id => exact guards_allocation h hdb hkey
  | booking id => exact guards_booking h hkey
  | oneActiveAllocation needId => exact guards_oneActiveAllocation h hkey
  | _ => exact trivial

private theorem forall_key_replaceBy {α : Type} {key : α → ℕ} {row : α} {l : List α} {n : ℕ}
    (h : ∀ a ∈ l, key a ≠ n) : ∀ a ∈ replaceBy key row l, key a ≠ n := by
  intro a ha he
  obtain ⟨b, hb, hkey⟩ := exists_key_of_mem_replaceBy ha
  exact h b hb (hkey.trans he)

private theorem forall_key_append {α : Type} {key : α → ℕ} {row : α} {l : List α} {n : ℕ}
    (h : ∀ a ∈ l, key a ≠ n) (hrow : key row ≠ n) : ∀ a ∈ l ++ [row], key a ≠ n :=
  List.forall_mem_append.mpr ⟨h, fun _ ha ↦ List.mem_singleton.mp ha ▸ hrow⟩

/-- A number that the session has not drawn stays free. -/
theorem Change.free (h : Change held drawn db r db') {n : ℕ} (hn : ¬ drawn n) (hfree : db.Free n) :
    db'.Free n := by
  have hne {id : ℕ} (hid : drawn id) : id ≠ n := fun he ↦ hn (he ▸ hid)
  cases h with
  | createNeed hid _ hdecision _ =>
    exact { hfree with
      need := forall_key_append hfree.need (hne hid)
      decision := forall_key_append hfree.decision (hdecision ▸ hne hid) }
  | directory _ _ _ _ _ => exact { hfree with need := forall_key_replaceBy hfree.need }
  | directoryShown => exact hfree
  | select hnew _ _ _ =>
    exact { hfree with allocation := forall_key_append hfree.allocation (hne hnew.id) }
  | rotate hnew _ _ _ _ _ =>
    exact { hfree with allocation := forall_key_append hfree.allocation (hne hnew.id) }
  | accept _ hid _ _ _ =>
    exact { hfree with
      booking := forall_key_replaceBy hfree.booking
      matter := forall_key_append hfree.matter (hne hid) }
  | decline _ _ _ =>
    exact { hfree with
      booking := forall_key_replaceBy hfree.booking
      allocation := forall_key_replaceBy hfree.allocation }
  | cancel _ _ _ =>
    exact { hfree with
      booking := forall_key_replaceBy hfree.booking
      allocation := forall_key_replaceBy hfree.allocation }
  | quote _ => exact { hfree with }
  | holdBooking hid _ _ _ _ _ _ _ =>
    exact { hfree with booking := forall_key_append hfree.booking (hne hid) }
  | changeRegistry => exact { hfree with }

/-! ## Moved bookings

A booking that has left the state `HELD` does not return to it. So among the commits of a run at
most one is about moving it.
-/

def EngagementRequest.moves : EngagementRequest → Option (ℕ × BookingStatus)
  | .accept _ bookingId => some (bookingId, .confirmed)
  | .decline _ bookingId _ => some (bookingId, .declined)
  | .cancel _ bookingId _ => some (bookingId, .cancelled)
  | _ => none

theorem EngagementRequest.moves_ne_held {id : ℕ} {status : BookingStatus}
    (h : r.moves = some (id, status)) : status ≠ .held := by
  cases r <;> cases h <;> decide

theorem Moving.moved_lookup {bookingId : ℕ} {a : Allocation} {b b' : Booking}
    {status : BookingStatus} (h : Moving held db bookingId a b b' status) :
    (db.updateBooking b').booking bookingId = some b' := by
  rw [booking_updateBooking, if_pos h.id_eq.symm, h.booking, Option.map_some]

theorem Change.moves (h : Change held drawn db r db') {id : ℕ} {status : BookingStatus}
    (hmoves : r.moves = some (id, status)) :
    (∃ b, db.booking id = some b ∧ b.status = .held) ∧
      ∃ b', db'.booking id = some b' ∧ b'.status = status := by
  cases h with
  | accept hmoving _ _ _ _ =>
    cases hmoves
    exact ⟨⟨_, hmoving.booking, hmoving.isHeld⟩, _, hmoving.moved_lookup, hmoving.moved.status⟩
  | decline hmoving _ _ =>
    cases hmoves
    exact ⟨⟨_, hmoving.booking, hmoving.isHeld⟩, _, hmoving.moved_lookup, hmoving.moved.status⟩
  | cancel hmoving _ _ =>
    cases hmoves
    exact ⟨⟨_, hmoving.booking, hmoving.isHeld⟩, _, hmoving.moved_lookup, hmoving.moved.status⟩
  | _ => exact absurd hmoves (by simp [EngagementRequest.moves])

end Change

/-! ## The discipline

The invariant of a run: the tables are coherent, the numbers still to come are free, and every
commit of the log made a change that its request allows.
-/

/-- A commit is a change of coherent tables. -/
structure EngagementCommit (e : Entry Database EngagementRequest) : Prop where
  coherent : Coherent e.before
  change : ∃ held drawn, Change held drawn e.before e.request e.after

def movesBooking (id : ℕ) (e : Entry Database EngagementRequest) : Bool :=
  e.request.moves.map Prod.fst = some id

/-- What holds in every moment of a run. -/
structure EngagementInvariant (s : Shared Database LockKey EngagementRequest) : Prop where
  store : Coherent s.store
  free : ∀ n, s.minted.length ≤ n → s.store.Free n
  history : ∀ e ∈ s.history, EngagementCommit e
  /-- A moved booking has the status its request gave it. -/
  settled : ∀ e ∈ s.history, ∀ id status, e.request.moves = some (id, status) →
    ∃ b, s.store.booking id = some b ∧ b.status = status
  /-- No booking has been moved twice. -/
  once : ∀ id, (s.history.filter (movesBooking id)).length ≤ 1

def engagementDiscipline : Discipline Database LockKey EngagementRequest where
  Inv := EngagementInvariant
  Keep key := key.Guards
  Unused n db := db.Free n
  Mono := Continues
  keep_refl := LockKey.Guards.refl
  keep_trans _ _ _ _ := LockKey.Guards.trans
  mono_refl := Continues.refl
  mono_trans _ _ _ := Continues.trans
  unused_of_inv _ n h hn := h.free n hn
  inv_of_same _ _ hstore hhistory hminted _ _ h :=
    { store := hstore ▸ h.store
      free := fun n hn ↦ hstore ▸ h.free n (hminted.length_le.trans hn)
      history := hhistory ▸ h.history
      settled := hstore ▸ hhistory ▸ h.settled
      once := hhistory ▸ h.once }

section Commit

variable {i : ℕ} {r : EngagementRequest} {s : Shared Database LockKey EngagementRequest}

def Holds (i : ℕ) (s : Shared Database LockKey EngagementRequest) (key : LockKey) : Prop :=
  s.holder key = some i

/-- The session has drawn the number. -/
def Drew (i : ℕ) (s : Shared Database LockKey EngagementRequest) (n : ℕ) : Prop :=
  s.minted[n]? = some (some i)

theorem EngagementInvariant.not_moved (h : EngagementInvariant s) {id : ℕ} {b : Booking}
    (hb : s.store.booking id = some b) (hheld : b.status = .held) :
    s.history.filter (movesBooking id) = [] := by
  refine List.filter_eq_nil_iff.mpr fun e he hmoves ↦ ?_
  cases hm : e.request.moves with
  | none => simp [movesBooking, hm] at hmoves
  | some move =>
    obtain ⟨id', status⟩ := move
    have hid : id' = id := by simpa [movesBooking, hm] using hmoves
    subst hid
    obtain ⟨b', hb', hstatus⟩ := h.settled e he id' status hm
    obtain rfl := Option.some.inj (hb'.symm.trans hb)
    exact EngagementRequest.moves_ne_held hm (hstatus.symm.trans hheld)

/-- A change may be committed. -/
theorem Change.commit {w : Database → Database}
    (h : Change (Holds i s) (Drew i s) s.store r (w s.store)) (snap : Database)
    (hs : EngagementInvariant s) : EngagementInvariant (s.commit i r snap w) ∧
      ∀ j, j ≠ i → engagementDiscipline.Rely j s (s.commit i r snap w) := by
  have hcontinues := h.continues hs.store
  refine ⟨⟨h.coherent hs.store, fun n hn ↦ ?_, ?_, ?_, fun id ↦ ?_⟩, ?_⟩
  · refine h.free (fun hdrawn ↦ ?_) (hs.free n hn)
    exact absurd (hdrawn.symm.trans (List.getElem?_eq_none hn)) (by simp)
  · exact List.forall_mem_append.mpr
      ⟨hs.history, fun e he ↦ List.mem_singleton.mp he ▸ ⟨hs.store, _, _, h⟩⟩
  · refine List.forall_mem_append.mpr ⟨fun e he id status hmoves ↦ ?_,
      fun e he id status hmoves ↦ ?_⟩
    · obtain ⟨b, hb, hstatus⟩ := hs.settled e he id status hmoves
      obtain ⟨b', hb', -, hsame⟩ := hcontinues.booking id b hb
      have hne : b.status ≠ .held := hstatus ▸ EngagementRequest.moves_ne_held hmoves
      exact ⟨b', hb', (hsame hne).symm ▸ hstatus⟩
    · obtain rfl := List.mem_singleton.mp he
      exact (h.moves hmoves).2
  · -- Only a held booking is moved, and it has not been moved before.
    rw [Shared.commit, List.filter_append, List.length_append]
    cases hmoves : movesBooking id ⟨i, r, snap, s.store, w s.store⟩ with
    | false =>
      rw [List.filter_cons_of_neg (by simp [hmoves])]
      exact hs.once id
    | true =>
      cases hm : r.moves with
      | none => simp [movesBooking, hm] at hmoves
      | some move =>
        obtain ⟨id', status⟩ := move
        have hid : id' = id := by simpa [movesBooking, hm] using hmoves
        subst hid
        obtain ⟨b, hb, hheld⟩ := (h.moves hm).1
        rw [hs.not_moved hb hheld, List.filter_cons_of_pos hmoves]
        exact le_rfl
  · exact Discipline.rely_commit (fun key hkey ↦ h.guards hs.store hkey)
      (fun n hn hfree ↦ h.free hn hfree) hcontinues

end Commit

end Nayasetu
