import Nayasetu.Engagement.Changes

/-!
# Changes keep the tables coherent

The counters of the roster members are the part with an argument: an allocation that is assigned
takes one place of one member, and the same update that ends it gives this place back.
-/

namespace Nayasetu

open RowLock Collections

variable {held : LockKey → Prop} {drawn : ℕ → Prop} {db db' : Database} {r : EngagementRequest}

/-! ## Counting places

The number of places that are taken, after an allocation was added or has changed its state.
-/

section Places

variable {a a' row : Allocation} {key : ℕ × ℕ}

theorem occupies_iff : a.Occupies key = true ↔ a.status = .assigned ∧ a.mode = .rotation ∧
    a.rosterId = some key.1 ∧ a.providerId = key.2 := by
  simp [Allocation.Occupies, and_assoc]

theorem occupied_insertAllocation : (db.insertAllocation row).occupied key =
    db.occupied key + if row.Occupies key then 1 else 0 := by
  rw [Database.occupied, Database.insertAllocation, List.countP_append, List.countP_singleton]
  rfl

theorem occupied_updateAllocation (hids : (db.allocations.map (·.id)).Nodup)
    (hlookup : db.allocation a'.id = some a) :
    (db.updateAllocation a').occupied key + (if a.Occupies key then 1 else 0) =
      db.occupied key + if a'.Occupies key then 1 else 0 :=
  countP_replaceBy hids hlookup _

/-- A chosen allocation takes no place. -/
theorem occupies_of_chosen (h : a.mode = .citizenChoice) : a.Occupies key = false := by
  rw [Bool.eq_false_iff, Ne, occupies_iff, h]
  rintro ⟨-, hmode, -⟩
  exact absurd hmode (by decide)

/-- An ended allocation takes no place. -/
theorem occupies_of_ended (h : a.status ≠ .assigned) : a.Occupies key = false := by
  rw [Bool.eq_false_iff, Ne, occupies_iff]
  exact fun hoccupies ↦ h hoccupies.1

theorem occupied_insertChosen (h : row.mode = .citizenChoice) :
    (db.insertAllocation row).occupied key = db.occupied key := by
  rw [occupied_insertAllocation, occupies_of_chosen h, if_neg (by simp), Nat.add_zero]

/-- A rotated allocation takes the place of its member, and no other. -/
theorem occupies_rotation_iff {rosterId : ℕ} (hstatus : a.status = .assigned)
    (hmode : a.mode = .rotation) (hroster : a.rosterId = some rosterId) :
    a.Occupies key = true ↔ key = (rosterId, a.providerId) := by
  rw [occupies_iff, hroster, Option.some.injEq, Prod.ext_iff]
  exact ⟨fun h ↦ ⟨h.2.2.1.symm, h.2.2.2.symm⟩, fun h ↦ ⟨hstatus, hmode, h.1.symm, h.2.symm⟩⟩

end Places

/-- A new rotated allocation and the counter of its member move together. -/
theorem capacity_assign {rosterId : ℕ} {row : Allocation}
    {member : RosterMembership} {timestamp : ℤ}
    (hdb : Coherent db) (hstatus : row.status = .assigned) (hmode : row.mode = .rotation)
    (hroster : row.rosterId = some rosterId)
    (hmember : db.membership (rosterId, row.providerId) = some member)
    (hcheck : (member.assign timestamp).ActiveMattersCheck) :
    ∀ m ∈ replaceBy (·.key) (member.assign timestamp) db.memberships,
      m.activeMatters = (db.insertAllocation row).occupied m.key ∧ m.ActiveMattersCheck := by
  obtain ⟨hmem, hkey⟩ := lookupBy_mem hmember
  have hoccupies (key : ℕ × ℕ) : row.Occupies key = true ↔ key = member.key := by
    rw [occupies_rotation_iff hstatus hmode hroster, hkey]
  intro m hm
  rw [occupied_insertAllocation]
  rcases mem_replaceBy hm with rfl | ⟨hm, hne⟩
  · have hassign : (member.assign timestamp).key = member.key := rfl
    rw [hassign, if_pos ((hoccupies _).mpr rfl)]
    refine ⟨?_, hcheck⟩
    rw [RosterMembership.assign, (hdb.capacity member hmem).1]
    push_cast
    rfl
  · rw [if_neg fun h ↦ hne ((hoccupies _).mp h), Nat.add_zero]
    exact hdb.capacity m hm

theorem capacity_release {a a' : Allocation} {ending : AllocationStatus}
    {member? : Option RosterMembership} (hdb : Coherent db) (hlookup : db.allocation a'.id = some a)
    (hassigned : a.status = .assigned) (hended : a.EndedAs a' ending) (hending : ending ≠ .assigned)
    (hreleased : Released held db a member?) :
    ∀ m ∈ (db.releaseMember member?).memberships,
      m.activeMatters = (db.updateAllocation a').occupied m.key ∧ m.ActiveMattersCheck := by
  have hmem := (Database.mem_of_allocation hlookup).1
  have hcount (key : ℕ × ℕ) : (db.updateAllocation a').occupied key +
      (if a.Occupies key then 1 else 0) = db.occupied key := by
    have hfree : a'.Occupies key = false :=
      occupies_of_ended fun h ↦ hending (hended.status.symm.trans h)
    rw [occupied_updateAllocation hdb.allocation_ids hlookup, hfree]
    rfl
  intro m hm
  cases hroster : a.rosterId with
  | none =>
    rw [hreleased.unrostered hroster] at hm
    have hfree : a.Occupies m.key = false := by
      rw [Bool.eq_false_iff, Ne, occupies_iff, hroster]
      rintro ⟨-, -, h, -⟩
      exact absurd h (by simp)
    have h := hcount m.key
    rw [hfree, if_neg (by simp), Nat.add_zero] at h
    rw [h]
    exact hdb.capacity m hm
  | some rosterId =>
    obtain ⟨member, rfl, hmember, -⟩ := hreleased.rostered rosterId hroster
    obtain ⟨hmember, hkey⟩ := lookupBy_mem hmember
    have hmode : a.mode = .rotation := by
      cases hmode : a.mode with
      | citizenChoice => exact absurd (((hdb.rostered a hmem).1 hmode).symm.trans hroster) (by simp)
      | rotation => rfl
    have hoccupies (key : ℕ × ℕ) : a.Occupies key = true ↔ key = member.key := by
      rw [occupies_rotation_iff hassigned hmode hroster, hkey]
    rcases mem_replaceBy hm with rfl | ⟨hm, hne⟩
    · have h := hcount member.key
      rw [if_pos ((hoccupies _).mpr rfl)] at h
      obtain ⟨hactive, hcheck⟩ := hdb.capacity member hmember
      have hkey' : member.release.key = member.key := rfl
      simp only [RosterMembership.ActiveMattersCheck, RosterMembership.release] at hcheck ⊢
      rw [hactive, ← h] at hcheck ⊢
      change (_ : ℤ) = ((db.updateAllocation a').occupied member.key : ℤ) ∧ _
      push_cast at hcheck ⊢
      omega
    · have h := hcount m.key
      rw [if_neg fun h' ↦ hne ((hoccupies _).mp h'), Nat.add_zero] at h
      rw [h]
      exact hdb.capacity m hm

/-! ## New rows

An allocation is inserted under the unique key on standing allocations of its request, which was
free.
-/

theorem NewAllocation.allocation_ids {row : Allocation} (h : NewAllocation held drawn db row)
    (hdb : Coherent db) : ((db.allocations ++ [row]).map (·.id)).Nodup :=
  nodup_map_append hdb.allocation_ids h.free.allocation

theorem NewAllocation.one_active {row : Allocation} (h : NewAllocation held drawn db row)
    (hdb : Coherent db) : ∀ a ∈ db.allocations ++ [row], ∀ a' ∈ db.allocations ++ [row],
      a.needRequestId = a'.needRequestId → a.status = .assigned → a'.status = .assigned →
        a = a' := by
  intro a ha a' ha' hneed hassigned hassigned'
  rcases List.mem_append.mp ha with hold | hrow <;> rcases List.mem_append.mp ha' with hold' | hrow'
  · exact hdb.one_active a hold a' hold' hneed hassigned hassigned'
  · rw [List.mem_singleton.mp hrow'] at hneed
    exact absurd hassigned (h.none_active a hold hneed)
  · rw [List.mem_singleton.mp hrow] at hneed
    exact absurd hassigned' (h.none_active a' hold' hneed.symm)
  · rw [List.mem_singleton.mp hrow, List.mem_singleton.mp hrow']

/-! ## Every change

Field by field; most fields are about tables that a change does not touch.
-/

theorem Moving.coherent_close {bookingId : ℕ} {a a' : Allocation} {b b' : Booking}
    {status : BookingStatus} {ending : AllocationStatus} {member? : Option RosterMembership}
    {signals : List ConductSignal} {auditEvents : List AuditEvent}
    {counters : List ProviderSurfaceCounter} (h : Moving held db bookingId a b b' status)
    (hended : a.EndedAs a' ending) (houtcome : Outcome status ending)
    (hreleased : Released held db a member?) (hdb : Coherent db) :
    Coherent ((((db.updateBooking b').updateAllocation a').releaseMember member?).withLogs signals
      auditEvents counters) := by
  have hid : a'.id = b.allocationId := hended.id.trans h.allocation_id
  have hlookup : db.allocation a'.id = some a := hid ▸ h.allocation
  have hmem := (Database.mem_of_allocation hlookup).1
  have hending : ending ≠ .assigned := by cases houtcome <;> decide
  have hcontinues : Continues db
      ((((db.updateBooking b').updateAllocation a').releaseMember member?).withLogs
        signals auditEvents
        counters) := { h.continues_close hended hreleased hdb with }
  have hcapacity := capacity_release hdb hlookup (h.episode hdb).2.1 hended hending hreleased
  have hepisodes := (h.episodes_close hended houtcome hdb fun _ ↦ rfl).consistent hdb
  have hrostered : ∀ a₀ ∈ replaceBy (·.id) a' db.allocations, db.Rostered a₀ := by
    intro a₀ ha₀
    rcases mem_replaceBy ha₀ with rfl | ⟨ha₀, -⟩
    · have hold := hdb.rostered a hmem
      rw [Database.Rostered, hended.mode, hended.roster, hended.provider]
      exact hold
    · exact hdb.rostered a₀ ha₀
  -- no allocation becomes a standing one
  have hactive : ∀ a₀ ∈ replaceBy (·.id) a' db.allocations, a₀.status = .assigned →
      a₀ ∈ db.allocations := by
    intro a₀ ha₀ hassigned
    rcases mem_replaceBy ha₀ with rfl | ⟨ha₀, -⟩
    · exact absurd (hended.status.symm.trans hassigned) hending
    · exact ha₀
  have hchosen : ∀ a₀ ∈ replaceBy (·.id) a' db.allocations, a₀.mode = .citizenChoice →
      db.PaidNeed a₀.needRequestId := by
    intro a₀ ha₀ hmode
    rcases mem_replaceBy ha₀ with rfl | ⟨ha₀, -⟩
    · exact hended.need ▸ hdb.chosen a hmem (hended.mode ▸ hmode)
    · exact hdb.chosen a₀ ha₀ hmode
  have hone : ∀ a₀ ∈ replaceBy (·.id) a' db.allocations,
      ∀ a₁ ∈ replaceBy (·.id) a' db.allocations, a₀.needRequestId = a₁.needRequestId →
        a₀.status = .assigned → a₁.status = .assigned → a₀ = a₁ :=
    fun a₀ h₀ a₁ h₁ hneed hs₀ hs₁ ↦
      hdb.one_active a₀ (hactive a₀ h₀ hs₀) a₁ (hactive a₁ h₁ hs₁) hneed hs₀ hs₁
  have hkeys : ((db.releaseMember member?).memberships.map (·.key)).Nodup := by
    cases member? with
    | none => exact hdb.member_keys
    | some member => exact nodup_map_replaceBy hdb.member_keys member.release
  exact { hdb with
    booking_ids := nodup_map_replaceBy hdb.booking_ids b'
    allocation_ids := nodup_map_replaceBy hdb.allocation_ids a'
    member_keys := hkeys
    chosen := hchosen
    quotes := fun quote hquote ↦ (hdb.quotes quote hquote).continues hcontinues
    rostered := fun a₀ ha₀ ↦ (hrostered a₀ ha₀).continues hcontinues
    one_active := hone
    episodes := hepisodes
    capacity := hcapacity }

/-- **Coherence.** Every change keeps the tables coherent. -/
theorem Change.coherent (h : Change held drawn db r db') (hdb : Coherent db) : Coherent db' := by
  have hcontinues := h.continues hdb
  have hepisodes := (h.episodes hdb).consistent hdb
  cases h with
  | @createNeed _ _ need decision _ _ _ _ hfree hdecision hrouted =>
    have hnone : db.need need.id = none := lookupBy_eq_none_iff.mpr hfree.need
    have hdecided : ∀ d ∈ db.decisions ++ [decision], ∃ need',
        (db.insertNeed need).need d.needRequestId = some need' := by
      refine List.forall_mem_append.mpr ⟨fun d hd ↦ hcontinues.exists_need (hdb.decided d hd),
        fun d hd ↦ ⟨need, ?_⟩⟩
      rw [List.mem_singleton.mp hd, hdecision]
      refine (lookupBy_append_singleton need.id db.needs need).trans ?_
      rw [← Database.need, hnone, if_pos rfl, Option.none_or]
    exact { hdb with
      need_ids := nodup_map_append hdb.need_ids hfree.need
      decision_ids := nodup_map_append hdb.decision_ids (hdecision ▸ hfree.decision)
      routed := List.forall_mem_append.mpr ⟨hdb.routed, by simpa using hrouted⟩
      decided := hdecided
      surfaces := fun surface hsurface ↦ (hdb.surfaces surface hsurface).continues hcontinues
      chosen := fun a ha hmode ↦ (hdb.chosen a ha hmode).continues hcontinues
      quotes := fun quote hquote ↦ (hdb.quotes quote hquote).continues hcontinues }
  | directory _ _ _ hpaid hsurfaces =>
    exact { hdb with
      need_ids := nodup_map_replaceBy hdb.need_ids _
      decided := fun d hd ↦ hcontinues.exists_need (hdb.decided d hd)
      surfaces := List.forall_mem_append.mpr
        ⟨fun surface hsurface ↦ (hdb.surfaces surface hsurface).continues hcontinues,
          fun surface hsurface ↦ hsurfaces surface hsurface ▸ hpaid.continues hcontinues⟩
      chosen := fun a ha hmode ↦ (hdb.chosen a ha hmode).continues hcontinues
      quotes := fun quote hquote ↦ (hdb.quotes quote hquote).continues hcontinues }
  | directoryShown => exact hdb
  | select hnew hmode hroster hpaid =>
    exact { hdb with
      allocation_ids := hnew.allocation_ids hdb
      chosen := List.forall_mem_append.mpr ⟨hdb.chosen, fun a ha _ ↦ by
        obtain rfl := List.mem_singleton.mp ha
        exact hpaid⟩
      quotes := fun quote hquote ↦ (hdb.quotes quote hquote).continues hcontinues
      rostered := List.forall_mem_append.mpr ⟨hdb.rostered, fun a ha ↦ by
        obtain rfl := List.mem_singleton.mp ha
        exact ⟨fun _ ↦ hroster, fun h ↦ absurd (hmode.symm.trans h) (by decide)⟩⟩
      one_active := hnew.one_active hdb
      episodes := hepisodes
      -- a choice takes no place of a roster
      capacity := fun member hmember ↦ by
        obtain ⟨hactive, hcheck⟩ := hdb.capacity member hmember
        exact ⟨hactive.trans (congrArg Nat.cast (occupied_insertChosen hmode).symm), hcheck⟩ }
  | rotate hnew hmode hroster hmember _ hcheck =>
    exact { hdb with
      allocation_ids := hnew.allocation_ids hdb
      member_keys := nodup_map_replaceBy hdb.member_keys _
      chosen := List.forall_mem_append.mpr ⟨hdb.chosen, fun a ha h ↦ by
        obtain rfl := List.mem_singleton.mp ha
        exact absurd (hmode.symm.trans h) (by decide)⟩
      quotes := fun quote hquote ↦ (hdb.quotes quote hquote).continues hcontinues
      rostered := List.forall_mem_append.mpr
        ⟨fun a ha ↦ (hdb.rostered a ha).continues hcontinues, fun a ha ↦ by
          obtain rfl := List.mem_singleton.mp ha
          refine Database.Rostered.continues ⟨fun h ↦ ?_, fun _ ↦ ?_⟩ hcontinues
          · exact absurd (hmode.symm.trans h) (by decide)
          · exact ⟨_, _, hroster, hmember⟩⟩
      one_active := hnew.one_active hdb
      episodes := hepisodes
      capacity := capacity_assign hdb hnew.status hmode hroster hmember hcheck }
  | accept _ _ hfree _ _ =>
    exact { hdb with
      booking_ids := nodup_map_replaceBy hdb.booking_ids _
      matter_ids := nodup_map_append hdb.matter_ids hfree.matter
      quotes := fun quote hquote ↦ (hdb.quotes quote hquote).continues hcontinues
      episodes := hepisodes }
  | decline hmoving hended hreleased => exact hmoving.coherent_close hended .declined hreleased hdb
  | cancel hmoving hended hreleased => exact hmoving.coherent_close hended .cancelled hreleased hdb
  | quote hpaid =>
    exact { hdb with
      quotes := List.forall_mem_append.mpr ⟨hdb.quotes, fun quote hquote ↦ by
        obtain rfl := List.mem_singleton.mp hquote
        exact hpaid⟩ }
  | holdBooking _ hfree _ _ _ _ _ _ =>
    exact { hdb with
      booking_ids := nodup_map_append hdb.booking_ids hfree.booking
      episodes := hepisodes }
  | changeRegistry => exact { hdb with }

end Nayasetu
