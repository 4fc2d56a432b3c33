import Nayasetu.Credential.Safety
import Nayasetu.Engagement.BookingTransactions

/-!
# Safety of the engagements

What holds after any interleaving of the routes, of bookings held by the owner of the database and
of changes to the registry: citizens who are routed to legal aid are neither charged nor sold to,
bookings agree with their allocations and matters, and the counters of the roster members count
the standing allocations.

The three theorems come from one invariant (`engagementRun_invariant`), which is proved once for
all requests. Each reads off the part of it that is about its subject.
-/

namespace Nayasetu

open RowLock RowLock.Discipline Collections

/-- Many clients of the routes. -/
abbrev EngagementConfig := Config Database LockKey Failure EngagementResponse EngagementRequest

def engagementStart (db : Database) (clock : ℤ) (drawn : ℕ) : EngagementConfig :=
  .initial db clock drawn

abbrev EngagementRun (config : AppConfig) (seededKey : String → String → String) :
    EngagementConfig → EngagementConfig → Prop := Reaches (engagementProgram config seededKey)

/-- A database in which nothing has been allocated: nobody has a matter, and there may be requests
that have been routed and directories that have been shown. -/
structure Database.Unallocated (db : Database) (drawn : ℕ) : Prop where
  need_ids : (db.needs.map (·.id)).Nodup
  decision_ids : (db.decisions.map (·.needRequestId)).Nodup
  drawn : ∀ need ∈ db.needs, need.id < drawn
  decided : ∀ decision ∈ db.decisions, ∃ need, db.need decision.needRequestId = some need
  routed : ∀ decision ∈ db.decisions, decision.route = .paid → decision.section12Category = none
  surfaces : ∀ surface ∈ db.surfaces, db.PaidNeed surface.needRequestId
  allocations : db.allocations = []
  bookings : db.bookings = []
  matters : db.matters = []
  quotes : db.quotes = []
  member_keys : (db.memberships.map (·.key)).Nodup
  idle : ∀ member ∈ db.memberships, member.activeMatters = 0
  checked : ∀ member ∈ db.memberships, member.ActiveMattersCheck

section Start

variable {db : Database} {drawn : ℕ}

theorem Database.Unallocated.coherent (h : db.Unallocated drawn) : Coherent db where
  need_ids := h.need_ids
  decision_ids := h.decision_ids
  allocation_ids := by simp [h.allocations]
  booking_ids := by simp [h.bookings]
  matter_ids := by simp [h.matters]
  member_keys := h.member_keys
  routed := h.routed
  decided := h.decided
  surfaces := h.surfaces
  chosen := by simp [h.allocations]
  quotes := by simp [h.quotes]
  rostered := by simp [h.allocations]
  one_active := by simp [h.allocations]
  episodes id := by
    have hnone : db.episode id = ⟨none, [], []⟩ := by
      simp [Database.episode, Database.allocation, h.allocations, h.bookings, h.matters]
    exact hnone ▸ .absent
  capacity member hmember := by
    refine ⟨?_, h.checked member hmember⟩
    rw [h.idle member hmember, Database.occupied, h.allocations]
    rfl

theorem Database.Unallocated.free (h : db.Unallocated drawn) {n : ℕ} (hn : drawn ≤ n) :
    db.Free n where
  need need hneed := (h.drawn need hneed).trans_le hn |>.ne
  decision decision hdecision := by
    obtain ⟨need, hneed⟩ := h.decided decision hdecision
    obtain ⟨hmem, hid⟩ := lookupBy_mem hneed
    exact hid ▸ ((h.drawn need hmem).trans_le hn).ne
  allocation := by simp [h.allocations]
  booking := by simp [h.bookings]
  matter := by simp [h.matters]

/-- The start of a run keeps the invariant. -/
theorem Database.Unallocated.invariant (h : db.Unallocated drawn) (clock : ℤ) :
    EngagementInvariant (engagementStart db clock drawn).shared where
  store := h.coherent
  free n hn := by
    refine h.free ?_
    simpa [engagementStart, Config.initial] using hn
  history := List.forall_mem_nil _
  settled := List.forall_mem_nil _
  once _ := Nat.zero_le _

end Start

section Run

variable {config : AppConfig} {seededKey : String → String → String} {db : Database} {clock : ℤ}
  {drawn : ℕ} {c : EngagementConfig}

/-- **Every run** keeps the invariant; who fails has committed nothing. -/
theorem engagementRun_invariant (hstart : db.Unallocated drawn)
    (hc : EngagementRun config seededKey (engagementStart db clock drawn) c) :
    EngagementInvariant c.shared ∧ ∀ i u e, c.sessions[i]? = some u →
      u.program = some (.throw e) → c.shared.commitsOf i = [] ∧ e.Unconflicted :=
  served (fun _ r _ _ ↦ serves_engagement config seededKey r rfl) (hstart.invariant clock) hc

end Run

/-! ## Two runs

A citizen whose request is routed to the directory chooses an advocate, who accepts and quotes a
fee. A citizen who declares a category is assigned the next advocate of a roster, who declines.
-/

/-- A deployment. -/
def pilotConfig : AppConfig where
  nodeEnv := .test
  taxonomyCodes := ["RENT"]
  districtFeeFloors := [("DEFAULT", 500)]
  providerActiveStatuses := ["ACTIVE"]

/-- A digest. -/
def pilotKey (seed provider : String) : String := seed ++ provider

/-- An advocate who offers a service and is on a roster. -/
def pilotStore : Database where
  roleGrants := [⟨10, .provider, "provider"⟩]
  providers := [{ advocateRow with tier := .documentVerified }]
  services := [⟨1, "RENT", 10000, 50000, true⟩]
  rosters := [⟨5, "Pune", "RENT", "ADVOCATE", some .selfDeclared⟩]
  memberships := [⟨5, 1, "AVAILABLE", 1, 0, none, false⟩]
  counters := [⟨1, 0⟩]

theorem pilotStore_unallocated : pilotStore.Unallocated 0 where
  need_ids := .nil
  decision_ids := .nil
  drawn := List.forall_mem_nil _
  decided := List.forall_mem_nil _
  routed := List.forall_mem_nil _
  surfaces := List.forall_mem_nil _
  allocations := rfl
  bookings := rfl
  matters := rfl
  quotes := rfl
  member_keys := by decide
  idle := by decide
  checked := by decide

def pilotCitizen : ActorContext where
  actorId := 20
  actorType := .citizen
  scopes := []
  requestId := "citizen"

/-- The request of the citizen. -/
def pilotNeed (category : Option String) : NeedBody where
  citizenUserId := 20
  taxonomyCode := some "RENT"
  narrative := none
  district := "Pune"
  language := "mr"
  modePreference := "REMOTE"
  feeCeiling := some 1000
  urgency := "LOW"
  channel := "WEB"
  selfDeclaredSection12Category := category

/-- The fee of the advocate. -/
def pilotQuote (matterId : ℕ) : QuoteBody where
  matterId := matterId
  amount := "5.00"
  currency := "INR"
  feeBreakdown := ⟨"5.00", "0.00", "0.00"⟩
  expiresAt := 9000000

/-- Session `i` serves a request in `n` statements. -/
def serveAlone (i n : ℕ) (r : EngagementRequest) : List (Action EngagementRequest) :=
  .start r :: List.replicate n (.run i 0)

/-- A request that is routed to the directory, up to the quote. -/
def paidRun : List (Action EngagementRequest) :=
  serveAlone 0 6 (.createNeed pilotCitizen (pilotNeed none)) ++
    serveAlone 1 16 (.directory pilotCitizen 0 ⟨"ADVOCATE", .selfDeclared⟩) ++
    serveAlone 2 12 (.select pilotCitizen 0 1) ++
    serveAlone 3 7 (.holdBooking ⟨0, 1, 1, 20, (0, 10), none, none⟩) ++
    serveAlone 4 18 (.accept advocate 2) ++ serveAlone 5 13 (.quote advocate (pilotQuote 3)) ++
    serveAlone 6 5 (.cancel pilotCitizen 2 "LATE")

theorem paidRun_possible :
    (exec (engagementProgram pilotConfig pilotKey) (engagementStart pilotStore 1000000 0)
      paidRun).isSome := by decide +kernel

def rotatedRun : List (Action EngagementRequest) :=
  serveAlone 0 6 (.createNeed pilotCitizen (pilotNeed (some "SC"))) ++
    serveAlone 1 15 (.rotate pilotCitizen 0 5) ++
    serveAlone 2 7 (.holdBooking ⟨0, 1, 1, 20, (0, 10), none, none⟩) ++
    serveAlone 3 24 (.decline advocate 2 "BUSY")

theorem rotatedRun_possible :
    (exec (engagementProgram pilotConfig pilotKey) (engagementStart pilotStore 1000000 0)
      rotatedRun).isSome := by decide +kernel

/-! ## Legal aid

Nothing in the store charges or offers a paid provider to a request that was referred.
-/

section LegalAid

variable {config : AppConfig} {seededKey : String → String → String} {db : Database} {clock : ℤ}
  {drawn : ℕ} {c : EngagementConfig}

/-- The request was routed to the paid directory, and nobody declared a category for it. -/
def Database.Chargeable (db : Database) (needId : ℕ) : Prop :=
  (∃ need, db.need needId = some need) ∧ ∃ decision, db.decision needId = some decision ∧
    decision.route = .paid ∧ decision.section12Category = none

theorem Coherent.chargeable (h : Coherent db) {needId : ℕ} (hpaid : db.PaidNeed needId) :
    db.Chargeable needId := by
  obtain ⟨hneed, decision, hdecision, hroute⟩ := hpaid
  exact ⟨hneed, decision, hdecision, hroute, h.routed decision (lookupBy_mem hdecision).1 hroute⟩

/-- Whoever is charged, is sold to or chooses from a directory was routed there. -/
structure LegalAidSafe (db : Database) : Prop where
  need_ids : (db.needs.map (·.id)).Nodup
  decision_ids : (db.decisions.map (·.needRequestId)).Nodup
  quotes : ∀ quote ∈ db.quotes, ∃ matter allocation, db.matter quote.matterId = some matter ∧
    db.allocation matter.allocationId = some allocation ∧ db.Chargeable allocation.needRequestId
  chosen : ∀ allocation ∈ db.allocations, allocation.mode = .citizenChoice →
    db.Chargeable allocation.needRequestId
  surfaces : ∀ surface ∈ db.surfaces, db.Chargeable surface.needRequestId

/-- **Nobody routed to legal aid is charged or sold to**, in any run. -/
theorem legal_aid_safe (hstart : db.Unallocated drawn)
    (hc : EngagementRun config seededKey (engagementStart db clock drawn) c) :
    LegalAidSafe c.shared.store := by
  have hcoherent := (engagementRun_invariant hstart hc).1.store
  refine ⟨hcoherent.need_ids, hcoherent.decision_ids, fun quote hquote ↦ ?_, fun a ha hmode ↦ ?_,
    fun surface hsurface ↦ ?_⟩
  · obtain ⟨matter, a, hmatter, -, ha, hpaid⟩ := hcoherent.quotes quote hquote
    exact ⟨matter, a, hmatter, ha, hcoherent.chargeable hpaid⟩
  · exact hcoherent.chargeable (hcoherent.chosen a ha hmode)
  · exact hcoherent.chargeable (hcoherent.surfaces surface hsurface)

end LegalAid

theorem legal_aid_safe_paidRun :
    LegalAidSafe ((exec (engagementProgram pilotConfig pilotKey)
      (engagementStart pilotStore 1000000 0) paidRun).get paidRun_possible).shared.store :=
  legal_aid_safe pilotStore_unallocated (.get _)

/-! ## Scheduling

What bookings, allocations and matters say about each other, and that a booking is moved once.
-/

section Scheduling

variable {config : AppConfig} {seededKey : String → String → String} {db : Database} {clock : ℤ}
  {drawn : ℕ} {c : EngagementConfig}

/-- What a booking says of its allocation and its matters. -/
def Database.Scheduled (db : Database) (b : Booking) : Prop :=
  ∃ allocation, db.allocation b.allocationId = some allocation ∧ match b.status with
    | .held => allocation.status = .assigned ∧
        db.matters.filter (·.allocationId = b.allocationId) = []
    | .confirmed => allocation.status = .assigned ∧ ∃ matter,
        db.matters.filter (·.allocationId = b.allocationId) = [matter] ∧ matter.status = .opened ∧
          matter.providerId = b.providerId ∧ matter.citizenUserId = b.citizenUserId
    | .scheduled => False
    | .declined =>
      allocation.status = .declined ∧ db.matters.filter (·.allocationId = b.allocationId) = []
    | .cancelled =>
      allocation.status = .cancelled ∧ db.matters.filter (·.allocationId = b.allocationId) = []

theorem Coherent.scheduled (h : Coherent db) {b : Booking} (hb : b ∈ db.bookings) :
    db.Scheduled b := by
  have hmem : b ∈ (db.episode b.allocationId).bookings :=
    Database.mem_episode_bookings.mpr ⟨hb, rfl⟩
  have hconsistent := h.episodes b.allocationId
  have hallocation : (db.episode b.allocationId).allocation = db.allocation b.allocationId := rfl
  have hmatters : (db.episode b.allocationId).matters =
      db.matters.filter (·.allocationId = b.allocationId) := rfl
  rw [Database.Scheduled, ← hallocation, ← hmatters]
  revert hmem
  generalize db.episode b.allocationId = episode at hconsistent
  cases hconsistent with
  | absent => exact fun hmem ↦ absurd hmem List.not_mem_nil
  | assigned _ => exact fun hmem ↦ absurd hmem List.not_mem_nil
  | held hassigned _ hheld =>
    intro hmem
    obtain rfl := List.mem_singleton.mp hmem
    rw [hheld]
    exact ⟨_, rfl, hassigned, rfl⟩
  | confirmed hassigned _ hconfirmed hmatter =>
    intro hmem
    obtain rfl := List.mem_singleton.mp hmem
    rw [hconfirmed]
    exact ⟨_, rfl, hassigned, _, rfl, hmatter.status, hmatter.provider, hmatter.citizen⟩
  | closed houtcome hended _ hstatus =>
    intro hmem
    obtain rfl := List.mem_singleton.mp hmem
    rw [hstatus]
    cases houtcome with
    | declined => exact ⟨_, rfl, hended, rfl⟩
    | cancelled => exact ⟨_, rfl, hended, rfl⟩

/-- What is safe about the bookings after a run from `db`. -/
structure SchedulingSafe (db : Database) (c : EngagementConfig) : Prop where
  bookings : ∀ b ∈ c.shared.store.bookings, c.shared.store.Scheduled b
  /-- Of all requests on one booking at most one commits. -/
  moved_once : ∀ id, (c.shared.history.filter (movesBooking id)).length ≤ 1
  /-- A request that has failed has committed nothing, -/
  failed : ∀ i u e, c.sessions[i]? = some u → u.program = some (.throw e) →
    c.shared.commitsOf i = []
  /-- and only commits change rows. -/
  replays : Replays db c.shared.history c.shared.store

/-- **Scheduling is safe**, in any run. -/
theorem scheduling_safe (hstart : db.Unallocated drawn)
    (hc : EngagementRun config seededKey (engagementStart db clock drawn) c) :
    SchedulingSafe db c := by
  obtain ⟨hinv, hfailed⟩ := engagementRun_invariant hstart hc
  exact ⟨fun b hb ↦ hinv.store.scheduled hb, hinv.once, fun i u e hu he ↦ (hfailed i u e hu he).1,
    Reaches.replays hc⟩

end Scheduling

theorem scheduling_safe_paidRun :
    SchedulingSafe pilotStore ((exec (engagementProgram pilotConfig pilotKey)
      (engagementStart pilotStore 1000000 0) paidRun).get paidRun_possible) :=
  scheduling_safe pilotStore_unallocated (.get _)

/-! ## Capacity

The counters of the members against the allocations that stand, in every reachable state.
-/

section Capacity

variable {config : AppConfig} {seededKey : String → String → String} {db : Database} {clock : ℤ}
  {drawn : ℕ} {c : EngagementConfig}

/-- What is safe about the rosters after a run. -/
structure CapacitySafe (c : EngagementConfig) : Prop where
  counted : ∀ member ∈ c.shared.store.memberships, member.activeMatters =
    c.shared.store.allocations.countP fun a ↦ a.status = .assigned && a.mode = .rotation &&
      a.rosterId = some member.rosterId && a.providerId = member.providerId
  bounded : ∀ member ∈ c.shared.store.memberships,
    0 ≤ member.activeMatters ∧ member.activeMatters ≤ member.capacity
  /-- No update of the scheduling tables misses its row. -/
  released : ∀ u ∈ c.sessions, ∀ status message,
    u.program ≠ some (.throw (.app status "SCHEDULING_STATE_CONFLICT" message))

/-- **Roster capacity is conserved**, in any run. -/
theorem capacity_safe (hstart : db.Unallocated drawn)
    (hc : EngagementRun config seededKey (engagementStart db clock drawn) c) : CapacitySafe c := by
  obtain ⟨hinv, hfailed⟩ := engagementRun_invariant hstart hc
  refine ⟨fun member hmember ↦ (hinv.store.capacity member hmember).1,
    fun member hmember ↦ (hinv.store.capacity member hmember).2, fun u hu status message he ↦ ?_⟩
  obtain ⟨i, hi⟩ := List.mem_iff_getElem?.mp hu
  exact (hfailed i u _ hi he).2 rfl

end Capacity

theorem capacity_safe_rotatedRun :
    CapacitySafe ((exec (engagementProgram pilotConfig pilotKey)
      (engagementStart pilotStore 1000000 0) rotatedRun).get rotatedRun_possible) :=
  capacity_safe pilotStore_unallocated (.get _)

end Nayasetu
