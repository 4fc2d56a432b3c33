import Nayasetu.Engagement.Episode

/-!
# The invariant of the engagements

Each commit of an engagement makes one of a few changes (`Change`), under the locks and with the
sequence numbers the change names. Every change moves at most one episode by one step
(`Change.episodes`), keeps the tables coherent (`Change.coherent`), only adds to what is already
settled (`Change.continues`) and leaves alone what other sessions have locked (`Change.guards`).

## What is coherent

`Coherent` relates the tables to each other. The rows of a directory, the choices and the quotes
belong to requests that were routed to the paid directory; a request has at most one standing
allocation; each allocation with its booking and matter is an episode in one of its states; the
counter of a roster member is the number of places that standing allocations take.

## What a lock keeps

`LockKey.Guards` says for each kind of key what other sessions leave as it is while it is held.
The key of an allocation guards its whole episode, because every route that touches the booking or
the matter locks the allocation first.
-/

namespace Nayasetu

open RowLock Collections

/-- The allocation takes up a place of a member of a roster. -/
def Allocation.Occupies (a : Allocation) (key : ℕ × ℕ) : Bool :=
  a.status = .assigned && a.mode = .rotation && a.rosterId = some key.1 && a.providerId = key.2

/-- The places of a member that are taken. -/
def Database.occupied (db : Database) (key : ℕ × ℕ) : ℕ := db.allocations.countP (·.Occupies key)

/-- The request exists and may be charged for. -/
def Database.PaidNeed (db : Database) (needId : ℕ) : Prop :=
  (∃ need, db.need needId = some need) ∧
    ∃ decision, db.decision needId = some decision ∧ decision.route = .paid

def NeedRequest.Becomes (need need' : NeedRequest) : Prop :=
  need'.citizenUserId = need.citizenUserId

def RosterMembership.Becomes (member member' : RosterMembership) : Prop :=
  member'.capacity = member.capacity

def Allocation.Becomes (a a' : Allocation) : Prop :=
  a'.needRequestId = a.needRequestId ∧ a'.providerId = a.providerId ∧ a'.mode = a.mode ∧
    a'.rosterId = a.rosterId ∧ (a.status ≠ .assigned → a' = a)

def Booking.Becomes (b b' : Booking) : Prop :=
  b'.allocationId = b.allocationId ∧ (b.status ≠ .held → b' = b)

theorem NeedRequest.Becomes.refl (need : NeedRequest) : need.Becomes need := rfl

theorem NeedRequest.Becomes.trans (a b c : NeedRequest) (h₁ : a.Becomes b) (h₂ : b.Becomes c) :
    a.Becomes c := Eq.trans h₂ h₁

theorem RosterMembership.Becomes.refl (member : RosterMembership) : member.Becomes member := rfl

theorem RosterMembership.Becomes.trans (a b c : RosterMembership) (h₁ : a.Becomes b)
    (h₂ : b.Becomes c) : a.Becomes c := Eq.trans h₂ h₁

theorem Allocation.Becomes.refl (a : Allocation) : a.Becomes a := ⟨rfl, rfl, rfl, rfl, fun _ ↦ rfl⟩

theorem Allocation.Becomes.trans (a b c : Allocation) (h₁ : a.Becomes b) (h₂ : b.Becomes c) :
    a.Becomes c := by
  obtain ⟨hneed₁, hprovider₁, hmode₁, hroster₁, hended₁⟩ := h₁
  obtain ⟨hneed₂, hprovider₂, hmode₂, hroster₂, hended₂⟩ := h₂
  refine ⟨hneed₂.trans hneed₁, hprovider₂.trans hprovider₁, hmode₂.trans hmode₁,
    hroster₂.trans hroster₁, fun ha ↦ ?_⟩
  obtain rfl := hended₁ ha
  exact hended₂ ha

theorem Booking.Becomes.refl (b : Booking) : b.Becomes b := ⟨rfl, fun _ ↦ rfl⟩

theorem Booking.Becomes.trans (a b c : Booking) (h₁ : a.Becomes b) (h₂ : b.Becomes c) :
    a.Becomes c := by
  refine ⟨h₂.1.trans h₁.1, fun ha ↦ ?_⟩
  obtain rfl := h₁.2 ha
  exact h₂.2 ha

/-- What no change takes back. -/
structure Continues (db db' : Database) : Prop where
  need : Extends (·.id) NeedRequest.Becomes db.needs db'.needs
  decision : Extends (·.needRequestId) Eq db.decisions db'.decisions
  allocation : Extends (·.id) Allocation.Becomes db.allocations db'.allocations
  booking : Extends (·.id) Booking.Becomes db.bookings db'.bookings
  matter : Extends (·.id) Eq db.matters db'.matters
  member : Extends (·.key) RosterMembership.Becomes db.memberships db'.memberships

theorem Continues.refl (db : Database) : Continues db db where
  need := .refl NeedRequest.Becomes.refl _
  decision := .refl Eq.refl _
  allocation := .refl Allocation.Becomes.refl _
  booking := .refl Booking.Becomes.refl _
  matter := .refl Eq.refl _
  member := .refl RosterMembership.Becomes.refl _

theorem Continues.trans {db₁ db₂ db₃ : Database} (h₁ : Continues db₁ db₂)
    (h₂ : Continues db₂ db₃) : Continues db₁ db₃ where
  need := h₁.need.trans NeedRequest.Becomes.trans h₂.need
  decision := h₁.decision.trans (@Eq.trans _) h₂.decision
  allocation := h₁.allocation.trans Allocation.Becomes.trans h₂.allocation
  booking := h₁.booking.trans Booking.Becomes.trans h₂.booking
  matter := h₁.matter.trans (@Eq.trans _) h₂.matter
  member := h₁.member.trans RosterMembership.Becomes.trans h₂.member

theorem Continues.exists_need {db db' : Database} (hc : Continues db db') {id : ℕ}
    (h : ∃ need, db.need id = some need) : ∃ need, db'.need id = some need := by
  obtain ⟨need, hneed⟩ := h
  obtain ⟨need', hneed', -⟩ := hc.need id need hneed
  exact ⟨need', hneed'⟩

/-- A request that may be charged for always may be. -/
theorem Database.PaidNeed.continues {db db' : Database} {needId : ℕ} (h : db.PaidNeed needId)
    (hc : Continues db db') : db'.PaidNeed needId := by
  obtain ⟨hneed, decision, hdecision, hroute⟩ := h
  obtain ⟨_, hdecision', rfl⟩ := hc.decision needId decision hdecision
  exact ⟨hc.exists_need hneed, _, hdecision', hroute⟩

/-- The quote is for a matter of a request that may be charged for. -/
def Database.PaidQuote (db : Database) (quote : PaymentQuote) : Prop :=
  ∃ matter allocation, db.matter quote.matterId = some matter ∧
    matter.providerId = quote.providerId ∧ db.allocation matter.allocationId = some allocation ∧
    db.PaidNeed allocation.needRequestId

theorem Database.PaidQuote.continues {db db' : Database} {quote : PaymentQuote}
    (h : db.PaidQuote quote) (hc : Continues db db') : db'.PaidQuote quote := by
  obtain ⟨matter, a, hmatter, hprovider, ha, hpaid⟩ := h
  obtain ⟨_, hmatter', rfl⟩ := hc.matter _ matter hmatter
  obtain ⟨a', ha', hneed, -⟩ := hc.allocation _ a ha
  exact ⟨_, a', hmatter', hprovider, ha', hneed ▸ hpaid.continues hc⟩

/-- A rotated allocation takes up a place of a member, a chosen one does not. -/
def Database.Rostered (db : Database) (a : Allocation) : Prop :=
  (a.mode = .citizenChoice → a.rosterId = none) ∧
    (a.mode = .rotation → ∃ rosterId member, a.rosterId = some rosterId ∧
      db.membership (rosterId, a.providerId) = some member)

theorem Database.Rostered.continues {db db' : Database} {a : Allocation} (h : db.Rostered a)
    (hc : Continues db db') : db'.Rostered a := by
  refine ⟨h.1, fun hmode ↦ ?_⟩
  obtain ⟨rosterId, member, hroster, hmember⟩ := h.2 hmode
  obtain ⟨member', hmember', -⟩ := hc.member _ member hmember
  exact ⟨rosterId, member', hroster, hmember'⟩

/-- What holds of every committed store. -/
structure Coherent (db : Database) : Prop where
  need_ids : (db.needs.map (·.id)).Nodup
  decision_ids : (db.decisions.map (·.needRequestId)).Nodup
  allocation_ids : (db.allocations.map (·.id)).Nodup
  booking_ids : (db.bookings.map (·.id)).Nodup
  matter_ids : (db.matters.map (·.id)).Nodup
  member_keys : (db.memberships.map (·.key)).Nodup
  /-- Whoever declares a category is not routed to the paid directory. -/
  routed : ∀ decision ∈ db.decisions, decision.route = .paid → decision.section12Category = none
  decided : ∀ decision ∈ db.decisions, ∃ need, db.need decision.needRequestId = some need
  surfaces : ∀ surface ∈ db.surfaces, db.PaidNeed surface.needRequestId
  chosen : ∀ a ∈ db.allocations, a.mode = .citizenChoice → db.PaidNeed a.needRequestId
  quotes : ∀ quote ∈ db.quotes, db.PaidQuote quote
  rostered : ∀ a ∈ db.allocations, db.Rostered a
  /-- No request has two standing allocations. -/
  one_active : ∀ a ∈ db.allocations, ∀ a' ∈ db.allocations, a.needRequestId = a'.needRequestId →
    a.status = .assigned → a'.status = .assigned → a = a'
  episodes : ∀ id, (db.episode id).Consistent
  /-- The counter of a member counts the places taken. -/
  capacity : ∀ member ∈ db.memberships,
    member.activeMatters = db.occupied member.key ∧ member.ActiveMattersCheck

/-- What stays as it is while another session holds the key. -/
def LockKey.Guards : LockKey → Database → Database → Prop
  | .needRequest id, db, db' => ∀ need, db.need id = some need → db'.need id = some need
  | .rosterMembership key, db, db' => db'.membership key = db.membership key
  | .allocation id, db, db' => ∀ a, db.allocation id = some a → db'.episode id = db.episode id
  | .booking id, db, db' => ∀ b, db.booking id = some b → db'.booking id = some b
  | .oneActiveAllocation needId, db, db' => ∀ a ∈ db'.allocations, a.needRequestId = needId →
    a.status = .assigned →
    ∃ a' ∈ db.allocations, a'.needRequestId = needId ∧ a'.status = .assigned
  | _, _, _ => True

theorem LockKey.Guards.refl (key : LockKey) (db : Database) : key.Guards db db := by
  cases key with
  | needRequest id => exact fun _ h ↦ h
  | rosterMembership key => exact rfl
  | allocation id => exact fun _ _ ↦ rfl
  | booking id => exact fun _ h ↦ h
  | oneActiveAllocation needId => exact fun a ha hneed hassigned ↦ ⟨a, ha, hneed, hassigned⟩
  | _ => exact trivial

theorem LockKey.Guards.trans {key : LockKey} {db₁ db₂ db₃ : Database} (h₁ : key.Guards db₁ db₂)
    (h₂ : key.Guards db₂ db₃) : key.Guards db₁ db₃ := by
  cases key with
  | needRequest id => exact fun need h ↦ h₂ need (h₁ need h)
  | rosterMembership key => exact Eq.trans h₂ h₁
  | allocation id =>
    intro a ha
    have heq := h₁ a ha
    have ha₂ : db₂.allocation id = some a := (congrArg Episode.allocation heq).trans ha
    exact (h₂ a ha₂).trans heq
  | booking id => exact fun b h ↦ h₂ b (h₁ b h)
  | oneActiveAllocation needId =>
    intro a ha hneed hassigned
    obtain ⟨a', ha', hneed', hassigned'⟩ := h₂ a ha hneed hassigned
    exact h₁ a' ha' hneed' hassigned'
  | _ => exact trivial

/-- The number is no identifier of a row. -/
structure Database.Free (db : Database) (n : ℕ) : Prop where
  need : ∀ need ∈ db.needs, need.id ≠ n
  decision : ∀ decision ∈ db.decisions, decision.needRequestId ≠ n
  allocation : ∀ a ∈ db.allocations, a.id ≠ n
  booking : ∀ b ∈ db.bookings, b.id ≠ n
  matter : ∀ m ∈ db.matters, m.id ≠ n

/-! ## Changes

What a commit can do, with a constructor for each kind of route. Rows that are replaced come with
the fact that they were locked, new rows with the number that was drawn for them.
-/

/-- The database with other logs: signals, audit rows and counters of showings. -/
def Database.withLogs (signals : List ConductSignal) (auditEvents : List AuditEvent)
    (counters : List ProviderSurfaceCounter) (db : Database) : Database :=
  { db with
    signals := signals
    auditEvents := auditEvents
    counters := counters }

/-- The membership that gives a place back, if there is one. -/
def Database.releaseMember (member? : Option RosterMembership) (db : Database) : Database :=
  { db with
    memberships := match member? with
      | none => db.memberships
      | some member => replaceBy (·.key) member.release db.memberships }

section Change

variable (held : LockKey → Prop) (drawn : ℕ → Prop) (db : Database)

/-- A new allocation: its number is its own, and no other stands for its request. -/
structure NewAllocation (row : Allocation) : Prop where
  id : drawn row.id
  free : db.Free row.id
  status : row.status = .assigned
  lock : held (.oneActiveAllocation row.needRequestId)
  none_active : ∀ a ∈ db.allocations, a.needRequestId = row.needRequestId → a.status ≠ .assigned

/-- A held booking and its allocation under lock, and what becomes of the booking. -/
structure Moving (bookingId : ℕ) (a : Allocation) (b b' : Booking) (status : BookingStatus) :
    Prop where
  booking : db.booking bookingId = some b
  allocation : db.allocation b.allocationId = some a
  isHeld : b.status = .held
  bookingLock : held (.booking bookingId)
  allocationLock : held (.allocation b.allocationId)
  moved : b.MovedTo b' status

/-- The member whose place an ended allocation gives back. -/
structure Released (a : Allocation) (member? : Option RosterMembership) : Prop where
  unrostered : a.rosterId = none → member? = none
  rostered : ∀ rosterId, a.rosterId = some rosterId → ∃ member, member? = some member ∧
    db.membership (rosterId, a.providerId) = some member ∧
    held (.rosterMembership (rosterId, a.providerId))

/-- What the commit of a request makes of the store. -/
inductive Change : EngagementRequest → Database → Prop where
  | createNeed {actor : ActorContext} {body : NeedBody} {need : NeedRequest}
    {decision : EligibilityDecision} {signals : List ConductSignal}
    {auditEvents : List AuditEvent} {counters : List ProviderSurfaceCounter}
    (hid : drawn need.id) (hfree : db.Free need.id) (hdecision : decision.needRequestId = need.id)
    (hrouted : decision.route = .paid → decision.section12Category = none) :
    Change (.createNeed actor body)
      (((db.insertNeed need).insertDecision decision).withLogs signals auditEvents counters)
  | directory {actor : ActorContext} {needId : ℕ} {query : DirectoryQuery}
    {need need' : NeedRequest} {surfaces : List DirectorySurface} {signals : List ConductSignal}
    {auditEvents : List AuditEvent} {counters : List ProviderSurfaceCounter}
    (hneed : db.need need'.id = some need) (hlock : held (.needRequest need'.id))
    (hcitizen : need'.citizenUserId = need.citizenUserId) (hpaid : db.PaidNeed need'.id)
    (hsurfaces : ∀ surface ∈ surfaces, surface.needRequestId = need'.id) :
    Change (.directory actor needId query)
      ({ db.updateNeed need' with surfaces := db.surfaces ++ surfaces }.withLogs signals auditEvents
        counters)
  | directoryShown {actor : ActorContext} {needId : ℕ} {query : DirectoryQuery} :
    Change (.directory actor needId query) db
  | select {actor : ActorContext} {needId providerId : ℕ} {row : Allocation}
    {signals : List ConductSignal} {auditEvents : List AuditEvent}
    {counters : List ProviderSurfaceCounter} (hnew : NewAllocation held drawn db row)
    (hmode : row.mode = .citizenChoice) (hroster : row.rosterId = none)
    (hpaid : db.PaidNeed row.needRequestId) :
    Change (.select actor needId providerId)
      ((db.insertAllocation row).withLogs signals auditEvents counters)
  | rotate {actor : ActorContext} {needId rosterId : ℕ} {row : Allocation}
    {member : RosterMembership} {timestamp : ℤ} {signals : List ConductSignal}
    {auditEvents : List AuditEvent} {counters : List ProviderSurfaceCounter}
    (hnew : NewAllocation held drawn db row) (hmode : row.mode = .rotation)
    (hroster : row.rosterId = some rosterId)
    (hmember : db.membership (rosterId, row.providerId) = some member)
    (hlock : held (.rosterMembership (rosterId, row.providerId)))
    (hcheck : (member.assign timestamp).ActiveMattersCheck) :
    Change (.rotate actor needId rosterId)
      (((db.insertAllocation row).updateMembership (member.assign timestamp)).withLogs signals
        auditEvents counters)
  | accept {actor : ActorContext} {bookingId : ℕ} {a : Allocation} {b b' : Booking} {m : Matter}
    {signals : List ConductSignal} {auditEvents : List AuditEvent}
    {counters : List ProviderSurfaceCounter} (hmoving : Moving held db bookingId a b b' .confirmed)
    (hid : drawn m.id) (hfree : db.Free m.id) (hallocation : m.allocationId = b.allocationId)
    (hmatter : m.OpenedFor b) :
    Change (.accept actor bookingId)
      (((db.updateBooking b').insertMatter m).withLogs signals auditEvents counters)
  | decline {actor : ActorContext} {bookingId : ℕ} {reasonCode : String} {a a' : Allocation}
    {b b' : Booking} {member? : Option RosterMembership} {signals : List ConductSignal}
    {auditEvents : List AuditEvent} {counters : List ProviderSurfaceCounter}
    (hmoving : Moving held db bookingId a b b' .declined) (hended : a.EndedAs a' .declined)
    (hreleased : Released held db a member?) :
    Change (.decline actor bookingId reasonCode)
      ((((db.updateBooking b').updateAllocation a').releaseMember member?).withLogs signals
        auditEvents counters)
  | cancel {actor : ActorContext} {bookingId : ℕ} {reasonCode : String} {a a' : Allocation}
    {b b' : Booking} {member? : Option RosterMembership} {signals : List ConductSignal}
    {auditEvents : List AuditEvent} {counters : List ProviderSurfaceCounter}
    (hmoving : Moving held db bookingId a b b' .cancelled) (hended : a.EndedAs a' .cancelled)
    (hreleased : Released held db a member?) :
    Change (.cancel actor bookingId reasonCode)
      ((((db.updateBooking b').updateAllocation a').releaseMember member?).withLogs signals
        auditEvents counters)
  | quote {actor : ActorContext} {body : QuoteBody} {row : PaymentQuote}
    {signals : List ConductSignal} {auditEvents : List AuditEvent}
    {counters : List ProviderSurfaceCounter} (hpaid : db.PaidQuote row) :
    Change (.quote actor body) ((db.insertQuote row).withLogs signals auditEvents counters)
  | holdBooking {held' : HeldBooking} {a : Allocation} {row : Booking} (hid : drawn row.id)
    (hfree : db.Free row.id) (ha : db.allocation row.allocationId = some a)
    (hlock : held (.allocation row.allocationId)) (hassigned : a.status = .assigned)
    (hlinked : row.LinkedTo a) (hheld : row.status = .held)
    (hfirst : ∀ other ∈ db.bookings, other.allocationId ≠ row.allocationId) :
    Change (.holdBooking held') (db.insertBooking row)
  | changeRegistry {registry : Registry} :
    Change (.changeRegistry registry) (db.withRegistry registry)

end Change

end Nayasetu
