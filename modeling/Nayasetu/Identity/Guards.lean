import Nayasetu.Engagement.BookingTransactions
import Nayasetu.Engagement.Writes
import Nayasetu.Identity.Delegations
import Nayasetu.Intake.Providers

/-!
# What the routes ask of an actor

Every route looks up whom its object belongs to and lets only those pass who may act for them.
What a route has seen may be out of date when it commits, since a delegation may be closed in the
meantime; what can be said whatever the others do is that the actor was entitled in the stores the
route has met (`Guards`). Besides, a route writes only in the name of its actor.
-/

namespace Nayasetu

open RowLock Collections

/-! ## Evidence

Each notion says that among the stores met there was one in which the rows that entitle the actor
stood. More stores met can only help, so all of them are monotone.
-/

section Evidence

variable (actor : ActorContext) (met : List Database)

/-- The actor is the citizen, or an operator whose delegation for the citizen was seen to be
open. -/
def ActorContext.Entitled (citizenUserId : ℕ) : Prop :=
  (actor.actorType = .citizen ∧ actor.actorId = citizenUserId) ∨
    (actor.actorType = .operator ∧ actor.onBehalfOfCitizenId = some citizenUserId ∧
      ∃ s ∈ met, ∃ delegation ∈ s.delegations, delegation.Permits actor citizenUserId)

/-- The request for help was seen to be that of a citizen the actor may act for. -/
def ActorContext.EntitledToNeed (needId : ℕ) : Prop :=
  ∃ s ∈ met, ∃ need ∈ s.needs, need.id = needId ∧ actor.Entitled met need.citizenUserId

/-- An institution was seen to hold a grant on the roster. -/
def ActorContext.GrantedRoster (rosterId : ℕ) : Prop :=
  actor.actorType = .institution ∧ ∃ s ∈ met, ∃ timestamp, ∃ grant ∈ s.rosterGrants,
    grant.Permits actor rosterId "rosters:allocate" timestamp

/-- The booking was seen to be of a provider whose user is the actor. -/
def ActorContext.ProvidesBooking (bookingId : ℕ) : Prop :=
  actor.actorType = .provider ∧ ∃ s ∈ met, ∃ booking ∈ s.bookings, booking.id = bookingId ∧
    ∃ s' ∈ met, ∃ provider ∈ s'.providers, provider.id = booking.providerId ∧
      provider.userId = actor.actorId

/-- The booking was seen to be for a request of a citizen the actor may act for. -/
def ActorContext.EntitledToBooking (bookingId : ℕ) : Prop :=
  ∃ s ∈ met, ∃ booking ∈ s.bookings, booking.id = bookingId ∧
    ∃ s' ∈ met, ∃ need ∈ s'.needs, need.id = booking.needRequestId ∧
      actor.Entitled met need.citizenUserId

/-- The matter was seen to be of a provider whose user is the actor. -/
def ActorContext.ProvidesMatter (matterId : ℕ) : Prop :=
  ∃ s ∈ met, ∃ matter ∈ s.matters, matter.id = matterId ∧
    ∃ provider ∈ s.providers, provider.id = matter.providerId ∧ provider.userId = actor.actorId

/-- The matter was seen to be one the actor takes part in or, if it is an operator, may act in for
the citizen. -/
def ActorContext.EntitledToMatter (matterId : ℕ) : Prop :=
  (actor.actorType ≠ .operator ∧ actor.ProvidesMatter met matterId) ∨
    ∃ s ∈ met, ∃ matter ∈ s.matters, matter.id = matterId ∧
      ((actor.actorType ≠ .operator ∧ actor.actorId = matter.citizenUserId) ∨
        actor.Entitled met matter.citizenUserId)

/-- The matter was seen to be one the actor provides, or is entitled to for its citizen. -/
def ActorContext.AccessesMatter (matterId : ℕ) : Prop :=
  (actor.actorType = .provider ∧ actor.ProvidesMatter met matterId) ∨
    ∃ s ∈ met, ∃ matter ∈ s.matters, matter.id = matterId ∧
      actor.Entitled met matter.citizenUserId

variable {actor} {met} {met' : List Database}

theorem ActorContext.Entitled.mono (hmet : met ⊆ met') {citizenUserId : ℕ}
    (h : actor.Entitled met citizenUserId) : actor.Entitled met' citizenUserId := by
  refine h.imp_right fun ⟨hrole, hcitizen, s, hs, hdelegation⟩ ↦ ?_
  exact ⟨hrole, hcitizen, s, hmet hs, hdelegation⟩

theorem ActorContext.EntitledToNeed.mono (hmet : met ⊆ met') {needId : ℕ}
    (h : actor.EntitledToNeed met needId) : actor.EntitledToNeed met' needId := by
  obtain ⟨s, hs, need, hneed, hid, hentitled⟩ := h
  exact ⟨s, hmet hs, need, hneed, hid, hentitled.mono hmet⟩

theorem ActorContext.GrantedRoster.mono (hmet : met ⊆ met') {rosterId : ℕ}
    (h : actor.GrantedRoster met rosterId) : actor.GrantedRoster met' rosterId := by
  obtain ⟨hrole, s, hs, hgrant⟩ := h
  exact ⟨hrole, s, hmet hs, hgrant⟩

theorem ActorContext.ProvidesBooking.mono (hmet : met ⊆ met') {bookingId : ℕ}
    (h : actor.ProvidesBooking met bookingId) : actor.ProvidesBooking met' bookingId := by
  obtain ⟨hrole, s, hs, booking, hbooking, hid, s', hs', hprovider⟩ := h
  exact ⟨hrole, s, hmet hs, booking, hbooking, hid, s', hmet hs', hprovider⟩

theorem ActorContext.EntitledToBooking.mono (hmet : met ⊆ met') {bookingId : ℕ}
    (h : actor.EntitledToBooking met bookingId) : actor.EntitledToBooking met' bookingId := by
  obtain ⟨s, hs, booking, hbooking, hid, s', hs', need, hneed, hneedId, hentitled⟩ := h
  exact ⟨s, hmet hs, booking, hbooking, hid, s', hmet hs', need, hneed, hneedId,
    hentitled.mono hmet⟩

theorem ActorContext.ProvidesMatter.mono (hmet : met ⊆ met') {matterId : ℕ}
    (h : actor.ProvidesMatter met matterId) : actor.ProvidesMatter met' matterId := by
  obtain ⟨s, hs, hmatter⟩ := h
  exact ⟨s, hmet hs, hmatter⟩

end Evidence

/-! ## Writing in the name of the actor

An audit row names its actor, and the citizen and delegation the actor came with. A request for
help is filed under that delegation, and later writes keep what it was filed under.
-/

def AuditEvent.SignedBy (event : AuditEvent) (actor : ActorContext) : Prop :=
  event.actorId = actor.actorId ∧ (event.delegationId = none ∨
    (event.delegationId = actor.delegationId ∧ event.onBehalfOfUserId = actor.onBehalfOfCitizenId))

/-- Two rows about a request of the same citizen, filed under the same delegation. -/
def NeedRequest.FiledAs (need other : NeedRequest) : Prop :=
  need.citizenUserId = other.citizenUserId ∧ need.operatorDelegationId = other.operatorDelegationId

/-- The request is filed by the actor, for a citizen the actor may act for. -/
def NeedRequest.FiledBy (need : NeedRequest) (actor : ActorContext) (met : List Database) : Prop :=
  need.operatorDelegationId = actor.delegationId ∧ actor.Entitled met need.citizenUserId

/-- The write leaves the delegations alone, signs its audit rows for the actor, and files no request
for help but for a citizen the actor may act for. -/
structure ActsAs (actor : ActorContext) (met : List Database) (f : Database → Database) : Prop where
  delegations : ∀ db, (f db).delegations = db.delegations
  audit : ∀ db, ∃ events, (f db).auditEvents = db.auditEvents ++ events ∧
    ∀ event ∈ events, event.SignedBy actor
  needs : ∀ db, ∀ need ∈ (f db).needs,
    (∃ s ∈ db :: met, ∃ other ∈ s.needs, need.FiledAs other) ∨ need.FiledBy actor met

namespace ActsAs

variable {actor : ActorContext} {met met' : List Database} {f g : Database → Database}

theorem mono (hmet : met ⊆ met') (h : ActsAs actor met f) : ActsAs actor met' f where
  delegations := h.delegations
  audit := h.audit
  needs db need hneed := by
    refine (h.needs db need hneed).imp (fun ⟨s, hs, hother⟩ ↦ ⟨s, ?_, hother⟩)
      fun ⟨hdelegation, hentitled⟩ ↦ ⟨hdelegation, hentitled.mono hmet⟩
    exact List.cons_subset_cons db hmet hs

theorem comp (f g : Database → Database) (hf : ActsAs actor met f) (hg : ActsAs actor met g) :
    ActsAs actor met (f ∘ g) where
  delegations db := (hf.delegations (g db)).trans (hg.delegations db)
  audit db := by
    obtain ⟨events, hevents, hsigned⟩ := hf.audit (g db)
    obtain ⟨events', hevents', hsigned'⟩ := hg.audit db
    refine ⟨events' ++ events, ?_, List.forall_mem_append.mpr ⟨hsigned', hsigned⟩⟩
    rw [Function.comp_apply, hevents, hevents', List.append_assoc]
  needs db need hneed := by
    rcases hf.needs (g db) need hneed with ⟨s, hs, other, hother, hsame⟩ | hfiled
    · rcases List.mem_cons.mp hs with rfl | hs
      · rcases hg.needs db other hother with ⟨s, hs, other', hother', hsame'⟩ | hfiled
        · exact .inl ⟨s, hs, other', hother', hsame.1.trans hsame'.1, hsame.2.trans hsame'.2⟩
        · refine .inr ⟨hsame.2.trans hfiled.1, ?_⟩
          rw [hsame.1]
          exact hfiled.2
      · exact .inl ⟨s, List.mem_cons_of_mem db hs, other, hother, hsame⟩
    · exact .inr hfiled

/-- A write of other tables. -/
theorem other (hdelegations : ∀ db, (f db).delegations = db.delegations)
    (haudit : ∀ db, (f db).auditEvents = db.auditEvents) (hneeds : ∀ db, (f db).needs = db.needs) :
    ActsAs actor met f where
  delegations := hdelegations
  audit db := ⟨[], (haudit db).trans (List.append_nil _).symm, List.forall_mem_nil _⟩
  needs db need hneed :=
    .inl ⟨db, List.mem_cons_self, need, hneeds db ▸ hneed, rfl, rfl⟩

theorem nothing : ActsAs actor met id := other (fun _ ↦ rfl) (fun _ ↦ rfl) fun _ ↦ rfl

theorem insertAudit {events : List AuditEvent} (h : ∀ event ∈ events, event.SignedBy actor) :
    ActsAs actor met (Database.insertAudit events) where
  delegations _ := rfl
  audit _ := ⟨events, rfl, h⟩
  needs db need hneed := .inl ⟨db, List.mem_cons_self, need, hneed, rfl, rfl⟩

theorem audit_input (input : AuditInput) :
    ActsAs actor met (Database.insertAudit [auditEvent actor input]) :=
  insertAudit fun _ h ↦ List.mem_singleton.mp h ▸ ⟨rfl, .inr ⟨rfl, rfl⟩⟩

theorem insertNeed {row : NeedRequest} (h : row.FiledBy actor met) :
    ActsAs actor met (Database.insertNeed row) where
  delegations _ := rfl
  audit db := ⟨[], (List.append_nil _).symm, List.forall_mem_nil _⟩
  needs db need hneed := by
    rcases List.mem_append.mp hneed with hneed | hneed
    · exact .inl ⟨db, List.mem_cons_self, need, hneed, rfl, rfl⟩
    · exact .inr (List.mem_singleton.mp hneed ▸ h)

/-- A request that was seen before is changed. -/
theorem updateNeed {row : NeedRequest} (h : ∃ s ∈ met, ∃ other ∈ s.needs, row.FiledAs other) :
    ActsAs actor met (Database.updateNeed row) where
  delegations _ := rfl
  audit db := ⟨[], (List.append_nil _).symm, List.forall_mem_nil _⟩
  needs db need hneed := by
    rcases mem_replaceBy hneed with rfl | hneed
    · obtain ⟨s, hs, hother⟩ := h
      exact .inl ⟨s, List.mem_cons_of_mem db hs, hother⟩
    · exact .inl ⟨db, List.mem_cons_self, need, hneed.1, rfl, rfl⟩

theorem routeWrites : RouteWrites (ActsAs actor met) where
  decision _ := other (fun _ ↦ rfl) (fun _ ↦ rfl) fun _ ↦ rfl
  surface _ := other (fun _ ↦ rfl) (fun _ ↦ rfl) fun _ ↦ rfl
  counter _ := other (fun _ ↦ rfl) (fun _ ↦ rfl) fun _ ↦ rfl
  allocation _ := other (fun _ ↦ rfl) (fun _ ↦ rfl) fun _ ↦ rfl
  endedAllocation _ := other (fun _ ↦ rfl) (fun _ ↦ rfl) fun _ ↦ rfl
  membership _ := other (fun _ ↦ rfl) (fun _ ↦ rfl) fun _ ↦ rfl
  booking _ := other (fun _ ↦ rfl) (fun _ ↦ rfl) fun _ ↦ rfl
  movedBooking _ := other (fun _ ↦ rfl) (fun _ ↦ rfl) fun _ ↦ rfl
  matter _ := other (fun _ ↦ rfl) (fun _ ↦ rfl) fun _ ↦ rfl

end ActsAs

end Nayasetu
