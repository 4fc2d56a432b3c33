import Nayasetu.Identity.Guards
import Nayasetu.Intake.Routing

/-!
# Walks through the routes

The routes on the database pass their guards before they write: each commits, and answers, only with
evidence that its actor is entitled, and a route that fails has committed nothing.

A walk goes through the statements in order and collects the stores they met. The rules at the
beginning are about the statements that several routes share: the check of the authority over a
citizen, the lookup of a request under a lock. After its guard a route may do anything that writes
in the name of its actor, and what it does there need not be followed step by step.
-/

namespace Nayasetu

open RowLock Collections

def CommitsAs (actor : ActorContext) (P : List Database → Prop) (w : Trace Database) : Prop :=
  P w.met ∧ ActsAs actor w.met w.pending

/-- The route answers and commits only on the evidence `P`, it commits in the name of the actor, and
nothing if it fails. -/
def Guards (actor : ActorContext) (P : List Database → Prop) {α : Type} (route : Tx α) : Prop :=
  ∀ w, w.pending = id → w.committed = false →
    route.Traced (CommitsAs actor P) (fun _ w ↦ P w.met) (fun _ w ↦ w.committed = false) w

section Rules

variable {actor : ActorContext} {P : List Database → Prop} {α β : Type} {w : Trace Database}
  {citizenUserId : ℕ}

theorem guards_ensure_bind {condition : Prop} [Decidable condition] {failure : Failure}
    {f : Unit → Tx α} (h : condition → Guards actor P (f ())) :
    Guards actor P (ensure condition failure >>= f) := fun w hp hc ↦
  traced_bind (traced_require (fun hcondition ↦ h hcondition w hp hc) hc)

theorem guards_map {p : Tx α} {f : α → β} (h : Guards actor P p) :
    Guards actor P (p >>= fun a ↦ pure (f a)) := fun w hp hc ↦ traced_bind (h w hp hc)

/-- The walk through a transaction, up to its commit. -/
def WalksAs (actor : ActorContext) (P : List Database → Prop) (operation : Tx α)
    (w : Trace Database) : Prop :=
  operation.Traced (CommitsAs actor P) (fun _ w ↦ CommitsAs actor P w)
    (fun _ w ↦ w.committed = false) w

theorem traced_withTransaction {operation : ℤ → Tx α} (hp : w.pending = id)
    (h : ∀ t w', w.Onward w' → w'.pending = id →
      WalksAs actor P (operation t) w') :
    (withTransaction operation).Traced (CommitsAs actor P) (fun _ w ↦ P w.met)
      (fun _ w ↦ w.committed = false) w := by
  refine traced_transaction fun t ht ↦ ?_
  have honward : w.Onward { w with clock := t } := .now ht
  exact traced_mono (fun _ h ↦ h) (fun _ _ h ↦ ⟨h, h.1⟩) (fun _ _ h ↦ h) (h t _ honward hp)

theorem guards_withTransaction {operation : ℤ → Tx α}
    (h : ∀ t w, w.pending = id → w.committed = false → WalksAs actor P (operation t) w) :
    Guards actor P (withTransaction operation) := fun _ hp hc ↦
  traced_withTransaction hp fun t w' honward hp' ↦ h t w' hp' (honward.committed.trans hc)

theorem walksAs_ensure_bind {condition : Prop} [Decidable condition] {failure : Failure}
    {f : Unit → Tx α} (hc : w.committed = false) (h : condition → WalksAs actor P (f ()) w) :
    WalksAs actor P (ensure condition failure >>= f) w := traced_bind (traced_require h hc)

/-- Once the guards are passed, the rest of a transaction has to write in the name of the actor. -/
theorem walksAs_rest {operation : Tx α} (hmono : ∀ l l', l ⊆ l' → P l → P l') (hP : P w.met)
    (hp : w.pending = id) (hc : w.committed = false) (h : operation.Writes (ActsAs actor w.met)) :
    WalksAs actor P operation w := by
  refine traced_mono (fun _ h ↦ h) (fun _ w' hw' ↦ ?_) (fun _ w' hw' ↦ hw'.committed.trans hc)
    (traced_of_writes ActsAs.comp h (hp ▸ ActsAs.nothing))
  exact ⟨hmono _ _ hw'.1.met.subset hP, hw'.2.mono hw'.1.met.subset⟩

theorem traced_assertCitizenAuthority {C : Trace Database → Prop}
    {Q : Unit → Trace Database → Prop} {E : Failure → Trace Database → Prop} (hp : w.pending = id)
    (h : ∀ w', w.Onward w' → w'.pending = id → actor.Entitled w'.met citizenUserId → Q () w')
    (hE : ∀ e w', w.Onward w' → E e w') :
    (assertCitizenAuthority actor citizenUserId).Traced C Q E w := by
  rw [assertCitizenAuthority]
  split
  next hrole =>
    exact traced_require (fun hid ↦ h w (.refl _) hp (.inl ⟨hrole, hid⟩)) (hE _ _ (.refl _))
  next =>
    refine traced_bind (traced_require (fun hoperator ↦ ?_) (hE _ _ (.refl _)))
    refine traced_bind (traced_snapshot fun s ↦ traced_require (fun hdelegation ↦ ?_)
      (hE _ _ (.meet s w)))
    rw [hp] at hdelegation
    exact h _ (.meet s w) hp (.inr ⟨hoperator.1, hoperator.2.1, s, List.mem_cons_self, hdelegation⟩)

theorem walksAs_assertCitizenAuthority_bind {f : Unit → Tx α} (hp : w.pending = id)
    (hc : w.committed = false) (h : ∀ w', w.Onward w' → w'.pending = id →
      actor.Entitled w'.met citizenUserId → WalksAs actor P (f ()) w') :
    WalksAs actor P (assertCitizenAuthority actor citizenUserId >>= f) w :=
  traced_bind (traced_assertCitizenAuthority hp h fun _ _ honward ↦ honward.committed.trans hc)

/-- A request for help that is locked was seen. -/
theorem walksAs_selectNeedForUpdate_bind {needId : ℕ}
    {f : Option (NeedRequest × EligibilityDecision) → Tx α} (hp : w.pending = id)
    (hnone : ∀ w', w.Onward w' → WalksAs actor P (f none) w')
    (h : ∀ w' s need decision, w.Onward w' → w'.pending = id → s ∈ w'.met → need ∈ s.needs →
      need.id = needId → WalksAs actor P (f (some (need, decision))) w') :
    WalksAs actor P (selectNeedForUpdate needId >>= f) w := by
  refine traced_bind (traced_bind (traced_snapshot fun s ↦ ?_))
  cases (w.pending s).needWithRoute needId with
  | none => exact traced_pure (hnone _ (.meet s w))
  | some found =>
    refine traced_bind (traced_lock fun s₁ ↦ traced_bind (traced_lock fun s₂ ↦ traced_pure ?_))
    have honward : w.Onward (((w.meet s).meet s₁).meet s₂) :=
      ((Trace.Onward.meet s w).trans (.meet s₁ _)).trans (.meet s₂ _)
    change WalksAs actor P (f ((w.pending s₂).needWithRoute needId)) _
    rw [hp]
    cases hneed : s₂.needWithRoute needId with
    | none =>
      rw [id, hneed]
      exact hnone _ honward
    | some row =>
      obtain ⟨need, decision⟩ := row
      obtain ⟨hlookup, hid, -⟩ := needWithRoute_eq_some hneed
      rw [id, hneed]
      exact h _ s₂ need decision honward hp List.mem_cons_self (lookupBy_mem hlookup).1 hid

end Rules

/-! ## Requests for help

The route that stores a request checks the authority inside its transaction, before it writes.
-/

section Needs

variable {actor : ActorContext} {config : AppConfig} {needId : ℕ}

theorem entitledToNeed_mono (l l' : List Database) (h : l ⊆ l') :
    actor.EntitledToNeed l needId → actor.EntitledToNeed l' needId := (·.mono h)

theorem writes_storedCeiling {W : (Database → Database) → Prop} {feeCeiling : Option ℚ} :
    (storedCeiling feeCeiling).Writes W := by
  cases feeCeiling with
  | none => exact writes_pure
  | some amount => exact writes_bind writes_toMoney fun _ ↦ writes_pure

theorem guards_createNeed {body : NeedBody} :
    Guards actor (actor.Entitled · body.citizenUserId) (createNeed config actor body) := by
  refine guards_ensure_bind fun _ ↦ guards_ensure_bind fun _ ↦ ?_
  cases body.taxonomyCode with
  | none => exact fun _ _ hc ↦ traced_throw hc
  | some taxonomyCode =>
    refine guards_ensure_bind fun _ ↦ guards_ensure_bind fun _ ↦ guards_ensure_bind fun _ ↦ ?_
    refine guards_map (guards_withTransaction fun t w hp hc ↦ ?_)
    rw [createNeedInTransaction_eq]
    refine walksAs_assertCitizenAuthority_bind hp hc fun w₁ hw₁ hp₁ hentitled ↦ ?_
    refine walksAs_rest (fun _ _ h hP ↦ hP.mono h) hentitled hp₁ (hw₁.committed.trans hc) ?_
    refine writes_bind writes_ensure fun _ ↦ writes_bind writes_storedCeiling fun _ ↦ ?_
    refine writes_bind writes_nextval fun n ↦ ?_
    refine writes_bind (writes_write (.insertNeed ⟨rfl, hentitled⟩)) fun _ ↦ ?_
    refine writes_bind writes_ensure fun _ ↦ ?_
    refine writes_bind (writes_write (ActsAs.routeWrites.decision _)) fun _ ↦ ?_
    exact writes_bind (writes_write (.audit_input _)) fun _ ↦ writes_pure

theorem guards_referral : Guards actor (actor.EntitledToNeed · needId) (referral actor needId) := by
  refine guards_ensure_bind fun _ w hp hc ↦ traced_bind (traced_snapshot fun s ↦ ?_)
  rw [hp, id]
  cases hneed : s.needWithRoute needId with
  | none => exact traced_throw hc
  | some found =>
    obtain ⟨need, decision⟩ := found
    obtain ⟨hlookup, hid, -⟩ := needWithRoute_eq_some hneed
    refine traced_bind (traced_assertCitizenAuthority hp (fun w₁ hw₁ _ hentitled ↦ ?_)
      fun _ _ honward ↦ honward.committed.trans hc)
    refine traced_bind (traced_require (fun _ ↦ traced_pure ?_) (hw₁.committed.trans hc))
    exact ⟨s, hw₁.mem List.mem_cons_self, need, (lookupBy_mem hlookup).1, hid, hentitled⟩

/-! ## The directory and the allocations -/

theorem guards_directory {seededKey : String → String → String} {query : DirectoryQuery} :
    Guards actor (actor.EntitledToNeed · needId)
      (directory config seededKey actor needId query) := by
  refine guards_ensure_bind fun _ ↦ guards_ensure_bind fun _ w hp hc ↦ ?_
  refine traced_bind (traced_snapshot fun s ↦ ?_)
  rw [hp, id]
  cases hneed : s.needWithRoute needId with
  | none => exact traced_throw hc
  | some found =>
    obtain ⟨need, decision⟩ := found
    obtain ⟨hlookup, hid, -⟩ := needWithRoute_eq_some hneed
    refine traced_bind (traced_assertCitizenAuthority hp (fun w₁ hw₁ hp₁ hentitled ↦ ?_)
      fun _ _ honward ↦ honward.committed.trans hc)
    have hc₁ := hw₁.committed.trans hc
    refine traced_bind (traced_require (fun _ ↦ ?_) hc₁)
    refine traced_bind (traced_require (fun _ ↦ ?_) hc₁)
    refine traced_bind (traced_withTransaction hp₁ fun t w₂ hw₂ hp₂ ↦ ?_)
    refine walksAs_assertCitizenAuthority_bind hp₂ (hw₂.committed.trans hc₁) fun w₃ hw₃ hp₃ _ ↦ ?_
    have hw := hw₂.trans hw₃
    refine traced_bind (traced_selectForUpdate fun w₄ s₄ hw₄ hp₄ hs₄ ↦ ?_)
    have hc₄ := ((hw₁.trans hw).trans hw₄).committed.trans hc
    have hP : actor.EntitledToNeed w₄.met needId :=
      ⟨s, ((hw₁.trans hw).trans hw₄).mem List.mem_cons_self, need, (lookupBy_mem hlookup).1, hid,
        hentitled.mono (hw.trans hw₄).met.subset⟩
    rw [hp₃, id]
    cases hstate : s₄.need need.id with
    | none => exact traced_throw hc₄
    | some state =>
      refine walksAs_rest entitledToNeed_mono hP (hp₄.trans hp₃) hc₄ ?_
      refine writes_bind writes_ensure fun _ ↦ writes_ite ?_ ?_
      · exact writes_bind writes_snapshot fun _ ↦ writes_pure
      · refine writes_generateDirectory ActsAs.routeWrites .audit_input fun row hcitizen hfiled ↦ ?_
        exact .updateNeed ⟨s₄, hs₄, state, (lookupBy_mem hstate).1, hcitizen, hfiled⟩

theorem guards_select {providerId : ℕ} :
    Guards actor (actor.EntitledToNeed · needId) (select config actor needId providerId) := by
  refine guards_ensure_bind fun _ ↦ guards_withTransaction fun t w hp hc ↦ ?_
  refine walksAs_selectNeedForUpdate_bind hp (fun _ hw' ↦ traced_throw (hw'.committed.trans hc))
    fun w₁ s need decision hw₁ hp₁ hs hneed hid ↦ ?_
  have hc₁ := hw₁.committed.trans hc
  refine walksAs_assertCitizenAuthority_bind hp₁ hc₁ fun w₂ hw₂ hp₂ hentitled ↦ ?_
  refine walksAs_rest entitledToNeed_mono ⟨s, hw₂.mem hs, need, hneed, hid, hentitled⟩ hp₂
    (hw₂.committed.trans hc₁) ?_
  refine writes_bind writes_ensure fun _ ↦ writes_bind writes_snapshot fun db ↦ ?_
  cases (db.surfacesOf need.id).find? (·.providerId = providerId) with
  | none => exact writes_throw
  | some surfaced =>
    dsimp only
    split
    · refine writes_bind writes_selectEligibleProvider fun _ ↦ writes_bind writes_ensure fun _ ↦ ?_
      refine writes_bind (writes_insertAllocation fun _ ↦ ActsAs.routeWrites.allocation _)
        fun _ ↦ ?_
      exact writes_bind (writes_write (.audit_input _)) fun _ ↦ writes_pure
    · exact writes_throw

/-- A grant that lets an institution pass was seen. -/
theorem traced_assertInstitutionalRosterGrant {C : Trace Database → Prop}
    {Q : Unit → Trace Database → Prop} {E : Failure → Trace Database → Prop} {w : Trace Database}
    {rosterId : ℕ} {timestamp : ℤ} (hrole : actor.actorType = .institution) (hp : w.pending = id)
    (h : ∀ w', w.Onward w' → w'.pending = id → actor.GrantedRoster w'.met rosterId → Q () w')
    (hE : ∀ e w', w.Onward w' → E e w') :
    (assertInstitutionalRosterGrant actor rosterId "rosters:allocate" timestamp).Traced C Q E
      w := by
  rw [assertInstitutionalRosterGrant, if_neg (by rw [hrole]; decide)]
  refine traced_bind (traced_require (fun _ ↦ ?_) (hE _ _ (.refl _)))
  refine traced_bind (traced_require (fun _ ↦ ?_) (hE _ _ (.refl _)))
  refine traced_bind (traced_snapshot fun s ↦ traced_require (fun hgrant ↦ ?_) (hE _ _ (.meet s w)))
  rw [hp] at hgrant
  exact h _ (.meet s w) hp ⟨hrole, s, List.mem_cons_self, timestamp, hgrant⟩

theorem guards_rotate {rosterId : ℕ} : Guards actor
    (fun met ↦ actor.EntitledToNeed met needId ∨ actor.GrantedRoster met rosterId)
    (rotate config actor needId rosterId) := by
  refine guards_ensure_bind fun _ ↦ guards_withTransaction fun t w hp hc ↦ ?_
  refine walksAs_selectNeedForUpdate_bind hp (fun _ hw' ↦ traced_throw (hw'.committed.trans hc))
    fun w₁ s need decision hw₁ hp₁ hs hneed hid ↦ ?_
  have hc₁ := hw₁.committed.trans hc
  refine traced_ite_bind (fun _ w₂ ↦ w₁.Onward w₂ ∧ w₂.pending = id ∧
    (actor.EntitledToNeed w₂.met needId ∨ actor.GrantedRoster w₂.met rosterId)) (fun _ ↦ ?_)
    (fun hrole ↦ ?_) fun _ w₂ ⟨hw₂, hp₂, hP⟩ ↦ ?_
  · refine traced_assertCitizenAuthority hp₁ (fun w₂ hw₂ hp₂ hentitled ↦ ?_)
      fun _ _ hw₂ ↦ hw₂.committed.trans hc₁
    exact ⟨hw₂, hp₂, .inl ⟨s, hw₂.mem hs, need, hneed, hid, hentitled⟩⟩
  · refine traced_assertInstitutionalRosterGrant (not_not.mp hrole) hp₁
      (fun w₂ hw₂ hp₂ hgrant ↦ ?_) fun _ _ hw₂ ↦ hw₂.committed.trans hc₁
    exact ⟨hw₂, hp₂, .inr hgrant⟩
  · refine walksAs_rest (fun _ _ h hP ↦ hP.imp (·.mono h) (·.mono h)) hP hp₂
      (hw₂.committed.trans hc₁) ?_
    refine writes_bind writes_ensure fun _ ↦ writes_bind writes_ensure fun _ ↦ ?_
    refine writes_bind writes_selectMember fun member ↦ ?_
    cases member with
    | none => exact writes_throw
    | some providerId =>
      refine writes_bind (writes_insertAllocation fun _ ↦ ActsAs.routeWrites.allocation _)
        fun _ ↦ ?_
      refine writes_bind (writes_assignMember ActsAs.routeWrites.membership) fun _ ↦ ?_
      exact writes_bind (writes_write (.audit_input _)) fun _ ↦ writes_pure

end Needs

/-! ## Bookings

A booking is read with its allocation and its request (`SeenBooking`), which say whose it is.
-/

section Bookings

variable {actor : ActorContext} {bookingId : ℕ}

/-- What is seen of a locked booking: its row, its provider and its request. -/
structure SeenBooking (bookingId : ℕ) (locked : LockedBooking) (met : List Database) : Prop where
  provider : ∃ s ∈ met, ∃ booking ∈ s.bookings, booking.id = bookingId ∧
    ∃ s' ∈ met, ∃ provider ∈ s'.providers, provider.id = booking.providerId ∧
      provider.userId = locked.providerUserId
  need : ∃ s ∈ met, ∃ booking ∈ s.bookings, booking.id = bookingId ∧
    ∃ s' ∈ met, ∃ need ∈ s'.needs, need.id = booking.needRequestId ∧
      need.citizenUserId = locked.citizenUserId

theorem walksAs_bookingForUpdate_bind {P : List Database → Prop} {α : Type} {w : Trace Database}
    {f : LockedBooking → Tx α} (hp : w.pending = id) (hc : w.committed = false)
    (h : ∀ w' booking, w.Onward w' → w'.pending = id → SeenBooking bookingId booking w'.met →
      WalksAs actor P (f booking) w') :
    WalksAs actor P (bookingForUpdate bookingId >>= f) w := by
  refine traced_bind (traced_bind (traced_bind (traced_snapshot fun s ↦ ?_)))
  dsimp only
  rw [hp, id]
  split
  next => exact traced_pure (traced_throw hc)
  next b₀ provider a₀ need hjoin =>
    simp only [Option.bind_eq_bind, Option.bind_eq_some_iff] at hjoin
    obtain ⟨b₁, hb₁, provider₁, hprovider, a₁, -, need₁, hneed, heq⟩ := hjoin
    cases heq
    refine traced_bind (traced_lock fun s₁ ↦ traced_bind (traced_lock fun s₂ ↦ traced_pure ?_))
    have honward : w.Onward (((w.meet s).meet s₁).meet s₂) :=
      ((Trace.Onward.meet s w).trans (.meet s₁ _)).trans (.meet s₂ _)
    have hpending : ((w.meet s).meet s₁).pending = id := hp
    rw [hpending, id]
    split
    next => exact traced_throw hc
    next booking hfound =>
      refine traced_pure (h _ booking honward hp ?_)
      simp only [Option.bind_eq_bind, Option.bind_eq_some_iff] at hfound
      obtain ⟨b, hb, a, -, hjoin⟩ := hfound
      rw [joinBooking] at hjoin
      split at hjoin
      next hsame =>
        cases hjoin
        obtain ⟨hb, hid⟩ := lookupBy_mem hb
        obtain ⟨-, hid₁⟩ := lookupBy_mem hb₁
        have hs : s ∈ (((w.meet s).meet s₁).meet s₂).met :=
          List.mem_cons_of_mem _ (List.mem_cons_of_mem _ List.mem_cons_self)
        exact ⟨⟨s₂, List.mem_cons_self, b, hb, hid.trans hid₁, s, hs, provider,
            (lookupBy_mem hprovider).1, hsame.1, rfl⟩,
          ⟨s₂, List.mem_cons_self, b, hb, hid.trans hid₁, s, hs, need,
            (lookupBy_mem hneed).1, hsame.2.2, rfl⟩⟩
      next => cases hjoin

theorem SeenBooking.mono {locked : LockedBooking} {met met' : List Database} (hmet : met ⊆ met')
    (h : SeenBooking bookingId locked met) : SeenBooking bookingId locked met' where
  provider := by
    obtain ⟨s, hs, booking, hbooking, hid, s', hs', hprovider⟩ := h.provider
    exact ⟨s, hmet hs, booking, hbooking, hid, s', hmet hs', hprovider⟩
  need := by
    obtain ⟨s, hs, booking, hbooking, hid, s', hs', hneed⟩ := h.need
    exact ⟨s, hmet hs, booking, hbooking, hid, s', hmet hs', hneed⟩

theorem SeenBooking.provides {locked : LockedBooking} {met : List Database}
    (h : SeenBooking bookingId locked met) (hrole : actor.actorType = .provider)
    (huser : locked.providerUserId = actor.actorId) : actor.ProvidesBooking met bookingId := by
  obtain ⟨s, hs, booking, hbooking, hid, s', hs', provider, hprovider, hproviderId, huser'⟩ :=
    h.provider
  exact ⟨hrole, s, hs, booking, hbooking, hid, s', hs', provider, hprovider, hproviderId,
    huser'.trans huser⟩

theorem SeenBooking.entitled {locked : LockedBooking} {met : List Database}
    (h : SeenBooking bookingId locked met) (hentitled : actor.Entitled met locked.citizenUserId) :
    actor.EntitledToBooking met bookingId := by
  obtain ⟨s, hs, booking, hbooking, hid, s', hs', need, hneed, hneedId, hcitizen⟩ := h.need
  exact ⟨s, hs, booking, hbooking, hid, s', hs', need, hneed, hneedId, hcitizen ▸ hentitled⟩

theorem guards_accept : Guards actor (actor.ProvidesBooking · bookingId)
    (accept actor bookingId) := by
  refine guards_ensure_bind fun hrole ↦ guards_withTransaction fun t w hp hc ↦ ?_
  refine walksAs_bookingForUpdate_bind hp hc fun w₁ booking hw₁ hp₁ hseen ↦ ?_
  have hc₁ := hw₁.committed.trans hc
  refine walksAs_ensure_bind hc₁ fun huser ↦ ?_
  refine walksAs_rest (fun _ _ h hP ↦ hP.mono h)
    (hseen.provides (List.mem_singleton.mp hrole) huser) hp₁ hc₁ ?_
  refine writes_bind writes_ensure fun _ ↦ ?_
  refine writes_bind (writes_changeBookingStatus ActsAs.routeWrites) fun _ ↦ ?_
  refine writes_bind (writes_insertMatter ActsAs.routeWrites) fun _ ↦ ?_
  refine writes_bind (writes_write (.audit_input _)) fun _ ↦ ?_
  exact writes_bind (writes_write (.audit_input _)) fun _ ↦ writes_pure

theorem guards_decline {reasonCode : String} :
    Guards actor (actor.ProvidesBooking · bookingId) (decline actor bookingId reasonCode) := by
  refine guards_ensure_bind fun hrole ↦ guards_ensure_bind fun _ ↦ ?_
  refine guards_withTransaction fun t w hp hc ↦ ?_
  refine walksAs_bookingForUpdate_bind hp hc fun w₁ booking hw₁ hp₁ hseen ↦ ?_
  have hc₁ := hw₁.committed.trans hc
  refine walksAs_ensure_bind hc₁ fun huser ↦ ?_
  refine walksAs_rest (fun _ _ h hP ↦ hP.mono h)
    (hseen.provides (List.mem_singleton.mp hrole) huser) hp₁ hc₁ ?_
  refine writes_bind writes_ensure fun _ ↦ ?_
  refine writes_bind (writes_changeBookingStatus ActsAs.routeWrites) fun _ ↦ ?_
  refine writes_bind writes_ensure fun _ ↦ ?_
  refine writes_bind (writes_endAllocation ActsAs.routeWrites) fun _ ↦ ?_
  refine writes_bind writes_ensure fun _ ↦ writes_bind (writes_write (.audit_input _)) fun _ ↦ ?_
  have hlast {input : AuditInput} {status : BookingStatus} :
      (writeAudit actor input >>= fun _ ↦ pure status : Tx BookingStatus).Writes
        (ActsAs actor w₁.met) :=
    writes_bind (writes_write (.audit_input _)) fun _ ↦ writes_pure
  cases booking.rosterId with
  | none => exact hlast
  | some rosterId =>
    refine writes_bind (writes_releaseCapacity ActsAs.routeWrites .audit_input) fun _ ↦ ?_
    refine writes_bind writes_nextval fun n ↦ ?_
    refine writes_bind (writes_write (.other (fun _ ↦ rfl) (fun _ ↦ rfl) fun _ ↦ rfl)) fun _ ↦ ?_
    exact writes_bind (writes_write (.audit_input _)) fun _ ↦ hlast

/-- Who is let through to a cancellation. -/
theorem entitled_of_ownsBooking {locked : LockedBooking} {met : List Database}
    (h : SeenBooking bookingId locked met) (howns : OwnsBooking actor locked)
    (horder : actor.actorType = .operator ∨ actor.onBehalfOfCitizenId = none)
    (hoperator : actor.actorType = .operator → actor.Entitled met locked.citizenUserId) :
    actor.ProvidesBooking met bookingId ∨ actor.EntitledToBooking met bookingId := by
  rcases howns with ⟨hrole, huser⟩ | ⟨hrole, hcitizen⟩
  · exact .inl (h.provides hrole huser)
  · refine .inr (h.entitled ?_)
    by_cases hoperates : actor.actorType = .operator
    · exact hoperator hoperates
    · have hcitizenRole := hrole.resolve_right hoperates
      rw [horder.resolve_left hoperates] at hcitizen
      exact .inl ⟨hcitizenRole, hcitizen.symm⟩

theorem guards_cancel {reasonCode : String}
    (horder : actor.actorType = .operator ∨ actor.onBehalfOfCitizenId = none) : Guards actor
    (fun met ↦ actor.ProvidesBooking met bookingId ∨ actor.EntitledToBooking met bookingId)
    (cancel actor bookingId reasonCode) := by
  refine guards_ensure_bind fun _ ↦ guards_ensure_bind fun _ ↦ ?_
  refine guards_withTransaction fun t w hp hc ↦ ?_
  refine walksAs_bookingForUpdate_bind hp hc fun w₁ booking hw₁ hp₁ hseen ↦ ?_
  have hc₁ := hw₁.committed.trans hc
  refine traced_when_bind (fun w₂ ↦ w₁.Onward w₂ ∧ w₂.pending = id ∧
    (actor.actorType = .operator → actor.Entitled w₂.met booking.citizenUserId)) (fun _ ↦ ?_)
    (fun hrole ↦ ⟨.refl _, hp₁, fun h ↦ absurd h hrole⟩) fun w₂ ⟨hw₂, hp₂, hoperator⟩ ↦ ?_
  · exact traced_assertCitizenAuthority hp₁
      (fun w₂ hw₂ hp₂ hentitled ↦ ⟨hw₂, hp₂, fun _ ↦ hentitled⟩)
      fun _ _ hw₂ ↦ hw₂.committed.trans hc₁
  have hc₂ := hw₂.committed.trans hc₁
  refine walksAs_ensure_bind hc₂ fun howns ↦ ?_
  refine walksAs_rest (fun _ _ h hP ↦ hP.imp (·.mono h) (·.mono h))
    (entitled_of_ownsBooking (hseen.mono hw₂.met.subset) howns horder hoperator) hp₂ hc₂ ?_
  refine writes_bind writes_ensure fun _ ↦ writes_bind writes_ensure fun _ ↦ ?_
  refine writes_bind (writes_changeBookingStatus ActsAs.routeWrites) fun _ ↦ ?_
  refine writes_bind (writes_endAllocation ActsAs.routeWrites) fun _ ↦ ?_
  refine writes_bind writes_ensure fun _ ↦ writes_bind writes_ensure fun _ ↦ ?_
  refine writes_bind (writes_write (.audit_input _)) fun _ ↦ ?_
  cases booking.rosterId with
  | none => exact writes_bind (writes_write (.audit_input _)) fun _ ↦ writes_pure
  | some rosterId =>
    refine writes_bind (writes_releaseCapacity ActsAs.routeWrites .audit_input) fun _ ↦ ?_
    exact writes_bind (writes_write (.audit_input _)) fun _ ↦ writes_pure

end Bookings

/-! ## Matters

A matter says who provides it; its booking leads to the citizen.
-/

section Matters

variable {actor : ActorContext} {matterId : ℕ}

theorem providesMatter_of_quotedMatter {s : Database} {met : List Database} (hs : s ∈ met)
    {found : QuotedMatter} (h : s.quotedMatter matterId = some found)
    (huser : found.provider.userId = actor.actorId) : actor.ProvidesMatter met matterId := by
  simp only [Database.quotedMatter, Option.bind_eq_bind, Option.bind_eq_some_iff] at h
  obtain ⟨matter, hmatter, provider, hprovider, _, -, _, -, heq⟩ := h
  cases heq
  obtain ⟨hmatter, hid⟩ := lookupBy_mem hmatter
  obtain ⟨hprovider, hproviderId⟩ := lookupBy_mem hprovider
  exact ⟨s, hs, matter, hmatter, hid, provider, hprovider, hproviderId, huser⟩

theorem quoteAudit_signedBy {body : QuoteBody} {n : ℕ} :
    ∀ event ∈ [quoteAudit actor body n], event.SignedBy actor :=
  fun _ h ↦ List.mem_singleton.mp h ▸ ⟨rfl, .inl rfl⟩

theorem guards_quote {body : QuoteBody} : Guards actor
    (fun met ↦ actor.actorType = .provider ∧ actor.ProvidesMatter met body.matterId)
    (quote actor body) := by
  refine guards_ensure_bind fun hrole ↦ guards_ensure_bind fun _ w hp hc ↦ ?_
  refine traced_bind (traced_fromExcept (fun _ _ ↦ ?_) fun _ _ ↦ hc)
  refine traced_bind (traced_require (fun _ ↦ ?_) hc)
  refine traced_bind (traced_bind (traced_now fun t ht ↦ traced_pure ?_))
  refine traced_bind (traced_require (fun _ ↦ ?_) hc)
  refine traced_withTransaction hp fun t' w₁ hw₁ hp₁ ↦ ?_
  have hc₁ : w₁.committed = false := hw₁.committed.trans hc
  refine traced_bind (traced_snapshot fun s ↦ ?_)
  rw [hp₁, id]
  cases hfound : s.quotedMatter body.matterId with
  | none => exact traced_throw hc₁
  | some found =>
    refine walksAs_ensure_bind hc₁ fun huser ↦ ?_
    refine walksAs_rest (fun _ _ h hP ↦ hP.imp_right (·.mono h)) ⟨List.mem_singleton.mp hrole,
      providesMatter_of_quotedMatter List.mem_cons_self hfound huser⟩ hp₁ hc₁ ?_
    refine writes_bind writes_ensure fun _ ↦ writes_bind writes_ensure fun _ ↦ ?_
    have hcreate := @writes_createPaymentQuote (ActsAs actor (w₁.meet s).met) actor t' body
      (fun _ ↦ .other (fun _ ↦ rfl) (fun _ ↦ rfl) fun _ ↦ rfl) fun _ ↦
        .insertAudit quoteAudit_signedBy
    -- nothing else matters of the writer
    generalize createPaymentQuote actor body t' = p at hcreate ⊢
    exact writes_tryCatch hcreate fun _ ↦ writes_throw

theorem exists_of_participants {s : Database} {matter : Matter} {providerUserId : ℕ}
    (h : s.participants matterId = some (matter, providerUserId)) :
    matter ∈ s.matters ∧ matter.id = matterId ∧ ∃ provider ∈ s.providers,
      provider.id = matter.providerId ∧ provider.userId = providerUserId := by
  simp only [Database.participants, Option.bind_eq_bind, Option.bind_eq_some_iff] at h
  obtain ⟨matter', hmatter, provider, hprovider, heq⟩ := h
  cases heq
  obtain ⟨hmatter, hid⟩ := lookupBy_mem hmatter
  obtain ⟨hprovider, hproviderId⟩ := lookupBy_mem hprovider
  exact ⟨hmatter, hid, provider, hprovider, hproviderId, rfl⟩

theorem guards_matterStatus {config : LoadedConfig} : Guards actor
    (fun met ↦ actor.actorType = .admin ∨ actor.EntitledToMatter met matterId)
    (matterStatus config actor matterId) := by
  refine guards_ensure_bind fun _ w hp hc ↦ traced_bind (traced_snapshot fun s ↦ ?_)
  rw [hp, id]
  cases hfound : s.participants matterId with
  | none => exact traced_throw hc
  | some found =>
    obtain ⟨matter, providerUserId⟩ := found
    obtain ⟨hmatter, hid, provider, hprovider, hproviderId, huser⟩ := exists_of_participants hfound
    have hs : s ∈ (w.meet s).met := List.mem_cons_self
    refine traced_ite_bind (fun _ w₁ ↦ (w.meet s).Onward w₁ ∧
      (actor.actorType = .admin ∨ actor.EntitledToMatter w₁.met matterId)) (fun _ ↦ ?_)
      (fun hrole ↦ ?_) fun _ w₁ ⟨hw₁, hentitled⟩ ↦ ?_
    · refine traced_assertCitizenAuthority hp (fun w₁ hw₁ _ h ↦ ⟨hw₁, .inr (.inr ?_)⟩)
        fun _ _ hw₁ ↦ hw₁.committed.trans hc
      exact ⟨s, hw₁.mem hs, matter, hmatter, hid, .inr h⟩
    · refine traced_require (fun h ↦ ⟨.refl _, h.imp_right fun h ↦ ?_⟩) hc
      refine h.imp (fun huser' ↦ ⟨hrole, ?_⟩) fun hcitizen ↦ ?_
      · exact ⟨s, hs, matter, hmatter, hid, provider, hprovider, hproviderId,
          huser.trans huser'.symm⟩
      · exact ⟨s, hs, matter, hmatter, hid, .inl ⟨hrole, hcitizen⟩⟩
    · exact traced_bind (traced_require (fun _ ↦ traced_pure hentitled) (hw₁.committed.trans hc))

theorem writes_matterStatus {W : (Database → Database) → Prop} {config : LoadedConfig} :
    (matterStatus config actor matterId).Writes W := by
  refine writes_bind writes_ensure fun _ ↦ writes_bind writes_snapshot fun s ↦ ?_
  cases s.participants matterId with
  | none => exact writes_throw
  | some found =>
    refine writes_ite_bind writes_assertCitizenAuthority writes_ensure fun _ ↦ ?_
    exact writes_bind writes_ensure fun _ ↦ writes_pure

theorem writes_assertMatterAccess {W : (Database → Database) → Prop} :
    (assertMatterAccess actor matterId).Writes W := by
  refine writes_bind writes_snapshot fun s ↦ ?_
  cases s.participants matterId with
  | none => exact writes_throw
  | some found =>
    refine writes_ite writes_pure (writes_ite writes_pure (writes_ite ?_ writes_throw))
    exact writes_assertCitizenAuthority

theorem guards_assertMatterAccess :
    Guards actor (actor.AccessesMatter · matterId) (assertMatterAccess actor matterId) := by
  refine fun w hp hc ↦ traced_bind (traced_snapshot fun s ↦ ?_)
  rw [hp, id]
  cases hfound : s.participants matterId with
  | none => exact traced_throw hc
  | some found =>
    obtain ⟨matter, providerUserId⟩ := found
    obtain ⟨hmatter, hid, provider, hprovider, hproviderId, huser⟩ := exists_of_participants hfound
    have hs : s ∈ (w.meet s).met := List.mem_cons_self
    dsimp only
    split
    next howner =>
      exact traced_pure (.inl ⟨howner.1, s, hs, matter, hmatter, hid, provider, hprovider,
        hproviderId, huser.trans howner.2.symm⟩)
    next =>
      split
      next hcitizen =>
        exact traced_pure (.inr ⟨s, hs, matter, hmatter, hid, .inl hcitizen⟩)
      next =>
        split
        next =>
          exact traced_assertCitizenAuthority hp (fun w₁ hw₁ _ h ↦
            .inr ⟨s, hw₁.mem hs, matter, hmatter, hid, h⟩) fun _ _ hw₁ ↦ hw₁.committed.trans hc
        next => exact traced_throw hc

end Matters

/-! ## Providers -/

section Providers

variable {actor : ActorContext} {config : AppConfig} {initialStatus : Option String}
  {body : ProviderProfileBody}

theorem writes_insertServices {W : (Database → Database) → Prop}
    (hW : ∀ row, W (Database.insertService row)) {providerId : ℕ} {services : List ServiceBody} :
    (insertServices providerId services).Writes W := by
  induction services with
  | nil => exact writes_pure
  | cons service services ih =>
    refine writes_bind writes_toMoney fun _ ↦ writes_bind writes_toMoney fun _ ↦ ?_
    refine writes_bind writes_ensure fun _ ↦ writes_bind writes_snapshot fun _ ↦ ?_
    refine writes_bind writes_ensure fun _ ↦ ?_
    exact writes_bind (writes_write (hW _)) fun _ ↦ ih

theorem writes_insertProvider {met : List Database} {signer : ActorContext} {userId : ℕ}
    {status action : String} (hsigner : signer.actorId = actor.actorId ∧
      signer.onBehalfOfCitizenId = actor.onBehalfOfCitizenId ∧
      signer.delegationId = actor.delegationId) :
    (insertProvider signer userId body status action).Writes (ActsAs actor met) := by
  have hother {f : Database → Database} (hd : ∀ db, (f db).delegations = db.delegations)
      (ha : ∀ db, (f db).auditEvents = db.auditEvents) (hn : ∀ db, (f db).needs = db.needs) :
      ActsAs actor met f := .other hd ha hn
  refine writes_bind writes_ensure fun _ ↦ writes_bind writes_nextval fun _ ↦ ?_
  refine writes_bind writes_snapshot fun _ ↦ writes_bind writes_ensure fun _ ↦ ?_
  refine writes_bind (writes_write (hother (fun _ ↦ rfl) (fun _ ↦ rfl) fun _ ↦ rfl)) fun _ ↦ ?_
  refine writes_bind (writes_insertServices fun _ ↦ hother (fun _ ↦ rfl) (fun _ ↦ rfl) fun _ ↦ rfl)
    fun _ ↦ ?_
  refine writes_bind (writes_write (hother (fun _ ↦ rfl) (fun _ ↦ rfl) fun _ ↦ rfl)) fun _ ↦ ?_
  refine writes_bind (writes_write (.insertAudit fun _ h ↦ ?_)) fun _ ↦ writes_pure
  rw [List.mem_singleton.mp h]
  exact ⟨hsigner.1, .inr ⟨hsigner.2.2, hsigner.2.1⟩⟩

theorem guards_createOwnProvider : Guards actor (fun _ ↦ actor.actorType = .citizen)
    (createOwnProvider config initialStatus actor body) := by
  refine guards_ensure_bind fun hrole ↦ guards_ensure_bind fun _ ↦ ?_
  cases initialStatus.filter (· ≠ "") with
  | none => exact fun _ _ hc ↦ traced_throw hc
  | some status =>
    refine guards_ensure_bind fun _ w hp hc ↦ ?_
    refine traced_bind (traced_fromExcept (fun _ _ ↦ ?_) fun _ _ ↦ hc)
    refine traced_withTransaction hp fun t w₁ hw₁ hp₁ ↦ ?_
    have hc₁ : w₁.committed = false := hw₁.committed.trans hc
    refine walksAs_rest (fun _ _ _ hP ↦ hP) (List.mem_singleton.mp hrole) hp₁ hc₁ ?_
    refine writes_bind writes_snapshot fun _ ↦ writes_bind writes_ensure fun _ ↦ ?_
    refine writes_bind (writes_write (.other (fun _ ↦ rfl) (fun _ ↦ rfl) fun _ ↦ rfl)) fun _ ↦ ?_
    exact writes_insertProvider ⟨rfl, rfl, rfl⟩

theorem guards_createProvider {userId : ℕ} : Guards actor
    (fun _ ↦ actor.actorType = .admin ∨ (actor.actorType = .provider ∧ actor.actorId = userId))
    (createProvider config initialStatus actor userId body) := by
  refine guards_ensure_bind fun hrole ↦ guards_ensure_bind fun _ ↦ ?_
  cases initialStatus.filter (· ≠ "") with
  | none => exact fun _ _ hc ↦ traced_throw hc
  | some status =>
    refine guards_ensure_bind fun howner w hp hc ↦ ?_
    refine traced_bind (traced_fromExcept (fun _ _ ↦ ?_) fun _ _ ↦ hc)
    refine traced_withTransaction hp fun t w₁ hw₁ hp₁ ↦ ?_
    have hc₁ : w₁.committed = false := hw₁.committed.trans hc
    have hP : actor.actorType = .admin ∨
        (actor.actorType = .provider ∧ actor.actorId = userId) := by
      simp only [List.mem_cons, List.not_mem_nil, or_false] at hrole
      rcases hrole with hprovider | hadmin
      · exact .inr ⟨hprovider, howner.resolve_left fun h ↦ h hprovider⟩
      · exact .inl hadmin
    refine walksAs_rest (fun _ _ _ hP ↦ hP) hP hp₁ hc₁ ?_
    refine writes_bind writes_snapshot fun _ ↦ writes_bind writes_ensure fun _ ↦ ?_
    exact writes_insertProvider ⟨rfl, rfl, rfl⟩

end Providers

end Nayasetu
