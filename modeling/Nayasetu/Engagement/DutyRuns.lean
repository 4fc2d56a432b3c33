import Nayasetu.Engagement.Duty
import Nayasetu.Engagement.Safety
import Nayasetu.Engagement.Writes
import Nayasetu.RowLock.Recording

/-!
# Duty accounting over runs

Who gives up a rotated assignment, and what is put on the record for it, in every interleaving of
the routes that assign and schedule. The walks of the engagements are taken over from their
discipline to one that remembers a `DutyCommit` of every commit; only declining and cancelling are
walked again, to see whose user the locked booking names and which signals are written.
-/

namespace Nayasetu

open RowLock RowLock.Discipline Collections

/-! ## Writes that leave the record alone

All routes but one write no conduct signal, which is seen from the kinds of rows they write.
-/

/-- The write changes neither the conduct signals nor the providers. -/
def LeavesRecord (f : Database → Database) : Prop :=
  ∀ db, (f db).signals = db.signals ∧ (f db).providers = db.providers

theorem leavesRecord_id : LeavesRecord id := fun _ ↦ ⟨rfl, rfl⟩

theorem LeavesRecord.comp (f g : Database → Database) (hf : LeavesRecord f) (hg : LeavesRecord g) :
    LeavesRecord (f ∘ g) :=
  fun db ↦ ⟨(hf (g db)).1.trans (hg db).1, (hf (g db)).2.trans (hg db).2⟩

theorem routeWrites_leavesRecord : RouteWrites LeavesRecord where
  decision _ _ := ⟨rfl, rfl⟩
  surface _ _ := ⟨rfl, rfl⟩
  counter _ _ := ⟨rfl, rfl⟩
  allocation _ _ := ⟨rfl, rfl⟩
  endedAllocation _ _ := ⟨rfl, rfl⟩
  membership _ _ := ⟨rfl, rfl⟩
  booking _ _ := ⟨rfl, rfl⟩
  movedBooking _ _ := ⟨rfl, rfl⟩
  matter _ _ := ⟨rfl, rfl⟩

section Writes

variable {actor : ActorContext}

theorem leavesRecord_writeAudit {input : AuditInput} :
    (writeAudit actor input).Writes LeavesRecord :=
  writes_writeAudit fun _ _ ↦ ⟨rfl, rfl⟩

theorem writes_rotateInTransaction {config : AppConfig} {needId rosterId : ℕ} {timestamp : ℤ} :
    (rotateInTransaction config actor needId rosterId timestamp).Writes LeavesRecord := by
  refine writes_bind writes_selectNeedForUpdate fun found ↦ ?_
  cases found with
  | none => exact writes_throw
  | some row =>
    refine writes_ite_bind writes_assertCitizenAuthority writes_assertInstitutionalRosterGrant
      fun _ ↦ ?_
    refine writes_bind writes_ensure fun _ ↦ writes_bind writes_ensure fun _ ↦ ?_
    refine writes_bind writes_selectMember fun member ↦ ?_
    cases member with
    | none => exact writes_throw
    | some providerId =>
      refine writes_bind (writes_insertAllocation fun _ _ ↦ ⟨rfl, rfl⟩) fun _ ↦ ?_
      refine writes_bind (writes_assignMember fun _ _ ↦ ⟨rfl, rfl⟩) fun _ ↦ ?_
      exact writes_bind leavesRecord_writeAudit fun _ ↦ writes_pure

theorem writes_acceptInTransaction {bookingId : ℕ} {timestamp : ℤ} :
    (acceptInTransaction actor bookingId timestamp).Writes LeavesRecord := by
  have hW := routeWrites_leavesRecord
  refine writes_bind writes_bookingForUpdate fun _ ↦ writes_bind writes_ensure fun _ ↦ ?_
  refine writes_bind writes_ensure fun _ ↦ writes_bind (writes_changeBookingStatus hW) fun _ ↦ ?_
  refine writes_bind (writes_insertMatter hW) fun _ ↦ writes_bind leavesRecord_writeAudit fun _ ↦ ?_
  exact writes_bind leavesRecord_writeAudit fun _ ↦ writes_pure

end Writes

/-! ## The record

The discipline of the engagements with one more thing remembered of each commit. Walks under the
first carry over to the second.
-/

/-- The requests that assign a duty, accept it or give it up, and the bookings of the owner of the
database. -/
def EngagementRequest.OnDuty : EngagementRequest → Prop
  | .rotate _ _ _ => True
  | .accept _ _ => True
  | .decline _ _ _ => True
  | .cancel _ _ _ => True
  | .holdBooking _ => True
  | _ => False

instance : DecidablePred EngagementRequest.OnDuty
  | .rotate _ _ _ | .accept _ _ | .decline _ _ _ | .cancel _ _ _ | .holdBooking _ => .isTrue trivial
  | .createNeed _ _ | .referral _ _ | .directory _ _ _ | .select _ _ _ | .quote _ _
  | .changeRegistry _ | .hold _ => .isFalse id

/-- As long as nothing else is committed, the providers stay who they are, and every commit is
accounted for. -/
def DutyRecord (providers : List Provider) (db : Database)
    (history : List (Entry Database EngagementRequest)) : Prop :=
  (∀ e ∈ history, e.request.OnDuty) → db.providers = providers ∧ ∀ e ∈ history, DutyCommit e

def dutyDiscipline (providers : List Provider) : Discipline Database LockKey EngagementRequest :=
  engagementDiscipline.recording (DutyRecord providers)

section Record

variable {providers : List Provider} {i : ℕ} {r : EngagementRequest}
  {v w : View Database LockKey EngagementRequest} {α β : Type}

/-- Writes that may be committed and are accounted for. -/
theorem committable_duty (h : Committable engagementDiscipline i r w)
    (hproviders : ∀ db, (w.pending db).providers = db.providers)
    (hduty : ∀ s, engagementDiscipline.Since i w.shared s → EngagementInvariant s →
      DutyRecord providers s.store s.history → (∀ e ∈ s.history, e.request.OnDuty) →
      DutyCommit ⟨i, r, w.snapshot, s.store, w.pending s.store⟩) :
    Committable (dutyDiscipline providers) i r w := by
  intro s hs hinv
  have hsince := since_recording_iff.mp hs
  obtain ⟨hcommit, hrely⟩ := h s hsince hinv.1
  refine ⟨⟨hcommit, fun hall ↦ ?_⟩, fun j hj ↦ rely_recording_iff.mpr (hrely j hj)⟩
  have hbefore : ∀ e ∈ s.history, e.request.OnDuty := fun e he ↦ hall e (List.mem_append_left _ he)
  obtain ⟨hstore, hcommits⟩ := hinv.2 hbefore
  refine ⟨(hproviders s.store).trans hstore, List.forall_mem_append.mpr ⟨hcommits, fun e he ↦ ?_⟩⟩
  rw [List.mem_singleton.mp he]
  exact hduty s hsince hinv.1 hinv.2 hbefore

/-- A statement of the routes, taken over. -/
theorem attempt_duty_bind {p : Tx α} {f : α → Tx β}
    {Q : β → View Database LockKey EngagementRequest → Prop}
    (R : α → View Database LockKey EngagementRequest → Prop) (hp : p.Writes LeavesRecord)
    (hv : LeavesRecord v.pending) (h : engagementDiscipline.Attempt i r R Failure.Unconflicted p v)
    (hf : ∀ a w, R a w → LeavesRecord w.pending →
      (dutyDiscipline providers).Attempt i r Q Failure.Unconflicted (f a) w) :
    (dutyDiscipline providers).Attempt i r Q Failure.Unconflicted (p >>= f) v :=
  attempt_bind (attempt_mono (fun a w hw ↦ hf a w hw.1 hw.2) (fun _ he ↦ he)
    (attempt_recording LeavesRecord.comp hp hv h))

/-- A transaction that ends no booking and writes nothing on the record. -/
theorem serves_duty_withTransaction {operation : ℤ → Tx α} (hpending : v.pending = id)
    (hends : r.endsBooking = none)
    (hwrites : ∀ timestamp, (operation timestamp).Writes LeavesRecord)
    (h : ∀ w timestamp, w.pending = id → engagementDiscipline.Attempt i r
      (fun _ w ↦ Committable engagementDiscipline i r w) Failure.Unconflicted
        (operation timestamp) w) :
    (dutyDiscipline providers).Serves i r Failure.Unconflicted (withTransaction operation) v := by
  refine serves_withTransaction fun w hw ↦ ?_
  have hp : w.pending = id := hw.pending.trans hpending
  refine attempt_mono (fun _ u hu ↦ ?_) (fun _ he ↦ he) (attempt_recording LeavesRecord.comp
    (hwrites w.shared.clock) (hp ▸ leavesRecord_id) (h w w.shared.clock hp))
  exact committable_duty hu.1 (fun db ↦ (hu.2 db).2) fun s _ _ _ _ ↦ .other hends (hu.2 s.store).1

/-! ## Giving up

The two routes that end an assignment, with the user of the locked booking carried to the commit.
-/

/-- The user a locked booking names is that of its provider, as long as providers stay who they
are. -/
def Named (providers : List Provider) (i : ℕ) (booking : LockedBooking)
    (s : Shared Database LockKey EngagementRequest) : Prop :=
  ∀ s', engagementDiscipline.Since i s s' → DutyRecord providers s'.store s'.history →
    (∀ e ∈ s'.history, e.request.OnDuty) → ∃ provider ∈ s'.store.providers,
      provider.id = booking.providerId ∧ provider.userId = booking.providerUserId

theorem Named.since {booking : LockedBooking} {s s' : Shared Database LockKey EngagementRequest}
    (h : Named providers i booking s) (hs : engagementDiscipline.Since i s s') :
    Named providers i booking s' := fun s'' hs' ↦ h s'' (hs.trans hs')

theorem attempt_bookingForUpdate_duty {bookingId : ℕ}
    {Q : LockedBooking → View Database LockKey EngagementRequest → Prop} (hpending : v.pending = id)
    (h : ∀ w booking b a, (dutyDiscipline providers).Onward i v w →
      LockedRows i w.shared bookingId b a → booking.Shows b a → Named providers i booking w.shared →
      Q booking w) :
    (dutyDiscipline providers).Attempt i r Q Failure.Unconflicted
      (bookingForUpdate bookingId) v := by
  refine attempt_bookingForUpdate_named hpending
    fun w₁ w booking b a hw₁ hw hrows hshows ⟨provider, hmem, hid, huser⟩ ↦ ?_
  refine h w booking b a (hw₁.trans hw) hrows hshows fun s hs hrecord hall ↦ ?_
  -- The record was kept when the user was read, so these are still the same providers.
  have hhistory := (onward_of_recording hw).since.history.trans hs.history
  have hsame : w₁.shared.store.providers = s.store.providers :=
    (hw₁.inv.2 fun e he ↦ hall e (hhistory.subset he)).1.trans (hrecord hall).1.symm
  exact ⟨provider, hsame ▸ hmem, hid.trans hshows.provider.symm, huser⟩

theorem LockedRows.endedAllocation {s : Shared Database LockKey EngagementRequest} {bookingId : ℕ}
    {a : Allocation} {b : Booking} {snap after : Database} (h : LockedRows i s bookingId b a)
    (hends : r.endsBooking = some bookingId) :
    endedAllocation ⟨i, r, snap, s.store, after⟩ = some a := by
  rw [Nayasetu.endedAllocation, hends]
  change (s.store.booking bookingId).bind _ = _
  rw [h.booking]
  exact h.allocation

theorem attempt_changeBookingStatus_duty {bookingId : ℕ} {booking : LockedBooking} {b : Booking}
    {a : Allocation} {next : BookingStatus} {timestamp : ℤ} {f : BookingStatus → Tx β}
    {Q : β → View Database LockKey EngagementRequest → Prop} (hpending : v.pending = id)
    (hrows : LockedRows i v.shared bookingId b a) (hshows : booking.Shows b a)
    (h : ∀ w b', engagementDiscipline.Onward i v w → b.status = .held → b.MovedTo b' next →
      (dutyDiscipline providers).Attempt i r Q Failure.Unconflicted (f next)
        { w with pending := Database.updateBooking b' }) :
    (dutyDiscipline providers).Attempt i r Q Failure.Unconflicted
      (changeBookingStatus booking next timestamp >>= f) v := by
  refine attempt_duty_bind (fun status w ↦ (dutyDiscipline providers).Attempt i r Q
    Failure.Unconflicted (f status) w) (writes_changeBookingStatus routeWrites_leavesRecord)
    (hpending ▸ leavesRecord_id) ?_ fun _ _ h _ ↦ h
  exact attempt_changeBookingStatus hpending hrows hshows h

/-- An assigned allocation under lock is ended, and its row was found. -/
theorem attempt_endAllocation_duty {bookingId : ℕ} {a : Allocation} {b b' : Booking}
    {ended : Allocation → Allocation} {operation : String} {rest : Tx β}
    {Q : β → View Database LockKey EngagementRequest → Prop}
    (hpending : v.pending = Database.updateBooking b') (hrows : LockedRows i v.shared bookingId b a)
    (hassigned : a.status = .assigned)
    (h : ∀ w, engagementDiscipline.Onward i v w →
      (dutyDiscipline providers).Attempt i r Q Failure.Unconflicted rest
        { w with pending := Database.updateAllocation (ended a) ∘ Database.updateBooking b' }) :
    (dutyDiscipline providers).Attempt i r Q Failure.Unconflicted (do
      requireSingleRow (← endAllocation b.allocationId ended) operation
      rest) v := by
  refine attempt_duty_bind (fun rows w ↦ (dutyDiscipline providers).Attempt i r Q
    Failure.Unconflicted (do
      requireSingleRow rows operation
      rest) w) (writes_endAllocation routeWrites_leavesRecord) (hpending ▸ fun _ ↦ ⟨rfl, rfl⟩) ?_
    fun _ _ h _ ↦ h
  exact attempt_endAllocation hpending hrows hassigned fun w hw ↦
    attempt_bind (attempt_requireSingleRow (h w hw))

/-- The place of an assigned allocation is given back, and nothing is put on the record for it. -/
theorem attempt_releaseCapacity_duty {actor : ActorContext} {booking : LockedBooking}
    {bookingId rosterId : ℕ} {a a' : Allocation} {b b' : Booking} {auditEvents : List AuditEvent}
    {f : Unit → Tx β} {Q : β → View Database LockKey EngagementRequest → Prop}
    (hpending : v.pending = Database.insertAudit auditEvents ∘ Database.updateAllocation a' ∘
      Database.updateBooking b') (hrows : LockedRows i v.shared bookingId b a)
    (hassigned : a.status = .assigned) (hroster : a.rosterId = some rosterId)
    (hprovider : booking.providerId = a.providerId)
    (h : ∀ w member, engagementDiscipline.Since i v.shared w.shared →
      Closing i bookingId a a' b b' (some member) w → LeavesRecord w.pending →
      (dutyDiscipline providers).Attempt i r Q Failure.Unconflicted (f ()) w) :
    (dutyDiscipline providers).Attempt i r Q Failure.Unconflicted
      (releaseCapacity actor booking rosterId >>= f) v := by
  refine attempt_duty_bind (fun _ w ↦ engagementDiscipline.Since i v.shared w.shared ∧ ∃ member,
    Closing i bookingId a a' b b' (some member) w)
    (writes_releaseCapacity routeWrites_leavesRecord fun _ _ ↦ ⟨rfl, rfl⟩)
    (hpending ▸ fun _ ↦ ⟨rfl, rfl⟩) ?_ fun _ w ⟨hw, member, hclosing⟩ hleaves ↦
      h w member hw hclosing hleaves
  exact attempt_releaseCapacity hpending hrows hassigned hroster hprovider
    fun w member hw _ hclosing ↦ ⟨hw, member, hclosing⟩

theorem attempt_declineInTransaction_duty {actor : ActorContext} {bookingId : ℕ}
    {reasonCode : String} {timestamp : ℤ} (hpending : v.pending = id)
    (hactor : actor.actorType = .provider) :
    (dutyDiscipline providers).Attempt i (.decline actor bookingId reasonCode)
      (fun _ w ↦ Committable (dutyDiscipline providers) i (.decline actor bookingId reasonCode) w)
      Failure.Unconflicted (declineInTransaction actor bookingId reasonCode timestamp) v := by
  refine attempt_bind (attempt_bookingForUpdate_duty hpending
    fun w₁ booking b a hw₁ hrows₁ hshows hnamed₁ ↦ ?_)
  refine attempt_bind (attempt_ensure (by simp) fun huser ↦ ?_)
  refine attempt_bind (attempt_ensure (by simp) fun hactive ↦ ?_)
  have hassigned : a.status = .assigned := hshows.allocationStatus.symm.trans hactive
  refine attempt_changeBookingStatus_duty (hw₁.pending.trans hpending) hrows₁ hshows
    fun w₂ b' hw₂ hheld hmoved ↦ attempt_bind (attempt_ensureText ?_)
  have hrows₂ := hrows₁.since hw₂.since
  have hprovider : booking.providerId = a.providerId :=
    hshows.provider.trans ((hrows₂.moving hheld hmoved).episode hw₂.inv.store).2.2.provider
  rw [hshows.allocation]
  refine attempt_endAllocation_duty rfl hrows₂ hassigned fun w₃ hw₃ ↦ attempt_bind
    (attempt_write ?_)
  have hrows₃ := hrows₂.since hw₃.since
  have hnamed₃ := hnamed₁.since (hw₂.since.trans hw₃.since)
  have hchange (member? : Option RosterMembership)
      (s : Shared Database LockKey EngagementRequest) (signals : List ConductSignal)
      (auditEvents : List AuditEvent) (hrows : LockedRows i s bookingId b a)
      (hreleased : Released (Holds i s) s.store a member?) :
      Change (Holds i s) (Drew i s) s.store (.decline actor bookingId reasonCode)
        ((((s.store.updateBooking b').updateAllocation
          (a.decline timestamp reasonCode)).releaseMember member?).withLogs signals auditEvents
            s.store.counters) :=
    .decline (hrows.moving hheld hmoved) ⟨rfl, rfl, rfl, rfl, rfl, rfl⟩ hreleased
  -- the check compares the actor with the user of the locked booking
  have hown (s : Shared Database LockKey EngagementRequest)
      (hs : engagementDiscipline.Since i w₃.shared s)
      (hrecord : DutyRecord providers s.store s.history)
      (hall : ∀ e ∈ s.history, e.request.OnDuty) :
      (EngagementRequest.decline actor bookingId reasonCode).MadeBy s.store.providers
        a.providerId := by
    obtain ⟨provider, hmem, hid, hprovides⟩ := hnamed₃ s hs hrecord hall
    exact ⟨actor, rfl, hactor, provider, hmem, hid.trans hprovider, hprovides.trans huser⟩
  cases hroster : booking.rosterId with
  | none =>
    have hunrostered : a.rosterId = none := hshows.roster.symm.trans hroster
    refine attempt_bind (attempt_write (attempt_pure ?_))
    refine committable_duty (Closing.committable (Closing.insertAudit ?_ _) (hchange none))
      (fun _ ↦ rfl) fun s hs _ hrecord hall ↦ ?_
    · exact closing_unrostered hrows₃ hunrostered rfl
    · exact .declined rfl ((hrows₃.since hs).endedAllocation rfl) (hown s hs hrecord hall)
        (List.append_nil _).symm (fun _ ↦ rfl) fun hne ↦ absurd hunrostered hne
  | some rosterId =>
    have hrostered : a.rosterId = some rosterId := hshows.roster.symm.trans hroster
    refine attempt_releaseCapacity_duty rfl hrows₃ hassigned hrostered hprovider
      fun w₄ member hw₄ hclosing hleaves ↦ ?_
    -- the one place where a signal is written
    refine attempt_bind (attempt_nextval fun w₅ n hw₅ _ _ _ ↦ attempt_bind (attempt_write ?_))
    refine attempt_bind (attempt_write (attempt_bind (attempt_write (attempt_pure ?_))))
    have hclosed := hclosing.onward (onward_of_recording hw₅)
    have hleft : LeavesRecord w₅.pending := hw₅.pending ▸ hleaves
    refine committable_duty ((((hclosed.insertSignal _).insertAudit _).insertAudit _).committable
      (hchange (some member))) (fun db ↦ (hleft db).2) fun s hs _ hrecord hall ↦ ?_
    have hs₅ := (hw₄.trans (onward_of_recording hw₅).since).trans hs
    refine .declined rfl ((hclosed.rows.since hs).endedAllocation rfl)
      (hown s hs₅ hrecord hall) ?_ (fun hnone ↦ ?_) fun _ ↦ ⟨timestamp, n, rfl⟩
    · exact congrArg₂ _ (hleft s.store).1 (by rw [hprovider])
    · exact absurd (hrostered.symm.trans hnone) (Option.some_ne_none rosterId)

theorem attempt_cancelInTransaction_duty {actor : ActorContext} {bookingId : ℕ}
    {reasonCode : String} {timestamp : ℤ} (hpending : v.pending = id) :
    (dutyDiscipline providers).Attempt i (.cancel actor bookingId reasonCode)
      (fun _ w ↦ Committable (dutyDiscipline providers) i (.cancel actor bookingId reasonCode) w)
      Failure.Unconflicted (cancelInTransaction actor bookingId reasonCode timestamp) v := by
  refine attempt_bind (attempt_bookingForUpdate_duty hpending
    fun w₁ booking b a hw₁ hrows₁ hshows hnamed₁ ↦ ?_)
  refine attempt_ite_bind (fun _ w ↦ (dutyDiscipline providers).Onward i w₁ w)
    (fun _ ↦ attempt_assertCitizenAuthority hw₁.inv fun _ hw ↦ hw)
    (fun _ ↦ attempt_pure (a := ()) (.refl hw₁.inv)) fun _ w₂ hw₂ ↦ ?_
  refine attempt_bind (attempt_ensure (by simp) fun howns ↦ ?_)
  refine attempt_bind (attempt_ensure (by simp) fun hactive ↦ ?_)
  refine attempt_bind (attempt_ensure (by simp) fun _ ↦ ?_)
  have hsince₂ := (onward_of_recording hw₂).since
  have hrows₂ := hrows₁.since hsince₂
  have hassigned : a.status = .assigned := hshows.allocationStatus.symm.trans hactive
  refine attempt_changeBookingStatus_duty ((hw₁.trans hw₂).pending.trans hpending) hrows₂ hshows
    fun w₃ b' hw₃ hheld hmoved ↦ ?_
  have hrows₃ := hrows₂.since hw₃.since
  have hprovider : booking.providerId = a.providerId :=
    hshows.provider.trans ((hrows₃.moving hheld hmoved).episode hw₃.inv.store).2.2.provider
  rw [hshows.allocation]
  refine attempt_endAllocation_duty rfl hrows₃ hassigned fun w₄ hw₄ ↦
    attempt_bind (attempt_ensureText (attempt_bind (attempt_write ?_)))
  have hrows₄ := hrows₃.since hw₄.since
  have hnamed₄ := hnamed₁.since ((hsince₂.trans hw₃.since).trans hw₄.since)
  have hchange (member? : Option RosterMembership)
      (s : Shared Database LockKey EngagementRequest) (signals : List ConductSignal)
      (auditEvents : List AuditEvent) (hrows : LockedRows i s bookingId b a)
      (hreleased : Released (Holds i s) s.store a member?) :
      Change (Holds i s) (Drew i s) s.store (.cancel actor bookingId reasonCode)
        ((((s.store.updateBooking b').updateAllocation
          (a.cancel timestamp)).releaseMember member?).withLogs signals auditEvents
            s.store.counters) :=
    .cancel (hrows.moving hheld hmoved) ⟨rfl, rfl, rfl, rfl, rfl, rfl⟩ hreleased
  -- a provider passes the check only as the user of the locked booking
  have hown (s : Shared Database LockKey EngagementRequest)
      (hs : engagementDiscipline.Since i w₄.shared s)
      (hrecord : DutyRecord providers s.store s.history)
      (hall : ∀ e ∈ s.history, e.request.OnDuty) (hactor : actor.actorType = .provider) :
      (EngagementRequest.cancel actor bookingId reasonCode).MadeBy s.store.providers
        a.providerId := by
    obtain ⟨provider, hmem, hid, hprovides⟩ := hnamed₄ s hs hrecord hall
    refine ⟨actor, rfl, hactor, provider, hmem, hid.trans hprovider, hprovides.trans ?_⟩
    rcases howns with ⟨-, huser⟩ | ⟨hother, -⟩
    · exact huser
    · exact absurd hother (by simp [hactor])
  -- with a roster the place is given back, but no signal is written either
  cases hroster : booking.rosterId with
  | none =>
    have hunrostered : a.rosterId = none := hshows.roster.symm.trans hroster
    refine attempt_bind (attempt_write (attempt_pure ?_))
    refine committable_duty (Closing.committable (Closing.insertAudit ?_ _) (hchange none))
      (fun _ ↦ rfl) fun s hs _ hrecord hall ↦ ?_
    · exact closing_unrostered hrows₄ hunrostered rfl
    · exact .cancelled rfl ((hrows₄.since hs).endedAllocation rfl) (hown s hs hrecord hall) rfl
  | some rosterId =>
    refine attempt_releaseCapacity_duty rfl hrows₄ hassigned (hshows.roster.symm.trans hroster)
      hprovider fun w₅ member hw₅ hclosing hleaves ↦ ?_
    refine attempt_bind (attempt_write (attempt_pure ?_))
    refine committable_duty ((hclosing.insertAudit _).committable (hchange (some member)))
      (fun db ↦ (hleaves db).2) fun s hs _ hrecord hall ↦ ?_
    exact .cancelled rfl ((hclosing.rows.since hs).endedAllocation rfl)
      (hown s (hw₅.trans hs) hrecord hall) (hleaves s.store).1

/-! ## All requests -/

/-- The record is not kept of commits of other requests. -/
theorem serves_duty_of_not_onDuty {p : Tx α} (hr : ¬ r.OnDuty)
    (h : engagementDiscipline.Serves i r Failure.Unconflicted p v) :
    (dutyDiscipline providers).Serves i r Failure.Unconflicted p v :=
  serves_recording_of_commit (fun _ _ e he hall ↦
    absurd (hall e (List.mem_append_right _ List.mem_cons_self)) (he ▸ hr)) h

/-- **Every request** keeps the record. -/
theorem serves_duty (config : AppConfig) (seededKey : String → String → String)
    (r : EngagementRequest) (hpending : v.pending = id) :
    (dutyDiscipline providers).Serves i r Failure.Unconflicted
      (engagementProgram config seededKey r) v := by
  have hother (hr : ¬ r.OnDuty) : (dutyDiscipline providers).Serves i r Failure.Unconflicted
      (engagementProgram config seededKey r) v :=
    serves_duty_of_not_onDuty hr (serves_engagement config seededKey r hpending)
  cases r with
  | rotate actor needId rosterId =>
    exact serves_map (serves_bind (attempt_requireActor (serves_duty_withTransaction hpending rfl
      (fun _ ↦ writes_rotateInTransaction) fun _ _ hw ↦ committable_rotateInTransaction hw)))
  | accept actor bookingId =>
    exact serves_map (serves_bind (attempt_requireActor (serves_duty_withTransaction hpending rfl
      (fun _ ↦ writes_acceptInTransaction) fun _ _ hw ↦ attempt_acceptInTransaction hw)))
  | holdBooking held =>
    exact serves_map (serves_duty_withTransaction hpending rfl
      (fun _ ↦ writes_insertHeldBooking routeWrites_leavesRecord)
      fun _ _ hw ↦ attempt_insertHeldBooking hw)
  | decline actor bookingId reasonCode =>
    refine serves_map (serves_bind (attempt_ensure (by simp) fun hactor ↦ ?_))
    refine serves_bind (attempt_parseBody fun _ ↦ serves_withTransaction fun w hw ↦ ?_)
    exact attempt_declineInTransaction_duty (hw.pending.trans hpending)
      (List.mem_singleton.mp hactor)
  | cancel actor bookingId reasonCode =>
    refine serves_map
      (serves_bind (attempt_requireActor (serves_bind (attempt_parseBody fun _ ↦ ?_))))
    exact serves_withTransaction fun w hw ↦
      attempt_cancelInTransaction_duty (hw.pending.trans hpending)
  | createNeed _ _ | referral _ _ | directory _ _ _ | select _ _ _ | quote _ _ | changeRegistry _
  | hold _ => exact hother id

end Record

/-! ## Runs

When every assignment that was given up is on the record, for every run, and a run in which one is
not.
-/

section Run

variable {config : AppConfig} {seededKey : String → String → String} {db : Database} {clock : ℤ}
  {drawn : ℕ} {c : EngagementConfig}

/-- **Duty accounting.** After any run in which duties are assigned, accepted and given up, the
declines on the record of a provider are the assignments it has given up, exactly if it has
cancelled none of them. -/
theorem duty_accounting_iff (hstart : db.Unallocated drawn)
    (hrecord : ∀ signal ∈ db.signals, signal.signalType ≠ "ROTATION_DECLINE")
    (hc : EngagementRun config seededKey (engagementStart db clock drawn) c)
    (hduty : ∀ e ∈ c.shared.history, e.request.OnDuty) (providerId : ℕ) :
    c.shared.store.rotationDeclines providerId =
        givenUpCount c.shared.history c.shared.store providerId ↔
      ∀ e ∈ c.shared.history, ¬ CancelsDuty e providerId := by
  have hinit : (dutyDiscipline db.providers).Inv (engagementStart db clock drawn).shared :=
    ⟨hstart.invariant clock, fun _ ↦ ⟨rfl, List.forall_mem_nil _⟩⟩
  obtain ⟨⟨hinv, hcommits⟩, -⟩ :=
    served (fun _ r _ _ ↦ serves_duty config seededKey r rfl) hinit hc
  have hnone : ∀ providerId, db.rotationDeclines providerId = 0 := fun _ ↦
    List.countP_eq_zero.mpr fun signal hsignal ↦ by simp [hrecord signal hsignal]
  have haccounts := accounts_of_replays hnone (Reaches.replays hc)
    fun e he ↦ ⟨hinv.history e he, (hcommits hduty).2 e he⟩
  exact accounts_iff haccounts.2 providerId

end Run

/-- The advocate of the pilot, and a citizen who was referred to legal aid. -/
def dutyStore : Database :=
  { pilotStore with
    needs := [(pilotNeed (some "SC")).row pilotCitizen "RENT" none 0 0]
    decisions := [⟨0, some "SC", true, .legalAidReferral, 0⟩] }

theorem dutyStore_unallocated : dutyStore.Unallocated 1 where
  need_ids := by decide
  decision_ids := by decide
  drawn := by decide
  decided decision hdecision := by
    rw [List.mem_singleton.mp hdecision]
    exact ⟨_, rfl⟩
  routed := by decide
  surfaces := List.forall_mem_nil _
  allocations := rfl
  bookings := rfl
  matters := rfl
  quotes := rfl
  member_keys := by decide
  idle := by decide
  checked := by decide

/-- The citizen is assigned the advocate, who is booked and gives the assignment up. -/
def dutyRun (n : ℕ) (r : EngagementRequest) : List (Action EngagementRequest) :=
  serveAlone 0 15 (.rotate pilotCitizen 0 5) ++
    serveAlone 1 7 (.holdBooking ⟨0, 1, 1, 20, (0, 10), none, none⟩) ++ serveAlone 2 n r

theorem declinedDuty_possible :
    (exec (engagementProgram pilotConfig pilotKey) (engagementStart dutyStore 1000000 1)
      (dutyRun 24 (.decline advocate 2 "BUSY"))).isSome := by decide +kernel

def declinedDuty : EngagementConfig :=
  (exec (engagementProgram pilotConfig pilotKey) (engagementStart dutyStore 1000000 1)
    (dutyRun 24 (.decline advocate 2 "BUSY"))).get declinedDuty_possible

theorem duty_accounting_iff_declined :
    declinedDuty.shared.store.rotationDeclines 1 =
        givenUpCount declinedDuty.shared.history declinedDuty.shared.store 1 ↔
      ∀ e ∈ declinedDuty.shared.history, ¬ CancelsDuty e 1 :=
  duty_accounting_iff dutyStore_unallocated (List.forall_mem_nil _) (.get _) (by decide +kernel) 1

theorem cancelledDuty_possible :
    (exec (engagementProgram pilotConfig pilotKey) (engagementStart dutyStore 1000000 1)
      (dutyRun 21 (.cancel advocate 2 "BUSY"))).isSome := by decide +kernel

/-- The advocate cancels instead of declining, and nothing is put on its record. -/
theorem duty_unaccounted_of_cancel : ∃ c : EngagementConfig,
    EngagementRun pilotConfig pilotKey (engagementStart dutyStore 1000000 1) c ∧
      (∀ e ∈ c.shared.history, e.request.OnDuty) ∧ c.shared.store.rotationDeclines 1 = 0 ∧
      givenUpCount c.shared.history c.shared.store 1 = 1 :=
  ⟨(exec (engagementProgram pilotConfig pilotKey) (engagementStart dutyStore 1000000 1)
    (dutyRun 21 (.cancel advocate 2 "BUSY"))).get cancelledDuty_possible, .get _,
    by decide +kernel, by decide +kernel, by decide +kernel⟩

end Nayasetu
