import Nayasetu.Engagement.Discipline
import Nayasetu.Engagement.Showings

/-!
# The transactions of the engagements

Each request is walked through under the discipline of the engagements: what it has written when it
commits is one of the changes, with the locks and the numbers the change names, and it never finds
the scheduling tables in contradiction.
-/

namespace Nayasetu

open RowLock RowLock.Discipline Collections

variable {i : ℕ} {r : EngagementRequest} {v w : View Database LockKey EngagementRequest}

/-- Writes that make a change may be committed. -/
theorem committable_of_change
    (h : ∀ s, engagementDiscipline.Since i w.shared s → EngagementInvariant s →
      Change (Holds i s) (Drew i s) s.store r (w.pending s.store)) :
    Committable engagementDiscipline i r w :=
  fun s hs hinv ↦ (h s hs hinv).commit w.snapshot hinv

/-- What was settled before is settled later. -/
theorem paidNeed_of_needWithRoute {db : Database} {needId : ℕ} {need : NeedRequest}
    {decision : EligibilityDecision} (h : db.needWithRoute needId = some (need, decision))
    (hroute : decision.route = .paid) : db.PaidNeed needId := by
  obtain ⟨hneed, -, hdecision⟩ := needWithRoute_eq_some h
  exact ⟨⟨need, hneed⟩, decision, hdecision, hroute⟩

/-! ## Intake -/

theorem committable_createNeed {actor : ActorContext} {body : NeedBody} {taxonomyCode : String}
    {decision : RoutingDecision} {timestamp : ℤ} (hv : EngagementInvariant v.shared)
    (hpending : v.pending = id)
    (hrouted : decision.route = .paid → decision.section12Category = none) :
    engagementDiscipline.Attempt i (.createNeed actor body)
      (fun _ w ↦ Committable engagementDiscipline i (.createNeed actor body) w) Failure.Unconflicted
      (createNeedInTransaction actor body taxonomyCode decision timestamp) v := by
  refine attempt_createNeedInTransaction hv hpending
    fun w n feeCeiling auditEvents _ hn hunused hp ↦ committable_of_change fun s hs _ ↦ ?_
  rw [hp]
  exact .createNeed (hs.drawn hn) (hs.unused n hn hunused) rfl hrouted

theorem serves_referral {actor : ActorContext} {needId : ℕ} :
    engagementDiscipline.Serves i (.referral actor needId) Failure.Unconflicted
      (referral actor needId) v := by
  refine serves_bind (attempt_requireActor (serves_bind (attempt_snapshot fun w₁ hw₁ _ ↦ ?_)))
  cases (v.pending w₁.shared.store).needWithRoute needId with
  | none => exact serves_throw (by simp)
  | some found =>
    refine serves_bind (attempt_assertCitizenAuthority hw₁.inv fun w₂ hw₂ ↦ ?_)
    exact serves_bind (attempt_ensure (by simp) fun _ ↦ serves_pure)

/-! ## The directory

For this invariant it only matters that the rows of a directory belong to a paid request. What is
in them is left to the modules on directories.
-/

theorem attempt_directoryInTransaction {config : AppConfig} {seededKey : String → String → String}
    {actor : ActorContext} {needId : ℕ} {need : NeedRequest} {query : DirectoryQuery}
    {timestamp : ℤ} (hv : EngagementInvariant v.shared) (hpending : v.pending = id)
    (hpaid : v.shared.store.PaidNeed need.id) :
    engagementDiscipline.Attempt i (.directory actor needId query)
      (fun _ w ↦ Committable engagementDiscipline i (.directory actor needId query) w)
      Failure.Unconflicted
      (directoryInTransaction config seededKey actor need query timestamp) v := by
  refine attempt_bind (attempt_assertCitizenAuthority hv fun w₁ hw₁ ↦ ?_)
  have hp₁ : w₁.pending = id := hw₁.pending.trans hpending
  refine attempt_bind (attempt_selectForUpdate (fun _ _ _ ↦ attempt_throw (by simp))
    fun w₂ state hw₂ hlock hstate ↦ ?_)
  have hp₂ : w₂.pending = id := hw₂.pending.trans hp₁
  refine attempt_bind (attempt_ensure (by simp) fun _ ↦ ?_)
  split
  · refine attempt_bind (attempt_snapshot fun w₃ hw₃ _ ↦ attempt_pure ?_)
    refine committable_of_change fun s _ _ ↦ ?_
    rw [hw₃.pending, hp₂]
    exact .directoryShown
  · rw [hp₁] at hstate
    refine attempt_generateDirectory hp₂ fun u w rows counted hu hsince _ _ hpending' _ _ _ ↦ ?_
    obtain ⟨auditEvents, hpending'⟩ := hpending'
    refine committable_of_change fun s hs _ ↦ ?_
    have hid : (state.generated query timestamp).id = need.id := (lookupBy_mem hstate).2
    have hus := (hu.since.trans hsince).trans hs
    have hneed : s.store.need need.id = some state := hus.keep _ hlock state hstate
    rw [hpending']
    have hchange : Change (Holds i s) (Drew i s) s.store (.directory actor needId query)
        (({ s.store.updateNeed (state.generated query timestamp) with
            surfaces := s.store.surfaces ++
              storedSurfaces need query rows 1 (orderedCandidates seededKey need rows) } :
          Database).withLogs s.store.signals (s.store.auditEvents ++ auditEvents)
            (countShowings counted s.store.counters)) := by
      have hneed' : s.store.need (state.generated query timestamp).id = some state := by
        rw [hid]
        exact hneed
      refine .directory hneed' ?_ rfl ?_ ?_
      · rw [hid]
        exact hus.holds _ hlock
      · rw [hid]
        exact hpaid.continues ((hw₁.trans hw₂).since.trans hus).mono
      · rw [hid]
        exact needRequestId_of_mem_storedSurfaces
    exact hchange

theorem serves_directory {config : AppConfig} {seededKey : String → String → String}
    {actor : ActorContext} {needId : ℕ} {query : DirectoryQuery} (hpending : v.pending = id) :
    engagementDiscipline.Serves i (.directory actor needId query) Failure.Unconflicted
      (directory config seededKey actor needId query) v := by
  refine serves_bind (attempt_requireActor (serves_bind (attempt_parseBody fun _ ↦ ?_)))
  refine serves_bind (attempt_snapshot fun w₁ hw₁ _ ↦ ?_)
  rw [hpending, id]
  cases hneed : w₁.shared.store.needWithRoute needId with
  | none => exact serves_throw (by simp)
  | some found =>
    obtain ⟨need, decision⟩ := found
    refine serves_bind (attempt_assertCitizenAuthority hw₁.inv fun w₂ hw₂ ↦ ?_)
    refine serves_bind (attempt_ensure (by simp) fun hroute ↦ ?_)
    refine serves_bind (attempt_ensure (by simp) fun _ ↦ ?_)
    refine serves_map (serves_withTransaction fun w₃ hw₃ ↦ ?_)
    have hpaid := paidNeed_of_needWithRoute hneed hroute
    refine attempt_directoryInTransaction hw₃.inv
      (((hw₁.trans hw₂).trans hw₃).pending.trans hpending) ?_
    rw [(needWithRoute_eq_some hneed).2.1]
    exact hpaid.continues (hw₂.trans hw₃).since.mono

/-! ## Allocations

A choice, as a new allocation under the locks on the request and on the unique key.
-/

theorem newAllocation_of_since {row : Allocation} {u s : Shared Database LockKey EngagementRequest}
    (hs : engagementDiscipline.Since i u s) (hdrawn : Drew i u row.id)
    (hunused : u.store.Free row.id) (hstatus : row.status = .assigned)
    (hlock : Holds i u (.oneActiveAllocation row.needRequestId))
    (hnone : u.store.activeAllocation row.needRequestId = none) :
    NewAllocation (Holds i s) (Drew i s) s.store row where
  id := hs.drawn hdrawn
  free := hs.unused _ hdrawn hunused
  status := hstatus
  lock := hs.holds _ hlock
  none_active := by
    intro a ha hneed hassigned
    obtain ⟨a', ha', hneed', hassigned'⟩ := hs.keep _ hlock a ha hneed hassigned
    exact activeAllocation_eq_none hnone a' ha' hneed' hassigned'

theorem attempt_selectEligibleProvider {config : AppConfig} {need : NeedRequest}
    {query : DirectoryQuery} {providerId : ℕ} {timestamp : ℤ}
    {Q : Bool → View Database LockKey EngagementRequest → Prop}
    (h : ∀ w b, engagementDiscipline.Onward i v w → Q b w) :
    engagementDiscipline.Attempt i r Q Failure.Unconflicted
      (selectEligibleProvider config need query providerId timestamp) v := by
  refine attempt_bind (attempt_snapshot fun w₁ hw₁ _ ↦ ?_)
  dsimp only
  split
  · exact attempt_pure (h w₁ false hw₁)
  · exact attempt_bind (attempt_lock fun w₂ hw₂ _ _ ↦ attempt_pure (h w₂ _ (hw₁.trans hw₂)))

theorem attempt_selectInTransaction {config : AppConfig} {actor : ActorContext}
    {needId providerId : ℕ} {timestamp : ℤ} (hpending : v.pending = id) :
    engagementDiscipline.Attempt i (.select actor needId providerId)
      (fun _ w ↦ Committable engagementDiscipline i (.select actor needId providerId) w)
      Failure.Unconflicted (selectInTransaction config actor needId providerId timestamp) v := by
  refine attempt_bind (attempt_selectNeedForUpdate hpending
    (fun _ _ ↦ attempt_throw (by simp)) fun w₁ need decision hw₁ hp₁ _ hneed ↦ ?_)
  refine attempt_bind (attempt_assertCitizenAuthority hw₁.inv fun w₂ hw₂ ↦ ?_)
  refine attempt_bind (attempt_ensure (by simp) fun hroute ↦ ?_)
  refine attempt_bind (attempt_snapshot fun w₃ hw₃ _ ↦ ?_)
  cases hsurfaced : ((w₂.pending w₃.shared.store).surfacesOf need.id).find?
      (·.providerId = providerId) with
  | none => exact attempt_throw (by simp)
  | some surfaced =>
    have hsurface : surfaced.needRequestId = need.id :=
      of_decide_eq_true (List.mem_filter.mp (List.mem_of_find?_eq_some hsurfaced)).2
    dsimp only
    split
    · rename_i providerType minimumTier _ _
      refine attempt_bind (attempt_selectEligibleProvider fun w₄ _ hw₄ ↦ ?_)
      refine attempt_bind (attempt_ensure (by simp) fun _ ↦ ?_)
      have hw := (hw₂.trans hw₃).trans hw₄
      refine attempt_bind (attempt_insertAllocation (fun _ ↦ rfl) (hw.pending.trans hp₁)
        fun w₅ n hw₅ _ hn hunused hlock hnone ↦ ?_)
      refine attempt_bind (attempt_write (attempt_pure (committable_of_change fun s hs _ ↦ ?_)))
      refine .select (newAllocation_of_since hs hn hunused rfl hlock hnone) rfl rfl ?_
      have hpaid := (paidNeed_of_needWithRoute hneed hroute).continues
        ((hw.trans hw₅).since.trans hs).mono
      rw [← (needWithRoute_eq_some hneed).2.1, ← hsurface] at hpaid
      exact hpaid
    · exact attempt_throw (by simp)

theorem serves_select {config : AppConfig} {actor : ActorContext} {needId providerId : ℕ}
    (hpending : v.pending = id) :
    engagementDiscipline.Serves i (.select actor needId providerId) Failure.Unconflicted
      (select config actor needId providerId) v :=
  serves_bind (attempt_requireActor (serves_withTransaction fun _ hw ↦
    attempt_selectInTransaction (hw.pending.trans hpending)))

/-! ## Rotation

A rotation in addition takes a place of the member it has locked.
-/

theorem committable_rotateInTransaction {config : AppConfig} {actor : ActorContext}
    {needId rosterId : ℕ} {timestamp : ℤ} (hpending : v.pending = id) :
    engagementDiscipline.Attempt i (.rotate actor needId rosterId)
      (fun _ w ↦ Committable engagementDiscipline i (.rotate actor needId rosterId) w)
      Failure.Unconflicted (rotateInTransaction config actor needId rosterId timestamp) v := by
  refine attempt_rotateInTransaction (fun _ _ _ hkept ↦ hkept) hpending
    fun w found current allocationId providerId hw ↦ committable_of_change fun s hs _ ↦ ?_
  obtain ⟨u, hu, hn, hunused, hlock, hnone⟩ := hw.inserted
  obtain ⟨input, hpending'⟩ := hw.pending
  rw [hpending']
  have hnew : NewAllocation (Holds i s) (Drew i s) s.store
      (rotationAllocation actor found.1.id providerId rosterId timestamp allocationId) :=
    newAllocation_of_since (hu.trans hs) hn hunused rfl hlock hnone
  have hkept : s.store.membership (rosterId, providerId) = some current :=
    Eq.trans (hs.keep _ hw.locked) hw.membership
  exact .rotate hnew rfl rfl hkept (hs.holds _ hw.locked) hw.check

theorem serves_rotate {config : AppConfig} {actor : ActorContext} {needId rosterId : ℕ}
    (hpending : v.pending = id) :
    engagementDiscipline.Serves i (.rotate actor needId rosterId) Failure.Unconflicted
      (rotate config actor needId rosterId) v :=
  serves_bind (attempt_requireActor (serves_withTransaction fun _ hw ↦
    committable_rotateInTransaction (hw.pending.trans hpending)))

end Nayasetu
