import Nayasetu.Engagement.Requests

/-!
# Walks through the shared parts

What the statements that several routes share leave a transaction with, under any discipline: which
locks it holds, what it has read and what it has written. The errors on the way never say that the
scheduling tables contradict each other.

The lemmas are rules for programs and are stated for any discipline over the database, so that
another system with the same routes can use them. The name of each is that of the part it is
about.
-/

namespace Nayasetu

open RowLock RowLock.Discipline Collections

/-- The error is not the one of an update that did not find its row. -/
def Failure.Unconflicted : Failure → Prop
  | .app _ code _ => code ≠ "SCHEDULING_STATE_CONFLICT"
  | _ => True

@[simp] theorem unconflicted_app_iff {status : ℕ} {code message : String} :
    (Failure.app status code message).Unconflicted ↔ code ≠ "SCHEDULING_STATE_CONFLICT" := Iff.rfl

@[simp] theorem unconflicted_error {message : String} : (Failure.error message).Unconflicted :=
  trivial

@[simp] theorem unconflicted_database {sqlstate message : String} :
    (Failure.database sqlstate message).Unconflicted := trivial

variable {α Req : Type} {D : Discipline Database LockKey Req} {i : ℕ} {r : Req}
  {v : View Database LockKey Req}

/-! ## Authority

These parts only read. After them the transaction knows no more than that it was not refused.
-/

section Authority

variable {Q : Unit → View Database LockKey Req → Prop} {actor : ActorContext}

theorem attempt_requireActor {roles : List Role} (h : Q () v) :
    D.Attempt i r Q Failure.Unconflicted (requireActor actor roles) v :=
  attempt_ensure (by simp) fun _ ↦ h

theorem attempt_parseBody {condition : Prop} [Decidable condition] (h : condition → Q () v) :
    D.Attempt i r Q Failure.Unconflicted (parseBody condition) v :=
  attempt_ensure (by simp) h

theorem attempt_ensureText {texts : List String} (h : Q () v) :
    D.Attempt i r Q Failure.Unconflicted (ensureText texts) v :=
  attempt_ensure trivial fun _ ↦ h

theorem attempt_assertCitizenAuthority {citizenUserId : ℕ} (hv : D.Inv v.shared)
    (h : ∀ w, D.Onward i v w → Q () w) :
    D.Attempt i r Q Failure.Unconflicted (assertCitizenAuthority actor citizenUserId) v := by
  rw [assertCitizenAuthority]
  split
  · exact attempt_ensure (by simp) fun _ ↦ h v (.refl hv)
  · refine attempt_bind (attempt_ensure (by simp) fun _ ↦ ?_)
    exact attempt_bind (attempt_snapshot fun w hw _ ↦ attempt_ensure (by simp) fun _ ↦ h w hw)

theorem attempt_assertInstitutionalRosterGrant {rosterId : ℕ} {scope : String} {timestamp : ℤ}
    (hv : D.Inv v.shared) (h : ∀ w, D.Onward i v w → Q () w) :
    D.Attempt i r Q Failure.Unconflicted
      (assertInstitutionalRosterGrant actor rosterId scope timestamp) v := by
  have hrest : D.Attempt i r Q Failure.Unconflicted (do
      ensure (actor.actorType = .institution)
        (.app 403 "FORBIDDEN" "Institutional roster authority is required")
      ensure (scope ∈ actor.scopes)
        (.app 403 "MISSING_SCOPE" "Required institutional roster scope is missing")
      ensure (∃ grant ∈ (← snapshot).rosterGrants, grant.Permits actor rosterId scope timestamp)
        (.app 403 "ROSTER_GRANT_NOT_ACTIVE" "No active grant permits this roster access")) v := by
    refine attempt_bind (attempt_ensure (by simp) fun _ ↦ ?_)
    refine attempt_bind (attempt_ensure (by simp) fun _ ↦ ?_)
    exact attempt_bind (attempt_snapshot fun w hw _ ↦ attempt_ensure (by simp) fun _ ↦ h w hw)
  rw [assertInstitutionalRosterGrant]
  split
  · exact attempt_pure (h v (.refl hv))
  · exact hrest

end Authority

/-! ## Intake -/

section Intake

theorem attempt_toMoney {amount : ℚ} {Q : ℤ → View Database LockKey Req → Prop}
    (h : ∀ units, Q units v) : D.Attempt i r Q Failure.Unconflicted (toMoney amount) v := by
  rw [toMoney]
  split
  · exact attempt_pure (h _)
  · exact attempt_throw (by simp)

variable {actor : ActorContext} {body : NeedBody}

/-- A request and its decision are stored under a new number. -/
theorem attempt_createNeedInTransaction {taxonomyCode : String} {decision : RoutingDecision}
    {timestamp : ℤ} {Q : ℕ → View Database LockKey Req → Prop} (hv : D.Inv v.shared)
    (hpending : v.pending = id)
    (h : ∀ w n feeCeiling auditEvents, D.Since i v.shared w.shared →
      w.shared.minted[n]? = some (some i) → D.Unused n w.shared.store →
      w.pending = Database.insertAudit auditEvents ∘
        Database.insertDecision (decision.row n timestamp) ∘
        Database.insertNeed (body.row actor taxonomyCode feeCeiling timestamp n) → Q n w) :
    D.Attempt i r Q Failure.Unconflicted
      (createNeedInTransaction actor body taxonomyCode decision timestamp) v := by
  refine attempt_bind (attempt_assertCitizenAuthority hv fun w₁ hw₁ ↦ ?_)
  refine attempt_bind (attempt_ensureText ?_)
  have hrest (feeCeiling : Option ℤ) : D.Attempt i r Q Failure.Unconflicted (do
      let id ← nextval
      write (Database.insertNeed (body.row actor taxonomyCode feeCeiling timestamp id))
      ensureText decision.section12Category.toList
      write (Database.insertDecision (decision.row id timestamp))
      writeAudit actor {
        action := "need.created_and_routed", entityType := "need_request",
        entityId := uuidText id,
        afterSummary := some (.object [("taxonomyCode", .string taxonomyCode),
          ("district", .string body.district), ("channel", .string body.channel),
          ("route", .string decision.route.text)]) }
      return id) w₁ := by
    refine attempt_bind (attempt_nextval fun w₂ n hw₂ _ hn hunused ↦ ?_)
    refine attempt_bind (attempt_write (attempt_bind (attempt_ensureText ?_)))
    refine attempt_bind (attempt_write (attempt_bind (attempt_write (attempt_pure ?_))))
    have hp : w₂.pending = id := (hw₁.trans hw₂).pending.trans hpending
    simp only [hp, Function.comp_id]
    exact h _ n feeCeiling _ (hw₁.trans hw₂).since hn hunused rfl
  cases body.feeCeiling with
  | none => exact attempt_bind (attempt_pure (hrest none))
  | some amount =>
    exact attempt_bind
      (attempt_bind (attempt_toMoney fun units ↦ attempt_pure (hrest (some units))))

/-- A request comes in as its transaction stores it. -/
theorem serves_createNeed {config : AppConfig} (hpending : v.pending = id)
    (h : ∀ w taxonomyCode decision, D.Onward i v w → w.pending = id →
      (decision.route = .paid → decision.section12Category = none) →
      D.Attempt i r (fun _ w' ↦ Committable D i r w') Failure.Unconflicted
        (createNeedInTransaction actor body taxonomyCode decision w.shared.clock) w) :
    D.Serves i r Failure.Unconflicted (createNeed config actor body) v := by
  refine serves_bind (attempt_requireActor (serves_bind (attempt_parseBody fun _ ↦ ?_)))
  cases body.taxonomyCode with
  | none => exact serves_throw (by simp)
  | some taxonomyCode =>
    refine serves_bind (attempt_ensure (by simp) fun _ ↦ ?_)
    refine serves_bind (attempt_ensure (by simp) fun _ ↦ ?_)
    refine serves_bind (attempt_ensure (by simp) fun _ ↦ ?_)
    exact serves_map (serves_withTransaction fun w hw ↦
      h w taxonomyCode _ hw (hw.pending.trans hpending) section12_of_paid)

end Intake

/-! ## Requests and their routes

The join of a request with its decision, locked on the side of the request.
-/

theorem needWithRoute_eq_some {db : Database} {id : ℕ} {need : NeedRequest}
    {decision : EligibilityDecision} (h : db.needWithRoute id = some (need, decision)) :
    db.need id = some need ∧ need.id = id ∧ db.decision id = some decision := by
  simp only [Database.needWithRoute, Option.bind_eq_bind, Option.bind_eq_some_iff, Option.pure_def,
    Option.some.injEq, Prod.mk.injEq] at h
  obtain ⟨need', hneed, decision', hdecision, rfl, rfl⟩ := h
  have hid : need'.id = id := (lookupBy_mem hneed).2
  exact ⟨hneed, hid, hid ▸ hdecision⟩

/-- A request and its route, read under their locks. -/
theorem attempt_selectNeedForUpdate {needId : ℕ}
    {Q : Option (NeedRequest × EligibilityDecision) → View Database LockKey Req → Prop}
    (hpending : v.pending = id) (hnone : ∀ w, D.Onward i v w → Q none w)
    (hsome : ∀ w need decision, D.Onward i v w → w.pending = id →
      w.shared.holder (.needRequest needId) = some i →
      w.shared.store.needWithRoute needId = some (need, decision) → Q (some (need, decision)) w) :
    D.Attempt i r Q Failure.Unconflicted (selectNeedForUpdate needId) v := by
  refine attempt_bind (attempt_snapshot fun w₁ hw₁ _ ↦ ?_)
  cases (v.pending w₁.shared.store).needWithRoute needId with
  | none => exact attempt_pure (hnone w₁ hw₁)
  | some found =>
    refine attempt_bind (attempt_lock fun w₂ hw₂ _ hlock ↦ ?_)
    refine attempt_bind (attempt_lock fun w₃ hw₃ _ _ ↦ attempt_pure ?_)
    have hw := (hw₁.trans hw₂).trans hw₃
    have hp₂ : w₂.pending = id := (hw₂.pending.trans hw₁.pending).trans hpending
    rw [hp₂]
    change Q (w₃.shared.store.needWithRoute needId) w₃
    cases hneed : w₃.shared.store.needWithRoute needId with
    | none => exact hnone w₃ hw
    | some row =>
      exact hsome w₃ row.1 row.2 hw (hw.pending.trans hpending) (hw₃.since.holds _ hlock) hneed

/-! ## Allocations

The unique key is locked before the row is inserted, which is how two insertions are kept apart.
-/

/-- A new allocation has its own number, and nothing stands for its request under the lock that
guards this. -/
theorem attempt_insertAllocation {row : ℕ → Allocation} {needId : ℕ}
    {Q : ℕ → View Database LockKey Req → Prop} (hrow : ∀ n, (row n).needRequestId = needId)
    (hpending : v.pending = id)
    (h : ∀ w n, D.Onward i v w → w.snapshot = v.snapshot → w.shared.minted[n]? = some (some i) →
      D.Unused n w.shared.store → w.shared.holder (.oneActiveAllocation needId) = some i →
      w.shared.store.activeAllocation needId = none →
      Q n { w with pending := Database.insertAllocation (row n) }) :
    D.Attempt i r Q Failure.Unconflicted (insertAllocation row) v := by
  refine attempt_bind (attempt_nextval fun w₁ n hw₁ hsnap₁ hn hunused ↦ ?_)
  rw [hrow]
  refine attempt_bind (attempt_lock fun w₂ hw₂ hsnap₂ hlock ↦ ?_)
  have hp₁ : w₁.pending = id := hw₁.pending.trans hpending
  have hp₂ : w₂.pending = id := hw₂.pending.trans hp₁
  have hfinish (w : View Database LockKey Req) (hw : D.Onward i w₂ w)
      (hsnap : w.snapshot = w₂.snapshot) : D.Attempt i r Q Failure.Unconflicted (do
        ensure (w.shared.store.activeAllocation needId = none) (.database "23505"
          "duplicate key value violates unique constraint \"allocation_one_active_per_need\"")
        write (Database.insertAllocation (row n))
        return n) w := by
    refine attempt_bind (attempt_ensure trivial fun hnone ↦ ?_)
    refine attempt_bind (attempt_write (attempt_pure ?_))
    have hp : w.pending = id := hw.pending.trans hp₂
    have hsince := hw₂.since.trans hw.since
    rw [hp, Function.comp_id]
    exact h w n ((hw₁.trans hw₂).trans hw) (hsnap.trans (hsnap₂.trans hsnap₁)) (hsince.drawn hn)
      (hsince.unused n hn hunused) (hw.since.holds _ hlock) hnone
  rw [hp₁, id]
  cases hactive : w₂.shared.store.activeAllocation needId with
  | none => exact attempt_bind (attempt_pure (hfinish w₂ (.refl hw₂.inv) rfl))
  | some active =>
    refine attempt_bind (attempt_lock fun w₃ hw₃ hsnap₃ _ ↦ ?_)
    rw [hp₂]
    exact hfinish w₃ hw₃ hsnap₃

theorem activeAllocation_eq_none {db : Database} {needId : ℕ}
    (h : db.activeAllocation needId = none) :
    ∀ a ∈ db.allocations, a.needRequestId = needId → a.status ≠ .assigned := by
  intro a ha hneed hassigned
  have := List.find?_eq_none.mp h a ha
  simp [hneed, hassigned] at this

/-! ## Rotation

By induction on the candidates that are left: whichever member is claimed, its row is locked and
fits.
-/

section Rotation

variable {config : AppConfig} {need : NeedRequest} {route : EligibilityRoute} {timestamp : ℤ}

/-- The member that is claimed is under lock and eligible, and every candidate before it has been
locked by somebody. -/
theorem attempt_claimMember {db : Database} {members : List RosterMembership}
    {Q : Option ℕ → View Database LockKey Req → Prop} (hv : D.Inv v.shared)
    (hpending : v.pending = id)
    (hnone : ∀ w, D.Onward i v w → Q none w)
    (hsome : ∀ w first member rest, D.Onward i v w → w.snapshot = v.snapshot → w.pending = id →
      members = first ++ member :: rest →
      (∀ other ∈ first, w.shared.Touched (.rosterMembership other.key)) →
      w.shared.holder (.rosterMembership member.key) = some i →
      memberEligible config need route timestamp db w.shared.store member.key = true →
      Q (some member.providerId) w) :
    D.Attempt i r Q Failure.Unconflicted
      (claimMember config need route timestamp db members) v := by
  induction members generalizing v with
  | nil => exact attempt_pure (hnone v (.refl hv))
  | cons member members ih =>
    -- Whatever keeps the loop from taking this member, somebody has locked it.
    have hskip (w : View Database LockKey Req) (hw : D.Onward i v w)
      (hsnap : w.snapshot = v.snapshot)
        (htouched : w.shared.Touched (.rosterMembership member.key)) :
        D.Attempt i r Q Failure.Unconflicted
          (claimMember config need route timestamp db members) w := by
      refine ih hw.inv (hw.pending.trans hpending) (fun w' hw' ↦ hnone w' (hw.trans hw'))
        fun w' first found rest hw' hsnap' hp' hmembers hfirst hlock heligible ↦ ?_
      refine hsome w' (member :: first) found rest (hw.trans hw')
        (hsnap'.trans hsnap) hp' ?_ ?_ hlock
        heligible
      · rw [hmembers, List.cons_append]
      · exact List.forall_mem_cons.mpr ⟨hw'.since.touched _ htouched, hfirst⟩
    refine attempt_bind
      (attempt_tryLock (fun w₁ hw₁ hsnap₁ hlock ↦ ?_) fun w₁ hw₁ hsnap₁ htouched ↦ ?_)
    · have htouched (w : View Database LockKey Req) (hw : D.Onward i w₁ w) :
          w.shared.Touched (.rosterMembership member.key) :=
        .inl (by rw [hw.since.holds _ hlock]; exact Option.some_ne_none i)
      refine attempt_bind (attempt_tryLock (fun w₂ hw₂ hsnap₂ _ ↦ ?_) fun w₂ hw₂ hsnap₂ _ ↦ ?_)
      · have hp₁ : w₁.pending = id := hw₁.pending.trans hpending
        rw [hp₁]
        change D.Attempt i r Q _ (if memberEligible config need route timestamp db w₂.shared.store
          member.key then _ else _) w₂
        by_cases heligible :
          memberEligible config need route timestamp db w₂.shared.store member.key
        · rw [if_pos heligible]
          refine attempt_pure (hsome w₂ [] member members (hw₁.trans hw₂) (hsnap₂.trans hsnap₁)
            (hw₂.pending.trans hp₁) rfl (by simp) (hw₂.since.holds _ hlock) heligible)
        · rw [if_neg heligible]
          exact hskip w₂ (hw₁.trans hw₂) (hsnap₂.trans hsnap₁) (htouched w₂ hw₂)
      · exact hskip w₂ (hw₁.trans hw₂) (hsnap₂.trans hsnap₁) (htouched w₂ hw₂)
    · exact hskip w₁ hw₁ hsnap₁ htouched

/-- The order of the candidates is that of the snapshot of the selection, which was the store at some
moment of the transaction. -/
theorem attempt_selectMember {rosterId : ℕ} {Q : Option ℕ → View Database LockKey Req → Prop}
    (hpending : v.pending = id) (hnone : ∀ w, D.Onward i v w → Q none w)
    (hsome : ∀ u w members first member rest, D.Onward i v u → D.Onward i u w →
      w.snapshot = u.shared.store → w.pending = id →
      members.Perm (eligibleMembers config need route timestamp w.snapshot rosterId) →
      sortBy compareMembers members = first ++ member :: rest →
      (∀ other ∈ first, w.shared.Touched (.rosterMembership other.key)) →
      w.shared.holder (.rosterMembership member.key) = some i →
      memberEligible config need route timestamp w.snapshot w.shared.store member.key = true →
      Q (some member.providerId) w) :
    D.Attempt i r Q Failure.Unconflicted (selectMember config need route timestamp rosterId) v := by
  refine attempt_bind (attempt_snapshot fun w₁ hw₁ hsnap₁ ↦ ?_)
  have hp₁ : w₁.pending = id := hw₁.pending.trans hpending
  rw [hpending]
  refine attempt_bind (attempt_bind (attempt_choose fun n ↦ attempt_pure ?_))
  refine attempt_claimMember hw₁.inv hp₁ (fun w hw ↦ hnone w (hw₁.trans hw))
    fun w first member rest hw hsnap hp hmembers hfirst hlock heligible ↦ ?_
  have hstore : w.snapshot = w₁.shared.store := hsnap.trans hsnap₁
  refine hsome w₁ w _ first member rest hw₁ hw hstore hp ?_ hmembers hfirst hlock ?_
  · rw [hstore]
    exact perm_anyOrder _ n
  · rw [hstore]
    exact heligible

end Rotation

/-- The member's counter goes up by one. -/
theorem attempt_assignMember {key : ℕ × ℕ} {timestamp : ℤ}
    {Q : Unit → View Database LockKey Req → Prop}
    (hmembership : ∀ db, (v.pending db).membership key = db.membership key)
    (hnone : ∀ w, D.Onward i v w → w.snapshot = v.snapshot →
      w.shared.store.membership key = none → Q () w)
    (hsome : ∀ w member, D.Onward i v w → w.snapshot = v.snapshot →
      w.shared.holder (.rosterMembership key) = some i →
      w.shared.store.membership key = some member → (member.assign timestamp).ActiveMattersCheck →
      Q () { w with pending := Database.updateMembership (member.assign timestamp) ∘ v.pending }) :
    D.Attempt i r Q Failure.Unconflicted (assignMember key timestamp) v := by
  refine attempt_bind (attempt_lock fun w hw hsnap hlock ↦ ?_)
  rw [hmembership]
  cases hmember : w.shared.store.membership key with
  | none => exact attempt_pure (hnone w hw hsnap hmember)
  | some member =>
    refine attempt_bind (attempt_ensure trivial fun hcheck ↦ attempt_write ?_)
    rw [hw.pending]
    exact hsome w member hw hsnap hlock hmember hcheck

/-- What a rotation has gathered when it is about to commit: the request it has read, the members in
the order of its snapshot, those it has passed over, the row it has locked, and what it has
written. -/
structure RotationGathered (D : Discipline Database LockKey Req) (i : ℕ) (config : AppConfig)
    (actor : ActorContext) (needId rosterId : ℕ) (timestamp : ℤ) (v w : View Database LockKey Req)
    (found : NeedRequest × EligibilityDecision) (current : RosterMembership)
    (allocationId providerId : ℕ) : Prop where
  read : ∃ s, D.Since i v.shared s ∧ D.Since i s w.shared ∧
    s.store.needWithRoute needId = some found
  selected : ∃ s members first member rest, D.Inv s ∧ D.Since i v.shared s ∧
    D.Since i s w.shared ∧ s.store = w.snapshot ∧
    members.Perm (eligibleMembers config found.1 found.2.route timestamp w.snapshot rosterId) ∧
    sortBy compareMembers members = first ++ member :: rest ∧
    member.key = (rosterId, providerId) ∧
    ∀ other ∈ first, w.shared.Touched (.rosterMembership other.key)
  inserted : ∃ s, D.Since i s w.shared ∧ s.minted[allocationId]? = some (some i) ∧
    D.Unused allocationId s.store ∧ s.holder (.oneActiveAllocation found.1.id) = some i ∧
    s.store.activeAllocation found.1.id = none
  locked : w.shared.holder (.rosterMembership (rosterId, providerId)) = some i
  membership : w.shared.store.membership (rosterId, providerId) = some current
  check : (current.assign timestamp).ActiveMattersCheck
  pending : ∃ input, w.pending = Database.insertAudit [auditEvent actor input] ∘
    Database.updateMembership (current.assign timestamp) ∘ Database.insertAllocation
      (rotationAllocation actor found.1.id providerId rosterId timestamp allocationId)

/-- A rotation ends with an allocation to the member it has locked, or it fails. -/
theorem attempt_rotateInTransaction {config : AppConfig} {actor : ActorContext}
    {needId rosterId : ℕ} {timestamp : ℤ} {Q : ℕ × ℕ → View Database LockKey Req → Prop}
    (hkeep : ∀ key db db', D.Keep (.rosterMembership key) db db' →
      db'.membership key = db.membership key)
    (hpending : v.pending = id)
    (h : ∀ w found current allocationId providerId, RotationGathered D i config actor needId
      rosterId timestamp v w found current allocationId providerId →
      Q (allocationId, providerId) w) :
    D.Attempt i r Q Failure.Unconflicted
      (rotateInTransaction config actor needId rosterId timestamp) v := by
  refine attempt_bind (attempt_selectNeedForUpdate hpending
    (fun _ _ ↦ attempt_throw (by simp)) fun w₁ need decision hw₁ hp₁ _ hneed ↦ ?_)
  refine attempt_ite_bind (fun _ w ↦ D.Onward i w₁ w)
    (fun _ ↦ attempt_assertCitizenAuthority hw₁.inv fun _ hw ↦ hw)
    (fun _ ↦ attempt_assertInstitutionalRosterGrant hw₁.inv fun _ hw ↦ hw) fun _ w₂ hw₂ ↦ ?_
  refine attempt_bind (attempt_ensure (by simp) fun _ ↦ ?_)
  refine attempt_bind (attempt_ensure (by simp) fun _ ↦ ?_)
  refine attempt_bind (attempt_selectMember (hw₂.pending.trans hp₁)
    (fun _ _ ↦ attempt_throw (by simp))
    fun u w₃ members first member rest hu hw₃ hsnap hp₃ hperm hmembers hfirst hlock heligible ↦ ?_)
  have hmem : member ∈ eligibleMembers config need decision.route timestamp
      w₃.snapshot rosterId := by
    refine hperm.subset ((sortBy_perm compareMembers members).subset ?_)
    rw [hmembers]
    exact List.mem_append_right _ List.mem_cons_self
  have hroster : member.rosterId = rosterId := by
    have := (List.mem_filter.mp hmem).2
    rw [Bool.and_eq_true] at this
    exact of_decide_eq_true this.1
  have hkey : member.key = (rosterId, member.providerId) := by rw [RosterMembership.key, hroster]
  obtain ⟨current, hcurrent, -⟩ := exists_membership_of_eligible heligible
  rw [hkey] at hlock hcurrent
  refine attempt_bind (attempt_insertAllocation (fun _ ↦ rfl) hp₃
    fun w₄ n hw₄ hsnap₄ hn hunused hlock₄ hnone ↦ ?_)
  refine attempt_bind (attempt_assignMember (fun _ ↦ rfl) (fun w₅ hw₅ _ hmissing ↦ ?_)
    fun w₅ current hw₅ hsnap₅ hlock₅ hmembership hcheck ↦ ?_)
  · -- the row is still there, because it has been locked in between
    have hkept := hkeep _ _ _ ((hw₄.since.trans hw₅.since).keep _ hlock)
    exact absurd (hmissing.symm.trans (hkept.trans hcurrent)) (by simp)
  · refine attempt_bind (attempt_write (attempt_pure (h _ (need, decision) current _ _ ?_)))
    have hsince := (hw₃.since.trans hw₄.since).trans hw₅.since
    have hsame : w₅.snapshot = w₃.snapshot := hsnap₅.trans hsnap₄
    exact
      { read := ⟨w₁.shared, hw₁.since, (hw₂.since.trans hu.since).trans hsince, hneed⟩
        selected := ⟨u.shared, members, first, member, rest, hu.inv,
          (hw₁.since.trans hw₂.since).trans hu.since, hsince, hsnap.symm.trans hsame.symm,
          hsame ▸ hperm, hmembers, hkey,
          fun other hother ↦ (hw₄.since.trans hw₅.since).touched _ (hfirst other hother)⟩
        inserted := ⟨w₄.shared, hw₅.since, hn, hunused, hlock₄, hnone⟩
        locked := hlock₅
        membership := hmembership
        check := hcheck
        pending := ⟨_, rfl⟩ }

end Nayasetu
