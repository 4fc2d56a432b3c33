import Nayasetu.Identity.Runs
import Nayasetu.RowLock.Awaiting

/-!
# When a delegation is closed

A route reads the delegation its operator names once, in the transaction that commits, and without
a lock. So what the operator does for the citizen may be committed after the delegation has been
closed, if the closing comes between the check and the commit (`closing_ineffective`). It is not
if every request that uses the delegation has its check still before it when the delegation is
closed (`closing_takes_effect`): no such request finds the delegation open any more.
-/

namespace Nayasetu

open Values RowLock RowLock.Discipline Collections

/-- The calls that change something for a citizen. -/
def Call.onBehalf : Call → Bool
  | .createNeed _ | .directory _ _ | .select _ _ | .rotate _ _ | .cancel _ _ | .openGrievance _ =>
    true
  | _ => false

theorem Call.not_own_of_onBehalf {call : Call} (h : call.onBehalf = true) : ¬ call.Own := by
  cases call with
  | createNeed _ | directory _ _ | select _ _ | rotate _ _ | cancel _ _ | openGrievance _ => exact id
  | _ => cases h

/-- The request names the delegation, to change something for its citizen. -/
def ServiceRequest.Uses (delegationId : ℕ) : ServiceRequest → Prop
  | .http request =>
    request.headers.delegationId = .uuid delegationId ∧ request.call.onBehalf = true
  | .maintain _ _ => False

instance (delegationId : ℕ) (r : ServiceRequest) : Decidable (r.Uses delegationId) := by
  cases r <;> unfold ServiceRequest.Uses <;> infer_instance

namespace Service

variable {s s' : Service} {id : ℕ}

def HasOpen (id : ℕ) (s : Service) : Prop :=
  ∃ delegation ∈ s.database.delegations, delegation.id = id ∧ delegation.endedAt = none

def HasClosed (id : ℕ) (s : Service) : Prop :=
  ∃ delegation ∈ s.database.delegations, delegation.id = id ∧ delegation.endedAt ≠ none

instance (s : Service) : Decidable (s.HasClosed id) := by
  unfold HasClosed
  infer_instance

theorem HasClosed.not_hasOpen (hs : s.Distinct) (h : s.HasClosed id) : ¬ s.HasOpen id := by
  rintro ⟨delegation, hmem, hid, hopen⟩
  obtain ⟨other, hmem', hid', hclosed⟩ := h
  have hsame := List.inj_on_of_nodup_map hs.delegations hmem hmem' (hid.trans hid'.symm)
  exact hclosed (hsame ▸ hopen)

theorem HasClosed.later (hs : s.Distinct) (hlater : s.Later s') (h : s.HasClosed id) :
    s'.HasClosed id := by
  obtain ⟨delegation, hmem, rfl, hclosed⟩ := h
  obtain ⟨later, hmem', hsame⟩ := hlater.exists_delegation hs hmem
  refine ⟨later, hmem', hsame.parties.1, ?_⟩
  rcases hsame with rfl | ⟨hopen, -⟩
  · exact hclosed
  · exact absurd hopen hclosed

end Service

/-- After a commit that closes a delegation, no request that uses it changes anything by a
commit. -/
def ClosingTakesEffect (history : List (Entry Service ServiceRequest)) : Prop :=
  ∀ earlier e later, history = earlier ++ e :: later → ∀ id,
    ¬ e.before.HasClosed id → e.after.HasClosed id →
      ∀ e' ∈ later, e'.request.Uses id → e'.after = e'.before

/-- Whenever a step of the run closes a delegation, the requests in progress that use it commit
nothing more without finding it open: their check is still before them, or they are done. -/
def Server.ChecksFirst (server : Server) (store : Service) (clock : ℤ) (drawn : ℕ)
    (now : List (Action ServiceRequest)) : Prop :=
  ∀ moment a c₁ c₂ id, moment ++ [a] <+: now →
    exec server.program (serviceStart store clock drawn) moment = some c₁ →
      step server.program c₁ a = some c₂ →
        ¬ c₁.shared.store.HasClosed id → c₂.shared.store.HasClosed id →
          ∀ u ∈ c₁.sessions, u.request.Uses id → Awaits (Service.HasOpen id) c₁.shared.clock u

section Runs

variable {server : Server} {store : Service} {clock : ℤ} {drawn : ℕ}
  {now : List (Action ServiceRequest)} {c : ServiceConfig}

/-- A request that uses a delegation commits only if it has met it open. -/
theorem traced_uses {r : ServiceRequest} {id : ℕ} {t : ℤ} (h : r.Uses id) :
    (server.program r).Traced (fun v ↦ ∃ s ∈ v.met, s.HasOpen id) (fun _ _ ↦ True)
      (fun _ _ ↦ True) (.start t) := by
  cases r with
  | maintain change events => exact h.elim
  | http request =>
    obtain ⟨hnamed, hcall⟩ := h
    refine traced_mono (fun w hC ↦ ?_) (fun _ _ _ ↦ trivial) (fun _ _ _ ↦ trivial) traced_http
    rcases hC.permits with ⟨callback, hcallback, -⟩ | ⟨actor, hactor, -, hwarrant⟩
    · rw [hcallback] at hcall
      cases hcall
    · obtain ⟨s, hs, delegation, hmem, hid, hopen, -⟩ :=
        covered_of_warrant (Call.not_own_of_onBehalf hcall) hactor.inOrder hwarrant id
          (hactor.actsBy.delegationId_eq hnamed).1
      exact ⟨s, hs, delegation, hmem, hid, hopen⟩

/-- **Closing a delegation takes effect** in every run in which those who use it have their check
still before them when it is closed. -/
theorem closing_takes_effect (hstart : store.Start drawn)
    (hc : exec server.program (serviceStart store clock drawn) now = some c)
    (hchecks : server.ChecksFirst store clock drawn now) : ClosingTakesEffect c.shared.history := by
  intro earlier e later hhistory id hbefore hafter e' he' huses
  obtain ⟨moment, a, c₁, c₂, ⟨as, rfl⟩, hc₁, hstep, hclosing, hcommit, hbefore', hafter'⟩ :=
    exists_step_of_history hc hhistory
  rw [hbefore'] at hbefore
  rw [hafter'] at hafter
  have hc₂ : exec server.program (serviceStart store clock drawn) (moment ++ [a]) = some c₂ := by
    rw [exec_append, hc₁, Option.bind_some, exec, hstep, Option.bind_some, exec]
  -- nobody who uses the delegation has its check behind it, at the closing and after it
  obtain ⟨hawaits, -⟩ := awaits_step (P := ServiceRequest.Uses id) (fun r t ↦ traced_uses) hstep
    (fun hsame ↦ absurd hsame hcommit)
    (hchecks moment a c₁ c₂ id (List.prefix_append _ _) hc₁ hstep hbefore hafter)
  obtain ⟨-, later', hlater, hnone⟩ := awaits_run (fun r t ↦ traced_uses) hc₂ hawaits hc
    fun moment' c' hfrom _ hc' ↦ ((hafter.later (run_answered hstart hc₂).1.distinct
      (run_later hstart hfrom hc₂ hc')).not_hasOpen (run_answered hstart hc').1.distinct)
  rw [hhistory, hclosing, List.append_cons] at hlater
  obtain rfl := List.append_cancel_left hlater
  exact absurd huses (hnone e' he')

end Runs

/-! ## Two runs

In the run of refusals the request for help is done when its delegation is closed. In the late run
it has checked the delegation by then, and has yet to commit.
-/

/-- The session has nothing left to do. -/
def Ended (u : ServiceSession) : Bool :=
  match u.program with
  | none | some (.pure _) | some (.throw _) => true
  | _ => false

theorem awaits_of_isEnded {J : Service → Prop} {t : ℤ} {u : ServiceSession} (h : Ended u = true) :
    Awaits J t u := by
  refine awaits_of_ended fun p hp ↦ ?_
  rw [Ended, hp] at h
  cases p with
  | pure a => exact .inl ⟨a, rfl⟩
  | throw e => exact .inr ⟨e, rfl⟩
  | _ => cases h

/-- All who use a delegation that the step after so many actions closes are done by then. -/
def EndsFirst (now : List (Action ServiceRequest)) (n : ℕ) : Bool :=
  match exec pilotServer.program (serviceStart pilotService 1000000 30) (now.take n),
    exec pilotServer.program (serviceStart pilotService 1000000 30) (now.take (n + 1)) with
  | some c₁, some c₂ => c₂.shared.store.database.delegations.all fun delegation ↦
      decide (delegation.endedAt = none) || decide (c₁.shared.store.HasClosed delegation.id) ||
        c₁.sessions.all fun u ↦ Ended u || !decide (u.request.Uses delegation.id)
  | _, _ => true

theorem checksFirst_of_endsFirst {now : List (Action ServiceRequest)}
    (h : ∀ n < now.length, EndsFirst now n = true) :
    pilotServer.ChecksFirst pilotService 1000000 30 now := by
  intro moment a c₁ c₂ id hle hc₁ hstep hopen hclosed u hu huses
  have hlength : moment.length < now.length := by
    have := hle.length_le
    rw [List.length_append, List.length_singleton] at this
    omega
  have hmoment : now.take moment.length = moment :=
    (List.prefix_iff_eq_take.mp ((List.prefix_append _ _).trans hle)).symm
  have hnext : now.take (moment.length + 1) = moment ++ [a] := by
    rw [List.prefix_iff_eq_take.mp hle, List.length_append, List.length_singleton]
  have hc₂ : exec pilotServer.program (serviceStart pilotService 1000000 30) (moment ++ [a]) =
      some c₂ := by
    rw [exec_append, hc₁, Option.bind_some, exec, hstep, Option.bind_some, exec]
  have hends := h moment.length hlength
  rw [EndsFirst, hmoment, hnext, hc₁, hc₂] at hends
  obtain ⟨delegation, hmem, rfl, hended⟩ := hclosed
  have hall := List.all_eq_true.mp hends delegation hmem
  simp only [hended, hopen, decide_false, Bool.false_or, List.all_eq_true, Bool.or_eq_true,
    Bool.not_eq_true', decide_eq_false_iff_not] at hall
  exact awaits_of_isEnded ((hall u hu).resolve_right (not_not_intro huses))

theorem closing_takes_effect_refusedRun : ClosingTakesEffect afterRefusals.shared.history ∧
    ∃ e ∈ afterRefusals.shared.history, ¬ e.before.HasClosed 20 ∧ e.after.HasClosed 20 :=
  ⟨closing_takes_effect pilotService_start exec_refusedRun
    (checksFirst_of_endsFirst (by decide +kernel)), by decide +kernel⟩

/-- The operator files a request for the citizen, and closes the delegation while it is underway. -/
def lateRun : List (Action ServiceRequest) :=
  attend 0 4 operatorHeaders (.createNeed delegatedNeed) ++
    attend 1 9 (bearer operatorToken "OPERATOR") (.closeDelegation 20) ++ List.replicate 5 (.run 0 0)

theorem lateRun_possible :
    (exec pilotServer.program (serviceStart pilotService 1000000 30) lateRun).isSome := by
  decide +kernel

abbrev afterLateRun : ServiceConfig :=
  (exec pilotServer.program (serviceStart pilotService 1000000 30) lateRun).get lateRun_possible

/-- The request is committed under a delegation that has been closed. -/
theorem closing_ineffective :
    ∃ c, exec pilotServer.program (serviceStart pilotService 1000000 30) lateRun = some c ∧
      ¬ ClosingTakesEffect c.shared.history := by
  refine ⟨afterLateRun, (Option.some_get _).symm, fun h ↦ ?_⟩
  have htwo : afterLateRun.shared.history.length = 2 := by decide +kernel
  have hcloses : ∀ e ∈ afterLateRun.shared.history.head?,
      ¬ e.before.HasClosed 20 ∧ e.after.HasClosed 20 := by decide +kernel
  have huses : ∀ e ∈ afterLateRun.shared.history.getLast?, e.request.Uses 20 ∧
      e.after.database.needs.length ≠ e.before.database.needs.length := by decide +kernel
  obtain ⟨e, e', hhistory⟩ := List.length_eq_two.mp htwo
  rw [hhistory] at hcloses huses
  obtain ⟨hbefore, hafter⟩ := hcloses e rfl
  obtain ⟨huse, hchanged⟩ := huses e' rfl
  have hsame := h [] e [e'] hhistory 20 hbefore hafter e' (List.mem_singleton_self _) huse
  exact hchanged (congrArg (fun s : Service ↦ s.database.needs.length) hsame)

end Nayasetu
