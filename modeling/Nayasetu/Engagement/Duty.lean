import Nayasetu.Engagement.Discipline

/-!
# Duty accounting

A provider of a roster gives an assignment up by declining or by cancelling its booking. Declining
is put on its record as a conduct signal, cancelling is not. `Accounts` is the balance of the two
over the history of a run, commit by commit.
-/

namespace Nayasetu

open RowLock Collections

/-! ## Who gives up what

An assignment is given up by a provider if a request of that provider takes it out of the state in
which it stands. Cancelling by the citizen is not giving up.
-/

/-- Who makes a request. -/
def EngagementRequest.actor : EngagementRequest → Option ActorContext
  | .createNeed actor _ => some actor
  | .referral actor _ => some actor
  | .directory actor _ _ => some actor
  | .select actor _ _ => some actor
  | .rotate actor _ _ => some actor
  | .accept actor _ => some actor
  | .decline actor _ _ => some actor
  | .cancel actor _ _ => some actor
  | .quote actor _ => some actor
  | .holdBooking _ => none
  | .changeRegistry _ => none
  | .hold _ => none

def EngagementRequest.MadeBy (r : EngagementRequest) (providers : List Provider) (providerId : ℕ) :
    Prop :=
  ∃ actor ∈ r.actor, actor.actorType = .provider ∧
    ∃ provider ∈ providers, provider.id = providerId ∧ provider.userId = actor.actorId

instance (r : EngagementRequest) (providers : List Provider) (providerId : ℕ) :
    Decidable (r.MadeBy providers providerId) := inferInstanceAs (Decidable (∃ _ ∈ _, _))

/-- In this commit the allocation leaves the state `ASSIGNED`. -/
def Leaves (e : Entry Database EngagementRequest) (id : ℕ) : Prop :=
  (∃ a ∈ e.before.allocation id, a.status = .assigned) ∧
    ∃ a ∈ e.after.allocation id, a.status ≠ .assigned

instance (e : Entry Database EngagementRequest) (id : ℕ) : Decidable (Leaves e id) :=
  inferInstanceAs (Decidable (_ ∧ _))

/-- The allocation has left the state `ASSIGNED` through a request of its own provider. -/
def GivenUp (history : List (Entry Database EngagementRequest)) (a : Allocation) : Prop :=
  ∃ e ∈ history, Leaves e a.id ∧ e.request.MadeBy e.before.providers a.providerId

instance (history : List (Entry Database EngagementRequest)) (a : Allocation) :
    Decidable (GivenUp history a) := inferInstanceAs (Decidable (∃ _ ∈ _, _))

/-- The rotated allocations of a provider that it has given up itself. -/
def givenUpCount (history : List (Entry Database EngagementRequest)) (db : Database)
    (providerId : ℕ) : ℕ :=
  db.allocations.countP fun a ↦
    a.mode = .rotation && a.providerId = providerId && decide (GivenUp history a)

def Database.rotationDeclines (db : Database) (providerId : ℕ) : ℕ :=
  db.signals.countP fun signal ↦
    signal.signalType = "ROTATION_DECLINE" && signal.providerId = providerId

def EngagementRequest.endsBooking : EngagementRequest → Option ℕ
  | .decline _ bookingId _ => some bookingId
  | .cancel _ bookingId _ => some bookingId
  | _ => none

def endedAllocation (e : Entry Database EngagementRequest) : Option Allocation := do
  let bookingId ← e.request.endsBooking
  let b ← e.before.booking bookingId
  e.before.allocation b.allocationId

def EngagementRequest.canceller : EngagementRequest → Option ActorContext
  | .cancel actor _ _ => some actor
  | _ => none

/-- A provider cancels the booking of a rotated allocation of `providerId`. -/
def CancelsDuty (e : Entry Database EngagementRequest) (providerId : ℕ) : Prop :=
  (∃ actor ∈ e.request.canceller, actor.actorType = .provider) ∧
    ∃ a ∈ endedAllocation e, a.mode = .rotation ∧ a.providerId = providerId

instance (e : Entry Database EngagementRequest) (providerId : ℕ) :
    Decidable (CancelsDuty e providerId) := inferInstanceAs (Decidable (_ ∧ _))

/-! ## One commit

A commit ends at most one assignment. An assignment that has been given up stays so, so it is
counted once.
-/

/-- What a commit puts on the record, and whose request it was. -/
inductive DutyCommit (e : Entry Database EngagementRequest) : Prop where
  | declined {actor : ActorContext} {bookingId : ℕ} {reasonCode : String} {a : Allocation}
    {signals : List ConductSignal} (hrequest : e.request = .decline actor bookingId reasonCode)
    (ha : endedAllocation e = some a) (hown : e.request.MadeBy e.before.providers a.providerId)
    (hsignals : e.after.signals = e.before.signals ++ signals)
    (hrecord : a.rosterId = none → signals = [])
    (hdecline : a.rosterId ≠ none → ∃ timestamp id,
      signals = [rotationDecline a.providerId reasonCode timestamp id])
  | cancelled {actor : ActorContext} {bookingId : ℕ} {reasonCode : String} {a : Allocation}
    (hrequest : e.request = .cancel actor bookingId reasonCode) (ha : endedAllocation e = some a)
    (hown : actor.actorType = .provider → e.request.MadeBy e.before.providers a.providerId)
    (hsignals : e.after.signals = e.before.signals)
  | other (hends : e.request.endsBooking = none) (hsignals : e.after.signals = e.before.signals)

section Commit

variable {e : Entry Database EngagementRequest} {history : List (Entry Database EngagementRequest)}
  {providerId : ℕ}

theorem givenUp_concat_iff {a : Allocation} : GivenUp (history ++ [e]) a ↔
    GivenUp history a ∨ (Leaves e a.id ∧ e.request.MadeBy e.before.providers a.providerId) := by
  simp [GivenUp, or_and_right, exists_or]

/-- Whatever has left the state `ASSIGNED` is still there, in another state. -/
def Settled (history : List (Entry Database EngagementRequest)) (db : Database) : Prop :=
  ∀ e ∈ history, ∀ id, Leaves e id → ∃ a, db.allocation id = some a ∧ a.status ≠ .assigned

theorem Settled.continues {db db' : Database} (h : Settled history db) (hc : Continues db db') :
    Settled history db' := by
  intro e he id hleaves
  obtain ⟨a, ha, hstatus⟩ := h e he id hleaves
  obtain ⟨a', ha', -, -, -, -, hsame⟩ := hc.allocation id a ha
  exact ⟨a', ha', (hsame hstatus).symm ▸ hstatus⟩

theorem Settled.concat (h : Settled history e.before) (hc : Continues e.before e.after) :
    Settled (history ++ [e]) e.after := by
  intro e' he' id hleaves
  rcases List.mem_append.mp he' with hold | hnew
  · exact h.continues hc e' hold id hleaves
  · rw [List.mem_singleton.mp hnew] at hleaves
    exact hleaves.2

/-- A commit that leaves all allocations alone, or adds one, changes no account. -/
theorem givenUpCount_of_append {rows : List Allocation} (h : Settled history e.before)
    (hafter : e.after.allocations = e.before.allocations ++ rows)
    (hfresh : ∀ row ∈ rows, e.before.allocation row.id = none) :
    givenUpCount (history ++ [e]) e.after providerId =
    givenUpCount history e.before providerId := by
  have hstays : ∀ id, ¬ Leaves e id := by
    rintro id ⟨⟨a, ha, hassigned⟩, a', ha', hended⟩
    have hsame : e.after.allocation id = some a := by
      rw [Database.allocation, hafter, lookupBy, List.find?_append, ← lookupBy,
        ← Database.allocation, ha]
      rfl
    rw [hsame] at ha'
    exact hended (Option.some.inj ha' ▸ hassigned)
  have hkept (a : Allocation) : GivenUp (history ++ [e]) a ↔ GivenUp history a := by
    rw [givenUp_concat_iff, or_iff_left fun h ↦ hstays a.id h.1]
  have hnew : ∀ row ∈ rows, ¬ GivenUp history row := by
    rintro row hrow ⟨e', he', hleaves, -⟩
    obtain ⟨a, ha, -⟩ := h e' he' row.id hleaves
    rw [hfresh row hrow] at ha
    exact Option.some_ne_none a ha.symm
  rw [givenUpCount, givenUpCount, hafter, List.countP_append]
  simp only [hkept]
  rw [Nat.add_eq_left, List.countP_eq_zero]
  intro row hrow
  simp [hnew row hrow]

/-- A commit that ends an allocation charges the provider if the request was its own. -/
theorem givenUpCount_of_replace {a a' : Allocation} {status : AllocationStatus}
    (h : Settled history e.before) (hids : (e.before.allocations.map (·.id)).Nodup)
    (ha : e.before.allocation a.id = some a) (hassigned : a.status = .assigned)
    (hended : a.EndedAs a' status) (hstatus : status ≠ .assigned)
    (hafter : e.after.allocations = replaceBy (·.id) a' e.before.allocations) :
    givenUpCount (history ++ [e]) e.after providerId = givenUpCount history e.before providerId +
      if a.mode = .rotation ∧ a.providerId = providerId ∧
        e.request.MadeBy e.before.providers a.providerId then 1 else 0 := by
  have hlookup (id : ℕ) : e.after.allocation id =
      if id = a.id then (e.before.allocation id).map fun _ ↦ a' else e.before.allocation id := by
    rw [Database.allocation, hafter, ← hended.id]
    exact lookupBy_replaceBy id a' e.before.allocations
  have hleaves (id : ℕ) : Leaves e id ↔ id = a.id := by
    constructor
    · rintro ⟨⟨b, hb, hassigned⟩, b', hb', hstatus⟩
      by_contra hid
      rw [hlookup, if_neg hid, hb] at hb'
      exact hstatus (Option.some.inj hb' ▸ hassigned)
    · rintro rfl
      refine ⟨⟨a, ha, hassigned⟩, a', ?_, hended.status ▸ hstatus⟩
      rw [hlookup, if_pos rfl, ha]
      rfl
  have hfirst : ¬ GivenUp history a := by
    rintro ⟨e', he', hleaves, -⟩
    obtain ⟨b, hb, hstatus⟩ := h e' he' a.id hleaves
    obtain rfl := Option.some.inj (hb.symm.trans ha)
    exact hstatus hassigned
  have hrow : GivenUp (history ++ [e]) a' ↔ GivenUp (history ++ [e]) a := by
    rw [GivenUp, GivenUp, hended.id, hended.provider]
  have hown : GivenUp (history ++ [e]) a ↔ e.request.MadeBy e.before.providers a.providerId := by
    rw [givenUp_concat_iff, or_iff_right hfirst, hleaves, eq_self, true_and]
  let before : Allocation → Bool := fun b ↦
    b.mode = .rotation && b.providerId = providerId && decide (GivenUp history b)
  let after : Allocation → Bool := fun b ↦
    b.mode = .rotation && b.providerId = providerId && decide (GivenUp (history ++ [e]) b)
  have hsame : after a' = after a := by
    simp only [after, hrow, hended.mode, hended.provider]
  have hbefore : before a = false := by simp [before, hfirst]
  have hafterRow : after a = true ↔ a.mode = .rotation ∧ a.providerId = providerId ∧
      e.request.MadeBy e.before.providers a.providerId := by
    simp [after, hown, and_assoc]
  have hreplace := countP_replaceBy hids (hended.id ▸ ha) after
  have hagree := countP_of_agree hids ha (fun b _ hb ↦ show after b = before b by
    simp only [before, after, givenUp_concat_iff, hleaves, hb, false_and, or_false])
  rw [hsame, Nat.add_right_cancel_iff] at hreplace
  rw [hbefore, if_neg Bool.false_ne_true, Nat.add_zero] at hagree
  rw [givenUpCount, givenUpCount, hafter, hreplace, hagree]
  exact congrArg _ (if_congr hafterRow rfl rfl)

/-- What a change does to the allocations: it adds some, or ends the one whose booking it ends. -/
theorem Change.allocations {held : LockKey → Prop} {drawn : ℕ → Prop} {db db' : Database}
    {r : EngagementRequest} (h : Change held drawn db r db') (hdb : Coherent db) :
    (r.endsBooking = none ∧ ∃ rows, db'.allocations = db.allocations ++ rows ∧
      ∀ row ∈ rows, db.allocation row.id = none) ∨
    ∃ bookingId b a a' status, r.endsBooking = some bookingId ∧ db.booking bookingId = some b ∧
      db.allocation b.allocationId = some a ∧ a.status = .assigned ∧ a.EndedAs a' status ∧
      status ≠ .assigned ∧ db'.allocations = replaceBy (·.id) a' db.allocations := by
  cases h with
  | select hnew _ _ _ =>
    exact .inl ⟨rfl, [_], rfl, fun row hrow ↦ List.mem_singleton.mp hrow ▸ hnew.lookup⟩
  | rotate hnew _ _ _ _ _ =>
    exact .inl ⟨rfl, [_], rfl, fun row hrow ↦ List.mem_singleton.mp hrow ▸ hnew.lookup⟩
  | decline hmoving hended _ =>
    exact .inr ⟨_, _, _, _, _, rfl, hmoving.booking, hmoving.allocation, (hmoving.episode hdb).2.1,
      hended, by decide, rfl⟩
  | cancel hmoving hended _ =>
    exact .inr ⟨_, _, _, _, _, rfl, hmoving.booking, hmoving.allocation, (hmoving.episode hdb).2.1,
      hended, by decide, rfl⟩
  | _ => exact .inl ⟨rfl, [], (List.append_nil _).symm, List.forall_mem_nil _⟩

/-- A commit that ends no booking changes no account, and another charges the provider of the
booking if the request was its own. -/
theorem EngagementCommit.givenUpCount (h : EngagementCommit e)
    (hsettled : Settled history e.before) :
    givenUpCount (history ++ [e]) e.after providerId = givenUpCount history e.before providerId +
      if ∃ a ∈ endedAllocation e, a.mode = .rotation ∧ a.providerId = providerId ∧
        e.request.MadeBy e.before.providers a.providerId then 1 else 0 := by
  obtain ⟨held, drawn, hchange⟩ := h.change
  rcases hchange.allocations h.coherent with
    ⟨hends, rows, hafter, hfresh⟩ | ⟨bookingId, b, a, a', status, hends, hb, ha, hassigned, hended,
      hstatus, hafter⟩
  · have hnone : endedAllocation e = none := by rw [endedAllocation, hends]; rfl
    rw [givenUpCount_of_append hsettled hafter hfresh, hnone]
    simp
  · have hsome : endedAllocation e = some a := by
      rw [endedAllocation, hends]
      change (e.before.booking bookingId).bind _ = _
      rw [hb]
      exact ha
    have hid : a.id = b.allocationId := (Database.mem_of_allocation ha).2
    rw [givenUpCount_of_replace hsettled h.coherent.allocation_ids
      (hid ▸ ha) hassigned hended hstatus
      hafter, hsome]
    simp

theorem mem_of_endedAllocation {a : Allocation} (h : endedAllocation e = some a) :
    a ∈ e.before.allocations := by
  simp only [endedAllocation, Option.bind_eq_bind, Option.bind_eq_some_iff] at h
  obtain ⟨bookingId, -, b, -, ha⟩ := h
  exact (Database.mem_of_allocation ha).1

/-- What was given up is on the record or was cancelled. -/
def Accounts (history : List (Entry Database EngagementRequest)) (db : Database) : Prop :=
  ∀ providerId, givenUpCount history db providerId = db.rotationDeclines providerId +
    history.countP fun e ↦ CancelsDuty e providerId

/-- Every commit keeps the balance. -/
theorem Accounts.concat (h : Accounts history e.before) (hsettled : Settled history e.before)
    (hcommit : EngagementCommit e) (hduty : DutyCommit e) : Accounts (history ++ [e]) e.after := by
  intro providerId
  rw [hcommit.givenUpCount hsettled, h providerId, List.countP_append, List.countP_singleton]
  cases hduty with
  | @declined actor bookingId reasonCode a signals hrequest ha hown hsignals hrecord hdecline =>
    have hcancels : ¬ CancelsDuty e providerId := by simp [CancelsDuty, hrequest,
      EngagementRequest.canceller]
    have hrostered := hcommit.coherent.rostered a (mem_of_endedAllocation ha)
    -- a signal is written for what has a roster, and that is what came of a rotation
    have hmode : a.mode = .rotation ↔ a.rosterId ≠ none := by
      constructor
      · intro hmode hnone
        obtain ⟨rosterId, -, hroster, -⟩ := hrostered.2 hmode
        exact Option.some_ne_none rosterId (hroster.symm.trans hnone)
      · intro hne
        cases hmode : a.mode with
        | citizenChoice => exact absurd (hrostered.1 hmode) hne
        | rotation => rfl
    have hrecorded : e.after.rotationDeclines providerId = e.before.rotationDeclines providerId +
        if a.mode = .rotation ∧ a.providerId = providerId then 1 else 0 := by
      rw [Database.rotationDeclines, Database.rotationDeclines, hsignals, List.countP_append]
      by_cases hroster : a.rosterId = none
      · have hchosen : ¬ a.mode = .rotation := fun hm ↦ hmode.mp hm hroster
        simp [hrecord hroster, hchosen]
      · obtain ⟨timestamp, id, hsignal⟩ := hdecline hroster
        simp [hsignal, rotationDecline, hmode.mpr hroster]
    rw [hrecorded]
    simp only [ha, Option.mem_some_iff, exists_eq_left', hown, and_true, hcancels, decide_false]
    rw [if_neg Bool.false_ne_true, Nat.add_zero, Nat.add_right_comm]
  | @cancelled actor bookingId reasonCode a hrequest ha hown hsignals =>
    have hrecorded : e.after.rotationDeclines providerId =
        e.before.rotationDeclines providerId := by
      rw [Database.rotationDeclines, hsignals, ← Database.rotationDeclines]
    -- a citizen who cancels gives nothing up
    have hown' : e.request.MadeBy e.before.providers a.providerId ↔
        actor.actorType = .provider := by
      refine ⟨?_, hown⟩
      rintro ⟨actor', hactor', hprovider, -⟩
      rw [hrequest] at hactor'
      cases hactor'
      exact hprovider
    have hcancels : CancelsDuty e providerId ↔ actor.actorType = .provider ∧ a.mode = .rotation ∧
        a.providerId = providerId := by
      simp [CancelsDuty, hrequest, EngagementRequest.canceller, ha]
    rw [hrecorded, Nat.add_assoc]
    simp only [ha, Option.mem_some_iff, exists_eq_left', hown', hcancels, decide_eq_true_eq]
    congr 2
    exact if_congr (by tauto) rfl rfl
  | other hends hsignals =>
    have hnone : endedAllocation e = none := by rw [endedAllocation, hends]; rfl
    have hrecorded : e.after.rotationDeclines providerId =
        e.before.rotationDeclines providerId := by
      rw [Database.rotationDeclines, hsignals, ← Database.rotationDeclines]
    rw [hrecorded]
    simp [CancelsDuty, hnone]

end Commit

/-! ## Runs

The balance at the end of a run is the sum over its commits.
-/

theorem replays_concat {s s' : Database} {history : List (Entry Database EngagementRequest)}
    {e : Entry Database EngagementRequest} (h : Replays s (history ++ [e]) s') :
    Replays s history e.before ∧ e.after = s' := by
  induction history generalizing s with
  | nil => exact ⟨h.1.symm, h.2⟩
  | cons e' history ih => exact ⟨⟨h.1, (ih h.2).1⟩, (ih h.2).2⟩

/-- The balance of a run that starts with nothing given up and nothing on the record. -/
theorem accounts_of_replays {db store : Database}
    {history : List (Entry Database EngagementRequest)}
    (hstart : ∀ providerId, db.rotationDeclines providerId = 0) (h : Replays db history store)
    (hall : ∀ e ∈ history, EngagementCommit e ∧ DutyCommit e) :
    Settled history store ∧ Accounts history store := by
  induction history using List.reverseRecOn generalizing store with
  | nil =>
    obtain rfl : db = store := h
    refine ⟨List.forall_mem_nil _, fun providerId ↦ ?_⟩
    rw [hstart]
    simp [givenUpCount, GivenUp]
  | append_singleton history e ih =>
    obtain ⟨hbefore, rfl⟩ := replays_concat h
    obtain ⟨hsettled, haccounts⟩ := ih hbefore fun e' he' ↦ hall e' (List.mem_append_left _ he')
    obtain ⟨hcommit, hduty⟩ := hall e (List.mem_append_right _ List.mem_cons_self)
    obtain ⟨held, drawn, hchange⟩ := hcommit.change
    exact ⟨hsettled.concat (hchange.continues hcommit.coherent),
      haccounts.concat hsettled hcommit hduty⟩

/-- The record of a provider is complete exactly if it has cancelled no duty. -/
theorem accounts_iff {db : Database} {history : List (Entry Database EngagementRequest)}
    (h : Accounts history db) (providerId : ℕ) :
    db.rotationDeclines providerId = givenUpCount history db providerId ↔
      ∀ e ∈ history, ¬ CancelsDuty e providerId := by
  rw [h providerId, Nat.left_eq_add, List.countP_eq_zero]
  simp only [decide_eq_true_eq]

end Nayasetu
