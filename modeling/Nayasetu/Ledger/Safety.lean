import Nayasetu.Ledger.Transactions

/-!
# The safety of the ledger

In every run of appends, whatever their interleaving and their failures, the events of each provider
form one chain that the balance sums up, and a call that has succeeded has appended one event, one
that has failed none.
-/

namespace Nayasetu

open Values Collections RowLock

/-! ## Runs

The calls of a run against the events of the ledger: which call an event came of, and which event
a call that succeeded has appended.
-/

abbrev ledgerProgram (sha256 : Bytes → Bytes) (input : AppendCreditEventInput) :
    LedgerTx AppendedCreditEvent := appendCreditEvent sha256 input

abbrev LedgerConfig :=
  Config LedgerDatabase LedgerKey Failure AppendedCreditEvent AppendCreditEventInput

abbrev ledgerStart (db : LedgerDatabase) (clock : ℤ) (drawn : ℕ) : LedgerConfig :=
  .initial db clock drawn

/-- The configurations that the calls reach in some interleaving. -/
abbrev LedgerRun (sha256 : Bytes → Bytes) (start c : LedgerConfig) : Prop :=
  Reaches (ledgerProgram sha256) start c

/-- The balances of new providers, and no event. -/
structure LedgerDatabase.Opened (db : LedgerDatabase) : Prop where
  events : db.events = []
  balance_ids : (db.balances.map (·.providerId)).Nodup
  balances : ∀ balance ∈ db.balances, balance.totalCredits = Numeric.ofInt 0 ∧
    balance.periodCredits = Numeric.ofInt 0 ∧ balance.lastEventId = none

/-- The events of a provider, `ORDER BY id`. -/
def LedgerDatabase.ledger (db : LedgerDatabase) (providerId : Uuid) : List CreditEvent :=
  (db.eventsOf providerId).mergeSort fun a b ↦ a.id ≤ b.id

/-- The events that session `i` has appended. -/
def eventsBy (c : LedgerConfig) (i : ℕ) : List CreditEvent :=
  ((c.shared.history.zip c.shared.store.events).filter fun p ↦ p.1.session = i).map Prod.snd

section Runs

variable {sha256 : Bytes → Bytes} {db : LedgerDatabase} {clock : ℤ} {drawn : ℕ} {c : LedgerConfig}

theorem LedgerDatabase.Balanced.ledger_eq {providerId : Uuid} (h : db.Balanced sha256 providerId) :
    db.ledger providerId = db.eventsOf providerId := by
  refine List.mergeSort_of_pairwise (h.ids.imp fun hlt ↦ ?_)
  exact decide_eq_true (Nat.le_of_lt hlt)

theorem LedgerDatabase.Opened.inv (h : db.Opened) :
    LedgerInv sha256 (ledgerStart db clock drawn).shared where
  balance_ids := h.balance_ids
  event_ids := by
    change (db.events.map (·.id)).Nodup
    rw [h.events]
    exact List.nodup_nil
  drawn event hevent := by
    change event ∈ db.events at hevent
    rw [h.events] at hevent
    exact absurd hevent List.not_mem_nil
  fits event hevent := by
    change event ∈ db.events at hevent
    rw [h.events] at hevent
    exact absurd hevent List.not_mem_nil
  balanced providerId := by
    have hnone : db.eventsOf providerId = [] := by rw [LedgerDatabase.eventsOf, h.events]; rfl
    change db.Balanced sha256 providerId
    refine ⟨hnone ▸ .nil, ?_, fun balance hbalance ↦ ?_⟩
    · rw [hnone]
      exact fun link hlink ↦ absurd hlink List.not_mem_nil
    · obtain ⟨htotal, hperiod, hlast⟩ := h.balances balance (lookupBy_mem hbalance).1
      rw [hnone]
      exact ⟨hlast, by rw [htotal, Numeric.value_zero]; rfl,
        by rw [hperiod, Numeric.value_zero]; rfl⟩
  appended := by
    change List.Forall₂ Appends [] db.events
    rw [h.events]
    exact .nil

/-- What the walk through every call gives for the runs. -/
theorem ledgerRun_sound (hstart : db.Opened)
    (hc : LedgerRun sha256 (ledgerStart db clock drawn) c) :
    (ledgerDiscipline sha256).toProtocol.Sound (fun i input ↦ Appended i input)
      (fun i _ ↦ NotAppended i) c := by
  refine Protocol.sound (fun i input answer w s hw hs ↦ ?_) (fun i _ error w s hw hs ↦ ?_)
    (fun i input s hs hfresh ↦ ?_) hstart.inv hc
  · obtain ⟨entry, event, hcommits, hrest⟩ := hw
    exact ⟨entry, event, (Discipline.since_of_later hs).commits.trans hcommits, hrest⟩
  · have hcommits := (Discipline.since_of_later hs).commits
    refine ⟨fun h ↦ hcommits.trans (hw.uncommitted h), ?_⟩
    exact (congrArg List.length hcommits).trans_le hw.once
  · refine wp_appendCreditEvent rfl (List.filter_eq_nil_iff.mpr fun entry hentry ↦ ?_)
    simpa using hfresh.history entry hentry

theorem map_fst_zip_filter {α β : Type} {R : α → β → Prop} {l : List α} {m : List β}
    (h : List.Forall₂ R l m) (p : α → Bool) :
    ((l.zip m).filter fun x ↦ p x.1).map Prod.fst = l.filter p := by
  induction h with
  | nil => rfl
  | cons _ _ ih =>
    rw [List.zip_cons_cons, List.filter_cons, List.filter_cons]
    split
    · rw [List.map_cons, ih]
    · exact ih

/-- A session has appended as many events as it has committed. -/
theorem length_eventsBy (h : LedgerInv sha256 c.shared) (i : ℕ) :
    (eventsBy c i).length = (c.shared.commitsOf i).length := by
  rw [Shared.commitsOf, ← map_fst_zip_filter h.appended, eventsBy, List.length_map, List.length_map]

theorem eventsBy_eq {event : CreditEvent} {entry : Entry LedgerDatabase AppendCreditEventInput}
    {i : ℕ} (h : LedgerInv sha256 c.shared) (hcommits : c.shared.commitsOf i = [entry])
    (hevents : entry.after.events = entry.before.events ++ [event]) :
    eventsBy c i = [event] ∧ entry.request.Recorded event := by
  have hzip := map_fst_zip_filter h.appended fun e ↦ e.session = i
  rw [← Shared.commitsOf, hcommits] at hzip
  obtain ⟨⟨entry', event'⟩, hpair, hentry⟩ := List.map_eq_singleton_iff.mp hzip
  cases hentry
  have happends : Appends entry' event' := by
    have hmem : (entry', event') ∈ (c.shared.history.zip c.shared.store.events).filter
        fun p ↦ p.1.session = i := hpair ▸ List.mem_singleton.mpr rfl
    exact (List.forall₂_iff_zip.mp h.appended).2 (List.mem_filter.mp hmem).1
  have hsame : event' = event := by
    have := happends.events.symm.trans hevents
    exact List.singleton_inj.mp (List.append_cancel_left this)
  refine ⟨?_, hsame ▸ happends.recorded⟩
  rw [eventsBy, hpair, ← hsame]
  rfl

/-- What is safe about the ledger after a run. -/
structure LedgerSafe (sha256 : Bytes → Bytes) (c : LedgerConfig) : Prop where
  /-- The rows of a provider form one chain, -/
  chain : ∀ providerId, ∀ link ∈ chainLinks (c.shared.store.ledger providerId),
    link.2.Follows sha256 link.1
  /-- which the balance sums up. -/
  lastEventId : ∀ balance ∈ c.shared.store.balances,
    (balance.lastEventId = none ↔ c.shared.store.ledger balance.providerId = []) ∧
      ∀ id ∈ balance.lastEventId,
        (∃ event ∈ c.shared.store.ledger balance.providerId, event.id = id) ∧
          ∀ event ∈ c.shared.store.ledger balance.providerId, event.id ≤ id
  sums : ∀ balance ∈ c.shared.store.balances,
    balance.totalCredits.value = creditSum (c.shared.store.ledger balance.providerId) ∧
      balance.periodCredits.value = creditSum (c.shared.store.ledger balance.providerId)
  /-- No two events have one number, and every event was appended by one commit. -/
  event_ids : (c.shared.store.events.map (·.id)).Nodup
  appended : List.Forall₂ Appends c.shared.history c.shared.store.events
  /-- A call that has succeeded has appended one event, the one it names; -/
  succeeded : ∀ i u answer, c.sessions[i]? = some u → u.program = some (.pure answer) →
    ∃ event, eventsBy c i = [event] ∧ u.request.Recorded event ∧ answer.Names event
  /-- one that has failed has appended none, unless it has lost the connection. -/
  failed : ∀ i u error, c.sessions[i]? = some u → u.program = some (.throw error) →
    error ≠ connectionLost → eventsBy c i = []
  unknown : ∀ i u, c.sessions[i]? = some u → u.program = some (.throw connectionLost) →
    (eventsBy c i).length ≤ 1

/-- The numbers of a chain grow, so the last one is the largest. -/
theorem CreditBalance.SumsUp.largest {balance : CreditBalance} {events : List CreditEvent}
    (h : balance.SumsUp events) (hids : events.Pairwise (·.id < ·.id)) :
    (balance.lastEventId = none ↔ events = []) ∧ ∀ id ∈ balance.lastEventId,
      (∃ event ∈ events, event.id = id) ∧ ∀ event ∈ events, event.id ≤ id := by
  rw [h.lastEventId]
  refine ⟨Option.map_eq_none_iff.trans List.getLast?_eq_none_iff, fun id hid ↦ ?_⟩
  obtain ⟨last, hlast, rfl⟩ := Option.map_eq_some_iff.mp hid
  obtain ⟨front, rfl⟩ := List.getLast?_eq_some_iff.mp hlast
  refine ⟨⟨last, List.mem_append_right _ (List.mem_singleton.mpr rfl), rfl⟩, fun event hevent ↦ ?_⟩
  rcases List.mem_append.mp hevent with hfront | hmem
  · exact Nat.le_of_lt
      ((List.pairwise_append.mp hids).2.2 event hfront last (List.mem_singleton.mpr rfl))
  · rw [List.mem_singleton.mp hmem]

/-- **The ledger is safe**, in any run. -/
theorem ledger_safe (hstart : db.Opened) (hc : LedgerRun sha256 (ledgerStart db clock drawn) c) :
    LedgerSafe sha256 c := by
  have hsound := ledgerRun_sound hstart hc
  have hinv : LedgerInv sha256 c.shared := hsound.inv
  have hbalance : ∀ balance ∈ c.shared.store.balances,
      balance.SumsUp (c.shared.store.eventsOf balance.providerId) := fun balance hmem ↦
    (hinv.balanced balance.providerId).balance balance
      ((lookupBy_eq_some_iff hinv.balance_ids).mpr ⟨hmem, rfl⟩)
  have hordered (providerId : Uuid) := (hinv.balanced providerId).ledger_eq
  refine
    { chain := fun providerId ↦ ?_
      lastEventId := fun balance hmem ↦ ?_
      sums := fun balance hmem ↦ ?_
      event_ids := hinv.event_ids
      appended := hinv.appended
      succeeded := fun i u answer hu hanswer ↦ ?_
      failed := fun i u error hu herror hlost ↦ ?_
      unknown := fun i u hu hlost ↦ ?_ }
  · rw [hordered]
    exact (hinv.balanced providerId).chain
  · rw [hordered]
    exact (hbalance balance hmem).largest (hinv.balanced balance.providerId).ids
  · rw [hordered]
    exact ⟨(hbalance balance hmem).total, (hbalance balance hmem).period⟩
  · obtain ⟨entry, event, hcommits, hrequest, hevents, hnames⟩ :=
      Protocol.wp_pure_iff.mp (hsound.safe i u _ hu hanswer)
    obtain ⟨hby, hrecorded⟩ := eventsBy_eq hinv hcommits hevents
    exact ⟨event, hby, hrequest ▸ hrecorded, hnames⟩
  · have hnone := (Protocol.wp_throw_iff.mp (hsound.safe i u _ hu herror)).uncommitted hlost
    refine List.eq_nil_of_length_eq_zero ?_
    rw [length_eventsBy hinv]
    exact congrArg List.length hnone
  · rw [length_eventsBy hinv]
    exact (Protocol.wp_throw_iff.mp (hsound.safe i u _ hu hlost)).once

end Runs

/-! ## A run -/

def ledgerProvider : Uuid := ⟨7, by decide⟩

def newLedger : LedgerDatabase where
  events := []
  balances := [⟨ledgerProvider, .ofInt 0, .ofInt 0, none⟩]
  auditEvents := []

theorem newLedger_opened : newLedger.Opened where
  events := rfl
  balance_ids := List.nodup_singleton _
  balances balance hbalance := by
    rw [List.mem_singleton.mp hbalance]
    exact ⟨rfl, rfl, rfl⟩

def ledgerCall (eventType : CreditEventType) (credits : String) (occurredAt : JsDate) :
    AppendCreditEventInput where
  providerId := ledgerProvider
  eventType := eventType
  units := "1"
  weightVersion := "v1"
  credits := credits
  matterId := none
  evidenceRef := "evidence"
  occurredAt := occurredAt
  actor := { actorId := 1, actorType := .admin, scopes := [], requestId := "request" }

/-- Two calls at once: the second one waits for the first, fails, and is tried again. -/
def retriedRun : List (Action AppendCreditEventInput) :=
  [.start (ledgerCall .proBonoMatterClosed "1" firstLedgerEvent.occurredAt),
    .start (ledgerCall .rotationDutyCompleted "2.50" secondLedgerEvent.occurredAt)] ++
    List.replicate 2 (.run 1 0) ++ List.replicate 14 (.run 0 0) ++ List.replicate 16 (.run 1 0)

theorem retriedRun_possible :
    (exec (ledgerProgram ledgerDigests) (ledgerStart newLedger 0 0) retriedRun).isSome := by
  decide +kernel

theorem ledger_safe_retriedRun : LedgerSafe ledgerDigests
    ((exec (ledgerProgram ledgerDigests) (ledgerStart newLedger 0 0) retriedRun).get
      retriedRun_possible) :=
  ledger_safe newLedger_opened (.get _)

end Nayasetu
