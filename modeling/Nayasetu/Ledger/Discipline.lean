import Nayasetu.Ledger.Append

/-!
# The discipline of the ledger

The lock on the balance of a provider protects the balance and the events of the provider. The
invariant says that the events of each provider form a chain that the balance sums up, and that
every event was appended by one commit.
-/

namespace Nayasetu

open Values Collections RowLock

/-! ## Chains

An event follows another one if it stores its hash and has itself been hashed together with it.
The balance sums up the credits and names the last event.
-/

def LedgerDatabase.eventsOf (db : LedgerDatabase) (providerId : Uuid) : List CreditEvent :=
  db.events.filter (·.providerId = providerId)

/-- The event follows an event with hash `lastHash`, or starts a chain. -/
structure CreditEvent.Follows (sha256 : Bytes → Bytes) (lastHash : Option Bytes)
    (event : CreditEvent) : Prop where
  prevHash : event.prevHash = lastHash
  hash : event.hash = sha256 (event.appendPayload (lastHash.getD (List.replicate 32 0)))

abbrev chainLinks (events : List CreditEvent) : List (Option Bytes × CreditEvent) :=
  links (fun event ↦ some event.hash) none events

def creditSum (events : List CreditEvent) : ℚ := (events.map fun event ↦ event.credits.value).sum

structure CreditBalance.SumsUp (balance : CreditBalance) (events : List CreditEvent) : Prop where
  lastEventId : balance.lastEventId = events.getLast?.map (·.id)
  total : balance.totalCredits.value = creditSum events
  period : balance.periodCredits.value = creditSum events

/-- The ledger of one provider. -/
structure LedgerDatabase.Balanced (sha256 : Bytes → Bytes) (db : LedgerDatabase)
    (providerId : Uuid) : Prop where
  ids : (db.eventsOf providerId).Pairwise (·.id < ·.id)
  chain : ∀ link ∈ chainLinks (db.eventsOf providerId), link.2.Follows sha256 link.1
  balance : ∀ balance, db.balance providerId = some balance →
    balance.SumsUp (db.eventsOf providerId)

/-- The event is the one a call asked for. -/
structure AppendCreditEventInput.Recorded (input : AppendCreditEventInput) (event : CreditEvent) :
    Prop where
  providerId : event.providerId = input.providerId
  eventType : event.eventType = input.eventType
  units : event.units = Numeric.ofText input.units.toList
  weightVersion : event.weightVersion = input.weightVersion
  credits : event.credits = Numeric.ofText input.credits.toList
  matterId : event.matterId = input.matterId
  evidenceRef : event.evidenceRef = input.evidenceRef
  occurredAt : event.occurredAt = input.occurredAt

structure Appends (entry : Entry LedgerDatabase AppendCreditEventInput) (event : CreditEvent) :
    Prop where
  events : entry.after.events = entry.before.events ++ [event]
  recorded : entry.request.Recorded event

/-- What holds in every reachable configuration. -/
structure LedgerInv (sha256 : Bytes → Bytes)
    (s : Shared LedgerDatabase LedgerKey AppendCreditEventInput) : Prop where
  balance_ids : (s.store.balances.map (·.providerId)).Nodup
  event_ids : (s.store.events.map (·.id)).Nodup
  drawn : ∀ event ∈ s.store.events, event.id ≤ s.minted.length
  fits : ∀ event ∈ s.store.events, event.id ≤ 9223372036854775807 ∧ event.credits.Fits
  balanced : ∀ providerId, s.store.Balanced sha256 providerId
  /-- There is one event for each commit. -/
  appended : List.Forall₂ Appends s.history s.store.events

/-- What the lock on a balance protects. -/
def LedgerKey.Guards : LedgerKey → LedgerDatabase → LedgerDatabase → Prop
  | .balance providerId, db, db' => db'.balance providerId = db.balance providerId ∧
      db'.eventsOf providerId = db.eventsOf providerId

/-- The discipline of the ledger: events are only added, under the lock on the balance. -/
def ledgerDiscipline (sha256 : Bytes → Bytes) :
    Discipline LedgerDatabase LedgerKey AppendCreditEventInput where
  Inv := LedgerInv sha256
  Keep := LedgerKey.Guards
  Unused n db := ∀ event ∈ db.events, event.id ≠ n + 1
  Mono db db' := db.events <+: db'.events
  keep_refl k _ := match k with
    | .balance _ => ⟨rfl, rfl⟩
  keep_trans k _ _ _ := match k with
    | .balance _ => fun h₁ h₂ ↦ ⟨h₂.1.trans h₁.1, h₂.2.trans h₁.2⟩
  mono_refl _ := List.prefix_refl _
  mono_trans _ _ _ := List.IsPrefix.trans
  unused_of_inv s n h hn event hevent := by
    have := h.drawn event hevent
    omega
  inv_of_same s s' hstore hhistory hminted _ _ h := by
    refine ⟨hstore ▸ h.balance_ids, hstore ▸ h.event_ids, fun event hevent ↦ ?_, hstore ▸ h.fits,
      hstore ▸ h.balanced, ?_⟩
    · exact (h.drawn event (hstore ▸ hevent)).trans hminted.length_le
    · rw [hstore, hhistory]
      exact h.appended

/-! ## One more event

An event that was prepared under the lock on the balance can be appended whenever the transaction
commits.
-/

section Append

variable {sha256 : Bytes → Bytes} {db : LedgerDatabase} {event : CreditEvent} {audit : AuditEvent}
  {providerId : Uuid}

def LedgerDatabase.append (event : CreditEvent) (audit : AuditEvent) (db : LedgerDatabase) :
    LedgerDatabase := (db.insertEvent event |>.updateBalance event).insertAudit audit

theorem events_append : (db.append event audit).events = db.events ++ [event] := rfl

theorem eventsOf_append_self :
    (db.append event audit).eventsOf event.providerId =
    db.eventsOf event.providerId ++ [event] := by
  rw [LedgerDatabase.eventsOf, events_append, List.filter_append, ← LedgerDatabase.eventsOf,
    List.filter_singleton, decide_eq_true rfl]
  rfl

theorem eventsOf_append_of_ne (h : event.providerId ≠ providerId) :
    (db.append event audit).eventsOf providerId = db.eventsOf providerId := by
  rw [LedgerDatabase.eventsOf, events_append, List.filter_append, ← LedgerDatabase.eventsOf,
    List.filter_singleton, decide_eq_false h]
  exact List.append_nil _

theorem balance_append (providerId : Uuid) :
    (db.append event audit).balance providerId =
      if providerId = event.providerId then (db.balance providerId).map (·.after event)
      else db.balance providerId := by
  have hbalances : (db.append event audit).balance providerId = lookupBy CreditBalance.providerId
      providerId (db.balances.map fun balance ↦
        if balance.providerId = event.providerId then balance.after event else balance) := rfl
  rw [hbalances, LedgerDatabase.balance]
  induction db.balances with
  | nil => rw [List.map_nil, lookupBy_nil, Option.map_none, ite_self]
  | cons balance balances ih =>
    rw [List.map_cons, lookupBy_cons, lookupBy_cons, ih]
    by_cases hbalance : balance.providerId = event.providerId
    · have hafter : (balance.after event).providerId = balance.providerId := rfl
      rw [if_pos hbalance, hafter, hbalance]
      by_cases hp : providerId = event.providerId
      · rw [if_pos hp.symm, if_pos hp, if_pos hp.symm, Option.map_some]
      · rw [if_neg (Ne.symm hp), if_neg hp, if_neg hp, if_neg (Ne.symm hp)]
    · rw [if_neg hbalance]
      by_cases hp : providerId = event.providerId
      · rw [if_pos hp, if_pos hp, if_neg (hp ▸ hbalance), if_neg (hp ▸ hbalance)]
      · rw [if_neg hp, if_neg hp]

/-- An event that may be appended: it follows the last event of its provider, with a new number. -/
structure LedgerDatabase.Appendable (sha256 : Bytes → Bytes) (db : LedgerDatabase)
    (event : CreditEvent) : Prop where
  ids : ∀ previous ∈ db.eventsOf event.providerId, previous.id < event.id
  unused : ∀ other ∈ db.events, other.id ≠ event.id
  fits : event.id ≤ 9223372036854775807 ∧ event.credits.Fits
  follows : event.Follows sha256 ((db.eventsOf event.providerId).getLast?.map (·.hash))

theorem creditSum_concat (events : List CreditEvent) (event : CreditEvent) :
    creditSum (events ++ [event]) = creditSum events + event.credits.value := by
  rw [creditSum, creditSum, List.map_append, List.sum_append, List.map_singleton,
    List.sum_singleton]

theorem CreditBalance.SumsUp.after {balance : CreditBalance} {events : List CreditEvent}
    (h : balance.SumsUp events) (event : CreditEvent) :
    (balance.after event).SumsUp (events ++ [event]) where
  lastEventId := by rw [List.getLast?_concat, Option.map_some]; rfl
  total := by rw [creditSum_concat, ← h.total]; exact Numeric.value_add _ _
  period := by rw [creditSum_concat, ← h.period]; exact Numeric.value_add _ _

theorem LedgerDatabase.Balanced.append (h : ∀ providerId, db.Balanced sha256 providerId)
    (hevent : db.Appendable sha256 event) (providerId : Uuid) :
    (db.append event audit).Balanced sha256 providerId := by
  by_cases hp : event.providerId = providerId
  · subst hp
    obtain ⟨hids, hchain, hbalance⟩ := h event.providerId
    refine ⟨?_, ?_, fun balance hb ↦ ?_⟩
    · rw [eventsOf_append_self, List.pairwise_append]
      refine ⟨hids, List.pairwise_singleton _ _, fun previous hprevious last hlast ↦ ?_⟩
      rw [List.mem_singleton.mp hlast]
      exact hevent.ids previous hprevious
    · rw [chainLinks, eventsOf_append_self, links_concat, headHash_some]
      intro link hlink
      rcases List.mem_append.mp hlink with hlink | hlink
      · exact hchain link hlink
      · rw [List.mem_singleton.mp hlink]
        exact hevent.follows
    · rw [balance_append, if_pos rfl, Option.map_eq_some_iff] at hb
      obtain ⟨before, hbefore, rfl⟩ := hb
      rw [eventsOf_append_self]
      exact (hbalance before hbefore).after event
  · obtain ⟨hids, hchain, hbalance⟩ := h providerId
    have hevents : (db.append event audit).eventsOf providerId = db.eventsOf providerId :=
      eventsOf_append_of_ne hp
    have hsame : (db.append event audit).balance providerId = db.balance providerId := by
      rw [balance_append, if_neg (Ne.symm hp)]
    exact ⟨hevents ▸ hids, hevents ▸ hchain,
      fun balance hb ↦ hevents ▸ hbalance balance (hsame ▸ hb)⟩

/-- The invariant survives the commit of an append. -/
theorem LedgerInv.append {s : Shared LedgerDatabase LedgerKey AppendCreditEventInput}
    (h : LedgerInv sha256 s) (hevent : s.store.Appendable sha256 event)
    (hdrawn : event.id ≤ s.minted.length) {i : ℕ} {input : AppendCreditEventInput}
    {snap : LedgerDatabase} (hrecorded : input.Recorded event) :
    LedgerInv sha256 (s.commit i input snap (LedgerDatabase.append event audit)) where
  balance_ids := by
    have hsame (balance : CreditBalance) : CreditBalance.providerId
        (if balance.providerId = event.providerId then balance.after event else balance) =
          balance.providerId := by
      split <;> rfl
    have hmap : (s.store.append event audit).balances.map (·.providerId) =
        s.store.balances.map (·.providerId) := by
      refine (List.map_map).trans (List.map_congr_left fun balance _ ↦ hsame balance)
    exact hmap ▸ h.balance_ids
  event_ids := by
    have hevents : (s.commit i input snap (LedgerDatabase.append event audit)).store.events =
      s.store.events ++ [event] := rfl
    rw [hevents, List.map_append, List.map_singleton, List.nodup_append]
    refine ⟨h.event_ids, List.nodup_singleton _, fun id hid last hlast ↦ ?_⟩
    obtain ⟨other, hother, rfl⟩ := List.mem_map.mp hid
    rw [List.mem_singleton.mp hlast]
    exact hevent.unused other hother
  drawn other hother := by
    rcases List.mem_append.mp hother with hother | hother
    · exact h.drawn other hother
    · rw [List.mem_singleton.mp hother]
      exact hdrawn
  fits other hother := by
    rcases List.mem_append.mp hother with hother | hother
    · exact h.fits other hother
    · rw [List.mem_singleton.mp hother]
      exact hevent.fits
  balanced := LedgerDatabase.Balanced.append h.balanced hevent
  appended := List.rel_append h.appended (.cons ⟨rfl, hrecorded⟩ .nil)

end Append

end Nayasetu
