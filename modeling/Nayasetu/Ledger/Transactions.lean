import Nayasetu.Ledger.Discipline

/-!
# The transactions of the ledger

The writer keeps to the discipline of the ledger, so that an attempt ends with the event committed,
or with nothing committed; only if the connection is lost does the client not learn which.
-/

namespace Nayasetu

open Values Collections RowLock Discipline

variable {sha256 : Bytes → Bytes} {i : ℕ} {input : AppendCreditEventInput}
  {v w : View LedgerDatabase LedgerKey AppendCreditEventInput}

/-! ## The writer

The statement that locks the balance decides: after it, the last event of the provider is known
and stays the last one.
-/

section Writer

variable {α : Type} {Q : α → View LedgerDatabase LedgerKey AppendCreditEventInput → Prop}

theorem attempt_mayFail_bind {f : Unit → LedgerTx α}
    (h : (ledgerDiscipline sha256).Attempt i input Q (fun _ ↦ True) (f ()) v) :
    (ledgerDiscipline sha256).Attempt i input Q (fun _ ↦ True) (mayFail >>= f) v := by
  refine attempt_bind (attempt_bind (attempt_choose fun n ↦ ?_))
  cases n with
  | zero => exact attempt_pure (a := ()) h
  | succ n => exact attempt_throw trivial

theorem attempt_ledgerCheck_bind {condition : Prop} [Decidable condition] {failure : Failure}
    {f : Unit → LedgerTx α}
    (h : condition → (ledgerDiscipline sha256).Attempt i input Q (fun _ ↦ True) (f ()) v) :
    (ledgerDiscipline sha256).Attempt i input Q (fun _ ↦ True)
      (ledgerCheck condition failure >>= f) v :=
  attempt_bind (attempt_fromExcept (fun _ hok ↦ h (require_eq_ok_iff.mp hok)) fun _ _ ↦ trivial)

end Writer

/-- The last hash that a transaction reads in its snapshot is that of the last event of the
provider, as long as the balance has not changed. -/
theorem lastHash_eq {s : Shared LedgerDatabase LedgerKey AppendCreditEventInput}
    (h : LedgerInv sha256 s) {seen : LedgerDatabase} (hseen : seen.events <+: s.store.events)
    {providerId : Uuid} {balance : CreditBalance}
    (hbalance : s.store.balance providerId = some balance) {hash : Option Bytes}
    (hhash : lastHash seen balance = .ok hash) :
    hash = (s.store.eventsOf providerId).getLast?.map (·.hash) := by
  have hlast := ((h.balanced providerId).balance balance hbalance).lastEventId
  have hprovider : balance.providerId = providerId := (lookupBy_mem hbalance).2
  rw [lastHash] at hhash
  cases hl : (s.store.eventsOf providerId).getLast? with
  | none =>
    rw [hl, Option.map_none] at hlast
    rw [hlast] at hhash
    exact (Except.ok.inj hhash).symm
  | some last =>
    rw [hl, Option.map_some] at hlast
    rw [hlast] at hhash
    cases hevent : seen.event last.id balance.providerId with
    | none =>
      simp only [hevent, reduceCtorEq] at hhash
    | some event =>
      simp only [hevent] at hhash
      have hfound : event.id = last.id ∧ event.providerId = balance.providerId := by
        simpa using List.find?_some hevent
      have hmem : event ∈ s.store.events := hseen.subset (List.mem_of_find?_eq_some hevent)
      have hlastmem : last ∈ s.store.events := (List.mem_filter.mp (List.mem_of_getLast? hl)).1
      obtain rfl := List.inj_on_of_nodup_map h.event_ids hmem hlastmem hfound.1
      exact (Except.ok.inj hhash).symm

/-- The append of an event is ready to be committed. -/
structure Prepared (sha256 : Bytes → Bytes) (i : ℕ) (input : AppendCreditEventInput)
    (event : CreditEvent) (w : View LedgerDatabase LedgerKey AppendCreditEventInput) : Prop where
  pending : ∃ audit, w.pending = LedgerDatabase.append event audit
  locked : w.shared.holder (.balance event.providerId) = some i
  drawn : ∃ n : ℕ, w.shared.minted[n]? = some (some i) ∧ event.id = n + 1
  appendable : w.shared.store.Appendable sha256 event
  recorded : input.Recorded event

theorem attempt_appendCreditEventSql {units credits : Numeric}
    (hunits : units = Numeric.ofText input.units.toList)
    (hcredits : credits = Numeric.ofText input.credits.toList) (hfits : credits.Fits)
    (hpending : v.pending = id) :
    (ledgerDiscipline sha256).Attempt i input (Prepared sha256 i input) (fun _ ↦ True)
      (appendCreditEventSql sha256 input units credits) v := by
  refine attempt_mayFail_bind (attempt_bind (attempt_snapshot fun w₁ hw₁ _ ↦ ?_))
  rw [hpending, id_eq]
  cases hseen : w₁.shared.store.balance input.providerId with
  | none => exact attempt_throw trivial
  | some balance =>
    refine attempt_bind (attempt_lock fun w₂ hw₂ _ hlock ↦ ?_)
    rw [hw₁.pending, hpending, id_eq]
    refine attempt_ledgerCheck_bind fun hbalance ↦ attempt_mayFail_bind ?_
    refine attempt_bind (attempt_fromExcept (fun hash hhash ↦ ?_) fun _ _ ↦ trivial)
    have hlast := lastHash_eq hw₂.inv hw₂.since.mono hbalance hhash
    refine attempt_bind (attempt_nextval_last fun w₃ n hw₃ hdrawn hlength hunused ↦ ?_)
    refine attempt_ledgerCheck_bind fun hlimit ↦ ?_
    refine attempt_bind (attempt_write (attempt_mayFail_bind (attempt_ledgerCheck_bind fun _ ↦ ?_)))
    refine attempt_bind (attempt_write (attempt_mayFail_bind ?_))
    refine attempt_bind (attempt_write (attempt_mayFail_bind (attempt_pure ?_)))
    have hkeep : w₃.shared.store.eventsOf input.providerId =
        w₂.shared.store.eventsOf input.providerId := (hw₃.since.keep _ hlock).2
    refine
      { pending := ⟨input.audit (input.row sha256 (n + 1) units credits hash), ?_⟩
        locked := hw₃.since.holds _ hlock
        drawn := ⟨n, hdrawn, rfl⟩
        appendable := ⟨fun previous hprevious ↦ ?_, hunused, ⟨hlimit, hfits⟩, ⟨?_, ?_⟩⟩
        recorded := ⟨rfl, rfl, hunits, rfl, hcredits, rfl, rfl, rfl⟩ }
    · rw [hw₃.pending, hw₂.pending, hw₁.pending, hpending]
      rfl
    · have hmem : previous ∈ w₃.shared.store.events := (List.mem_filter.mp hprevious).1
      have hle : previous.id ≤ w₃.shared.minted.length := hw₃.inv.drawn previous hmem
      have hne : previous.id ≠ n + 1 := hunused previous hmem
      have hnew : (input.row sha256 (n + 1) units credits hash).id = n + 1 := rfl
      omega
    · exact hlast.trans (by rw [← hkeep]; rfl)
    · change sha256 _ = sha256 _
      rw [hlast, ← hkeep]
      rfl

/-! ## Commits

What an attempt has done when it ends, by the way it ended; then the attempts one after another.
-/

theorem Prepared.appendable_since {event : CreditEvent} (hw : Prepared sha256 i input event w)
    {s : Shared LedgerDatabase LedgerKey AppendCreditEventInput}
    (hs : (ledgerDiscipline sha256).Since i w.shared s) : s.store.Appendable sha256 event := by
  have hkeep : s.store.eventsOf event.providerId = w.shared.store.eventsOf event.providerId :=
    (hs.keep _ hw.locked).2
  obtain ⟨n, hdrawn, hid⟩ := hw.drawn
  have hunused : ∀ other ∈ s.store.events, other.id ≠ n + 1 :=
    hs.unused n hdrawn fun other hother ↦ hid ▸ hw.appendable.unused other hother
  refine ⟨?_, fun other hother ↦ hid ▸ hunused other hother, hw.appendable.fits, ?_⟩
  · rw [hkeep]
    exact hw.appendable.ids
  · rw [hkeep]
    exact hw.appendable.follows

/-- The commit of a prepared append keeps to the discipline. -/
theorem Prepared.commit {event : CreditEvent} (hw : Prepared sha256 i input event w)
    {s : Shared LedgerDatabase LedgerKey AppendCreditEventInput}
    (hs : (ledgerDiscipline sha256).Since i w.shared s) (hinv : LedgerInv sha256 s)
    (snap : LedgerDatabase) :
    LedgerInv sha256 (s.commit i input snap w.pending) ∧
      ∀ j, j ≠ i → (ledgerDiscipline sha256).Rely j s (s.commit i input snap w.pending) := by
  obtain ⟨audit, hpending⟩ := hw.pending
  obtain ⟨n, hdrawn, hid⟩ := hw.drawn
  have hlocked : s.holder (.balance event.providerId) = some i := hs.holds _ hw.locked
  have hnumber : s.minted[n]? = some (some i) := hs.drawn hdrawn
  have hlt : n < s.minted.length := (List.getElem?_eq_some_iff.mp hnumber).1
  rw [hpending]
  refine ⟨hinv.append (hw.appendable_since hs) (by omega) hw.recorded, ?_⟩
  refine rely_commit (fun k hk ↦ ?_) (fun m hm hunused other hother ↦ ?_) (List.prefix_append _ _)
  · cases k with
    | balance providerId =>
      have hne : event.providerId ≠ providerId := by
        rintro rfl
        exact hk hlocked
      exact ⟨(balance_append _).trans (if_neg (Ne.symm hne)), eventsOf_append_of_ne hne⟩
  · rcases List.mem_append.mp hother with hother | hother
    · exact hunused other hother
    · rw [List.mem_singleton.mp hother, hid]
      intro he
      obtain rfl : m = n := by omega
      exact hm hnumber

def AppendedCreditEvent.Names (answer : AppendedCreditEvent) (event : CreditEvent) : Prop :=
  answer = ⟨String.ofList (intText event.id), String.ofList (hexText event.hash)⟩

/-- The session has committed one append, and knows the event. -/
def Appended (i : ℕ) (input : AppendCreditEventInput) (answer : AppendedCreditEvent)
    (w : View LedgerDatabase LedgerKey AppendCreditEventInput) : Prop :=
  ∃ entry event, w.shared.commitsOf i = [entry] ∧ entry.request = input ∧
    entry.after.events = entry.before.events ++ [event] ∧ answer.Names event

/-- The session has committed nothing, or has lost the connection. -/
structure NotAppended (i : ℕ) (error : Failure)
    (w : View LedgerDatabase LedgerKey AppendCreditEventInput) : Prop where
  uncommitted : error ≠ connectionLost → Uncommitted i w
  once : (w.shared.commitsOf i).length ≤ 1

theorem NotAppended.of_uncommitted {error : Failure} (h : Uncommitted i w) :
    NotAppended i error w := by
  refine ⟨fun _ ↦ h, ?_⟩
  rw [h]
  exact Nat.zero_le 1

theorem attempt_appendInTransaction (hpending : v.pending = id) :
    (ledgerDiscipline sha256).Attempt i input
      (fun answer w ↦ ∃ event, Prepared sha256 i input event w ∧ answer.Names event) (fun _ ↦ True)
      (appendInTransaction sha256 input) v := by
  refine attempt_bind (attempt_fromExcept (fun decimals hdecimals ↦ ?_) fun _ _ ↦ trivial)
  rw [readParameters, unit_bind_eq_ok_iff, unit_bind_eq_ok_iff, unit_bind_eq_ok_iff,
    require_eq_ok_iff, require_eq_ok_iff, require_eq_ok_iff] at hdecimals
  obtain ⟨-, hfits, -, hdecimals⟩ := hdecimals
  obtain rfl := Except.ok.inj hdecimals
  refine attempt_bind (attempt_mono (fun event w hw ↦ ?_) (fun _ h ↦ h)
    (attempt_appendCreditEventSql rfl rfl hfits.2 hpending))
  exact attempt_pure ⟨event, hw, rfl⟩

theorem wp_commitOrFail {event : CreditEvent} {answer : AppendedCreditEvent}
    (huncommitted : Uncommitted i w) (hw : Prepared sha256 i input event w)
    (hanswer : answer.Names event) :
    (ledgerDiscipline sha256).toProtocol.wp i input (fun _ w ↦ Appended i input answer w)
      (NotAppended i) commitOrFail w := by
  refine Protocol.wp_bind (Protocol.wp_bind (Protocol.wp_choose fun n ↦ ?_))
  cases n with
  | succ n => exact Protocol.wp_throw (.of_uncommitted huncommitted)
  | zero =>
    refine Protocol.wp_pure (a := ()) (Protocol.wp_bind (Protocol.wp_commit fun s hs ↦ ?_))
    have hsince := since_of_later hs
    obtain ⟨hinv, hrely⟩ := hw.commit hsince hs.inv w.snapshot
    have hcommits : (s.commit i input w.snapshot w.pending).commitsOf i =
        [⟨i, input, w.snapshot, s.store, w.pending s.store⟩] := by
      have hnone : s.commitsOf i = [] := hsince.commits.trans huncommitted
      rw [Shared.commitsOf, Shared.commit, List.filter_append, ← Shared.commitsOf, hnone,
        List.filter_singleton, decide_eq_true rfl]
      rfl
    obtain ⟨audit, hpending⟩ := hw.pending
    refine ⟨hinv, hrely, Protocol.wp_bind (Protocol.wp_choose fun n ↦ ?_)⟩
    cases n with
    | zero =>
      exact Protocol.wp_pure (a := ()) ⟨_, event, hcommits, rfl, by rw [hpending]; rfl, hanswer⟩
    | succ n =>
      refine Protocol.wp_throw ⟨fun h ↦ absurd rfl h, ?_⟩
      exact (congrArg List.length hcommits).le

/-- One attempt. -/
theorem wp_appendTransaction (hpending : v.pending = id) (huncommitted : Uncommitted i v) :
    (ledgerDiscipline sha256).toProtocol.wp i input (Appended i input)
      (fun e w ↦ NotAppended i e w ∧ w.pending = id)
      (withSerializableTransaction (appendInTransaction sha256 input)) v := by
  refine Protocol.wp_tryCatch
    (Protocol.wp_mono (fun _ _ h ↦ h) (fun e w (he : NotAppended i e w) ↦ ?_)
    (Protocol.wp_bind (Protocol.wp_mono (fun answer w hw ↦ ?_) (fun e w he ↦ ?_)
      (attempt_appendInTransaction hpending huncommitted))))
  · refine Protocol.wp_bind (Protocol.wp_rollback fun s hs ↦ Protocol.wp_throw ⟨?_, rfl⟩)
    have hcommits := (since_of_later hs).commits
    refine ⟨fun h ↦ hcommits.trans (he.uncommitted h), ?_⟩
    exact (congrArg List.length hcommits).trans_le he.once
  · obtain ⟨hw, event, hprepared, hanswer⟩ := hw
    refine Protocol.wp_bind (Protocol.wp_mono (fun _ w' hw' ↦ ?_) (fun _ _ h ↦ h)
      (wp_commitOrFail hw hprepared hanswer))
    exact Protocol.wp_pure hw'
  · exact .of_uncommitted he.1

/-- A call that is tried again has committed nothing yet. -/
theorem wp_withSerializableRetry (attempts : ℕ) (hpending : v.pending = id)
    (huncommitted : Uncommitted i v) :
    (ledgerDiscipline sha256).toProtocol.wp i input (Appended i input) (NotAppended i)
      (withSerializableRetry (appendInTransaction sha256 input) attempts) v := by
  induction attempts generalizing v with
  | zero => exact Protocol.wp_throw (.of_uncommitted huncommitted)
  | succ attempts ih =>
    refine Protocol.wp_tryCatch (Protocol.wp_mono (fun _ _ h ↦ h) (fun error w he ↦ ?_)
      (wp_appendTransaction hpending huncommitted))
    split
    · exact Protocol.wp_throw he.1
    · rename_i hretry
      refine ih he.2 (he.1.uncommitted ?_)
      rintro rfl
      exact hretry (.inl (by decide))

/-- A call ends with its event committed, or with an error. -/
theorem wp_appendCreditEvent (hpending : v.pending = id) (huncommitted : Uncommitted i v) :
    (ledgerDiscipline sha256).toProtocol.wp i input (Appended i input) (NotAppended i)
      (appendCreditEvent sha256 input) v := by
  refine Protocol.wp_bind
    (Protocol.wp_fromExcept (fun _ _ ↦ ?_) fun _ _ ↦ .of_uncommitted huncommitted)
  refine Protocol.wp_bind
    (Protocol.wp_fromExcept (fun _ _ ↦ ?_) fun _ _ ↦ .of_uncommitted huncommitted)
  exact wp_withSerializableRetry 3 hpending huncommitted

end Nayasetu
