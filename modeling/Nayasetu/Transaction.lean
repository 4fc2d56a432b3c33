import Nayasetu.Database
import Nayasetu.RowLock.Alone
import Nayasetu.RowLock.Attempt

/-!
# Transactions and audit rows

The plumbing every operation uses: the transaction wrapper, the actor behind a request and the
audit rows written on the actor's behalf.

A lost connection, a deadlock victim and every other failure the database causes by itself end a
session through the crash action of the transaction library; the errors modelled here are the ones
the application raises and the ones the schema raises on its input.

An operation is a program over `Database`: each of its statements is one step of its session, and
between any two of them other sessions go on. What a session writes stays with it until it
commits. The wrapper commits behind a result and rolls back behind an error, so that an operation
that fails leaves nothing behind; `withTransaction` is the statement sequence of the wrapper, and
the calls it makes on its connection are modelled apart.

Locks are named, not derived from rows. A row lock is the key of the row. A statement that waits
for the entry of a unique index, or for an advisory lock, takes a key of its own, under which the
entry is looked for and added.
-/

namespace Nayasetu

open Values RowLock

/-- What transactions lock: rows, advisory keys and entries of unique indexes. -/
inductive LockKey where
  | provider (id : ℕ)
  | verificationCase (id : ℕ)
  /-- `pg_advisory_xact_lock` on a provider, around the search for its active case. -/
  | activeCaseOf (providerId : ℕ)
  /-- `verification_case_one_active_review`. -/
  | oneActiveReview (providerId : ℕ)
  /-- The policies of a provider type, as their owner changes them. -/
  | policiesOf (providerType : String)
  | needRequest (id : ℕ)
  | eligibilityDecision (needRequestId : ℕ)
  | rosterMembership (key : ℕ × ℕ)
  | surfaceCounter (providerId : ℕ)
  | allocation (id : ℕ)
  /-- `allocation_one_active_per_need`. -/
  | oneActiveAllocation (needRequestId : ℕ)
  | booking (id : ℕ)
  | matter (id : ℕ)
  /-- The unique key of `matter`. -/
  | matterOfAllocation (allocationId : ℕ)
  deriving DecidableEq, Repr

abbrev Tx : Type → Type := Program Database LockKey Failure

/-- `new Date()`. -/
def dateNow : Tx ℤ := do return (← now) / 1000

/-- `withTransaction`: run the operation between `BEGIN` and `COMMIT`, and roll back if anything
fails. The operation gets `transaction_timestamp()`. -/
def withTransaction {α : Type} (operation : ℤ → Tx α) : Tx α :=
  tryCatch
    (do
      let timestamp ← now
      let result ← operation timestamp
      commit
      return result)
    fun error ↦ do
      rollback
      throw error

/-- `if (!condition) throw failure`, between statements. -/
def ensure (condition : Prop) [Decidable condition] (failure : Failure) : Tx Unit :=
  fromExcept (require condition failure)

/-- The database takes no text with a `NUL`. -/
def ensureText (texts : List String) : Tx Unit :=
  ensure (∀ text ∈ texts, '\x00' ∉ text.toList)
    (.database "22021" "invalid byte sequence for encoding \"UTF8\": 0x00")

def uuidText (id : ℕ) : String := id.repr

/-- Who makes a request, and for whom. -/
structure ActorContext where
  actorId : ℕ
  actorType : Role
  scopes : List String
  requestId : String
  onBehalfOfCitizenId : Option ℕ := none
  delegationId : Option ℕ := none
  deriving DecidableEq, Repr

/-- What an audit row is about. -/
structure AuditInput where
  action : String
  entityType : String
  entityId : String
  beforeSummary : Option Jsonb := none
  afterSummary : Option Jsonb := none
  reasonCode : Option String := none

def Database.insertAudit (events : List AuditEvent) (db : Database) : Database :=
  { db with auditEvents := db.auditEvents ++ events }

def auditEvent (actor : ActorContext) (input : AuditInput) : AuditEvent where
  actorType := actor.actorType
  actorId := actor.actorId
  onBehalfOfUserId := actor.onBehalfOfCitizenId
  delegationId := actor.delegationId
  action := input.action
  entityType := input.entityType
  entityId := input.entityId
  beforeSummary := input.beforeSummary
  afterSummary := input.afterSummary
  reasonCode := input.reasonCode
  requestId := actor.requestId

/-- `writeAudit`. -/
def writeAudit (actor : ActorContext) (input : AuditInput) : Tx Unit :=
  write (Database.insertAudit [auditEvent actor input])

/-- Lock keys one after another, and give them up: any other transaction on the same rows. -/
def holdLocks : List LockKey → Tx Unit
  | [] => rollback
  | key :: keys => do
    let _ ← lock key
    holdLocks keys

/-! ## Rules

One rule for each piece of the plumbing and each way of walking through a program: what holds of a
session whatever the others do (`wp_`, `attempt_`, `serves_`), what a session does when it is left
alone (`alone_`), and which writes a program makes at all (`writes_`). `Committable` is what a
transaction has to arrive at: its commit keeps the invariant and is one of those the discipline
admits.
-/

section Rules

variable {α Req : Type} {P : Protocol Database LockKey Req} {i : ℕ} {r : Req}
  {v : View Database LockKey Req}

theorem wp_ensure {condition : Prop} [Decidable condition] {failure : Failure}
    {Q : Unit → View Database LockKey Req → Prop} {E : Failure → View Database LockKey Req → Prop}
    (h : condition → Q () v) (hfail : ¬ condition → E failure v) :
    P.wp i r Q E (ensure condition failure) v := by
  refine Protocol.wp_fromExcept (fun a ha ↦ h (require_eq_ok_iff.mp ha)) fun e he ↦ ?_
  by_cases hc : condition
  · simp [require, hc] at he
  · simp only [require, hc, if_false, Except.error.injEq] at he
    exact he ▸ hfail hc

/-- A transaction is safe if its operation is, when its result is followed by the commit and its
error by the rollback. -/
theorem wp_withTransaction {operation : ℤ → Tx α} {Q : α → View Database LockKey Req → Prop}
    {E : Failure → View Database LockKey Req → Prop}
    (h : ∀ s, P.Later i v.shared s → P.wp i r
      (fun a w ↦ ∀ s', P.Later i w.shared s' → P.Inv (s'.commit i r w.snapshot w.pending) ∧
        (∀ j, j ≠ i → P.Rely j s' (s'.commit i r w.snapshot w.pending)) ∧
        Q a ⟨s'.commit i r w.snapshot w.pending, id, w.snapshot⟩)
      (fun e w ↦ ∀ s', P.Later i w.shared s' → E e ⟨s'.release i, id, w.snapshot⟩)
      (operation s.clock) (v.at s)) :
    P.wp i r Q E (withTransaction operation) v := by
  refine Protocol.wp_tryCatch (Protocol.wp_bind (Protocol.wp_now fun s hs ↦ Protocol.wp_bind ?_))
  refine Protocol.wp_mono (fun a w ha ↦ ?_) (fun e w he ↦ ?_) (h s hs)
  · refine Protocol.wp_bind (Protocol.wp_commit fun s' hs' ↦ ?_)
    obtain ⟨hinv, hrely, hq⟩ := ha s' hs'
    exact ⟨hinv, hrely, Protocol.wp_pure hq⟩
  · exact Protocol.wp_bind (Protocol.wp_rollback fun s' hs' ↦ Protocol.wp_throw (he s' hs'))

end Rules

theorem alone_ensure {Req : Type} {i n : ℕ} {r : Req} {v : View Database LockKey Req}
    {condition : Prop}
    [Decidable condition] {failure : Failure} (h : condition) :
    alone i n r (ensure condition failure) v = some (.ok (), v) := by
  rw [ensure, require, if_pos h]
  rfl

/-- A transaction that succeeds by itself is committed. -/
theorem alone_withTransaction {α Req : Type} {i n : ℕ} {r : Req}
    {v w : View Database LockKey Req} {operation : ℤ → Tx α} {a : α}
    (h : alone i n r (operation v.shared.clock) v = some (.ok a, w)) :
    alone i n r (withTransaction operation) v =
      some (.ok a, ⟨w.shared.commit i r w.snapshot w.pending, id, w.snapshot⟩) := by
  have hnow : alone i n r (now : Tx ℤ) v = some (.ok v.shared.clock, v) := rfl
  exact alone_tryCatch ((alone_bind hnow).trans ((alone_bind h).trans rfl))

theorem of_alone_ensure {Req : Type} {i n : ℕ} {r : Req} {v w : View Database LockKey Req}
    {condition : Prop} [Decidable condition] {failure : Failure} {u : Unit}
    (h : alone i n r (ensure condition failure) v = some (.ok u, w)) : condition ∧ w = v := by
  rw [ensure, require] at h
  split at h
  next hc =>
    cases h
    exact ⟨hc, rfl⟩
  next =>
    cases h

/-- The rest of a program after what was ensured. -/
theorem of_alone_ensure_bind {α Req : Type} {i n : ℕ} {r : Req} {v w : View Database LockKey Req}
    {condition : Prop} [Decidable condition] {failure : Failure} {f : Unit → Tx α} {a : α}
    (h : alone i n r (ensure condition failure >>= f) v = some (.ok a, w)) :
    condition ∧ alone i n r (f ()) v = some (.ok a, w) := by
  obtain ⟨_, u, hensure, hrest⟩ := exists_of_alone_bind h
  obtain ⟨hc, rfl⟩ := of_alone_ensure hensure
  exact ⟨hc, hrest⟩

/-- A committed transaction was one whose operation succeeded. -/
theorem exists_of_alone_withTransaction {α Req : Type} {i n : ℕ} {r : Req}
    {v w : View Database LockKey Req} {operation : ℤ → Tx α} {a : α}
    (h : alone i n r (withTransaction operation) v = some (.ok a, w)) :
    ∃ u, alone i n r (operation v.shared.clock) v = some (.ok a, u) ∧
      w = ⟨u.shared.commit i r u.snapshot u.pending, id, u.snapshot⟩ := by
  obtain ⟨x, u, hattempt, hrest⟩ := exists_of_alone_bind h
  rw [alone_attempt_eq, Option.map_eq_some_iff] at hattempt
  obtain ⟨⟨y, u'⟩, hbody, hy⟩ := hattempt
  cases hy
  cases x with
  | error e =>
    -- the handler throws again, so nothing was returned
    obtain ⟨_, _, -, hthrow⟩ := exists_of_alone_bind hrest
    cases hthrow
  | ok a' =>
    cases hrest
    obtain ⟨timestamp, u₀, hnow, hrun⟩ := exists_of_alone_bind hbody
    cases hnow
    obtain ⟨a'', u₁, hoperation, hcommit⟩ := exists_of_alone_bind hrun
    cases hcommit
    exact ⟨u₁, hoperation, rfl⟩

theorem writes_ensure {W : (Database → Database) → Prop} {condition : Prop} [Decidable condition]
    {failure : Failure} : (ensure condition failure).Writes W := writes_fromExcept

theorem writes_writeAudit {W : (Database → Database) → Prop} {actor : ActorContext}
    {input : AuditInput} (h : ∀ events, W (Database.insertAudit events)) :
    (writeAudit actor input).Writes W := writes_write (h _)

section Attempts

variable {α Req : Type} {D : Discipline Database LockKey Req} {i : ℕ} {r : Req}
  {v : View Database LockKey Req} {E : Failure → Prop}

theorem attempt_ensure {condition : Prop} [Decidable condition] {failure : Failure}
    {Q : Unit → View Database LockKey Req → Prop} (hfailure : E failure) (h : condition → Q () v) :
    D.Attempt i r Q E (ensure condition failure) v :=
  fun hv ↦ wp_ensure (fun hc ↦ ⟨hv, h hc⟩) fun _ ↦ ⟨hv, hfailure⟩

/-- A view whose writes may be committed. -/
def Committable (D : Discipline Database LockKey Req) (i : ℕ) (r : Req)
    (w : View Database LockKey Req) : Prop :=
  ∀ s, D.Since i w.shared s → D.Inv s → D.Inv (s.commit i r w.snapshot w.pending) ∧
    ∀ j, j ≠ i → D.Rely j s (s.commit i r w.snapshot w.pending)

theorem serves_withTransaction {operation : ℤ → Tx α}
    (h : ∀ w, D.Onward i v w → D.Attempt i r (fun _ w' ↦ Committable D i r w') E
      (operation w.shared.clock) w) :
    D.Serves i r E (withTransaction operation) v := by
  refine fun hv ↦ wp_withTransaction fun s hs ↦ ?_
  have hw : D.Onward i v (v.at s) := ⟨Discipline.since_of_later hs, hs.inv, rfl⟩
  refine Protocol.wp_mono (fun _ w hcommit s' hs' ↦ ?_) (fun e w he s' hs' ↦ ?_)
    (h (v.at s) hw (hw.uncommitted hv))
  · obtain ⟨hinv, hrely⟩ := hcommit.2 s' (Discipline.since_of_later hs') hs'.inv
    exact ⟨hinv, hrely, trivial⟩
  · exact ⟨(Discipline.since_of_later hs').commits.trans he.1, he.2⟩

/-- A transaction ends as `Q` says if its operation does, once its writes are committed. -/
theorem answers_withTransaction {operation : ℤ → Tx α} {Q : α → View Database LockKey Req → Prop}
    (h : ∀ w, D.Onward i v w → D.Attempt i r (fun a w' ↦ Committable D i r w' ∧
      ∀ s, D.Since i w'.shared s → D.Inv s →
        Q a ⟨s.commit i r w'.snapshot w'.pending, id, w'.snapshot⟩) E
      (operation w.shared.clock) w) :
    D.Answers i r Q E (withTransaction operation) v := by
  refine fun hv ↦ wp_withTransaction fun s hs ↦ ?_
  have hw : D.Onward i v (v.at s) := ⟨Discipline.since_of_later hs, hs.inv, rfl⟩
  refine Protocol.wp_mono (fun _ w hcommit s' hs' ↦ ?_) (fun e w he s' hs' ↦ ?_)
    (h (v.at s) hw (hw.uncommitted hv))
  · have hsince := Discipline.since_of_later hs'
    obtain ⟨hinv, hrely⟩ := hcommit.2.1 s' hsince hs'.inv
    exact ⟨hinv, hrely, hcommit.2.2 s' hsince hs'.inv⟩
  · exact ⟨(Discipline.since_of_later hs').commits.trans he.1, he.2⟩

theorem serves_holdLocks (keys : List LockKey) : D.Serves i r E (holdLocks keys) v := by
  induction keys generalizing v with
  | nil =>
    exact fun _ ↦ Protocol.wp_rollback fun _ _ ↦ trivial
  | cons key keys ih =>
    exact Discipline.serves_bind (Discipline.attempt_lock fun _ _ _ _ ↦ ih)

end Attempts

end Nayasetu
