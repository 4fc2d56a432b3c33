import Mathlib.Data.Rat.Floor
import Mathlib.Order.WithBot
import Nayasetu.Promises.Async

/-!
# The transaction wrapper and its clients

`shared/transaction.ts`, call by call: the client that is obtained from the pool, the statements it
is sent and its release. The pool, the client and the operation are scripted: whatever has happened
so far decides how the next call settles, and each may reject with anything.

Three things go wrong. A `ROLLBACK` that is rejected hides the error it was sent for, and its
client goes back to the pool like any other. The loop of `withSerializableRetry` reads `code` from
whatever it catches, so a rejection with `undefined` or `null` is replaced by the `TypeError` of
that reading. And a bound that is a fraction ends the loop behind an attempt that was to be made
again, whose error is lost to the text about an exhausted loop. `transaction_wrapper_contract`
says that nothing else does.
-/

namespace Nayasetu.Connections

open Promises

/-! ## Errors

In the language anything can be thrown. What matters of it is whether it has properties, and the
text of its `code`.
-/

/-- What a promise is rejected with. -/
inductive Rejection where
  | undefined
  | null
  /-- Anything that has properties. `code` is there if it is a text. -/
  | error (message : String) (code : Option String)
  deriving DecidableEq, Repr

/-- `(error as { code?: string }).code`, which nothing does not have. -/
def Rejection.readCode : Rejection → Except Rejection (Option String)
  | .undefined =>
    .error (.error "Cannot read properties of undefined (reading 'code')" none)
  | .null => .error (.error "Cannot read properties of null (reading 'code')" none)
  | .error _ code => .ok code

def Rejection.SerializationFailure (error : Rejection) : Prop :=
  error.readCode = .ok (some "40001")

instance (error : Rejection) : Decidable error.SerializationFailure :=
  inferInstanceAs (Decidable (error.readCode = _))

def Rejection.HasProperties (error : Rejection) : Prop := error ≠ .undefined ∧ error ≠ .null

theorem Rejection.hasProperties_of_readCode {error : Rejection} {code : Option String}
    (h : error.readCode = .ok code) : error.HasProperties := by
  cases error with
  | undefined => cases h
  | null => cases h
  | error message code => exact ⟨by simp, by simp⟩

/-- Reading `code` throws from an error without properties, and never that error. -/
theorem Rejection.readCode_error {error typeError : Rejection}
    (h : error.readCode = .error typeError) : ¬ error.HasProperties ∧ typeError ≠ error := by
  cases error with
  | undefined =>
    cases h
    exact ⟨fun h ↦ h.1 rfl, by decide⟩
  | null =>
    cases h
    exact ⟨fun h ↦ h.2 rfl, by decide⟩
  | error message code => cases h

theorem Rejection.SerializationFailure.hasProperties {error : Rejection}
    (h : error.SerializationFailure) : error.HasProperties := hasProperties_of_readCode h

/-! ## Calls

A script says how the next call settles, from the calls made so far; so it can be any pool and any
client. The trace is the list of the calls with their results.
-/

/-- The isolation levels the wrapper knows. -/
inductive Isolation where
  | readCommitted
  | serializable
  deriving DecidableEq, Repr

/-- The statements a client is sent. -/
inductive Statement where
  /-- `BEGIN ISOLATION LEVEL …`. -/
  | begin (isolation : Isolation)
  | commit
  | rollback
  /-- A statement of the operation, which leaves transactions to the wrapper. -/
  | inner (sql : String)
  deriving DecidableEq, Repr

/-- What happens at a pool. -/
inductive Event (α : Type) where
  /-- `pool.connect()`. -/
  | connect (answer : Except Rejection ℕ)
  /-- `client.query(statement)`. -/
  | query (client : ℕ) (statement : Statement) (answer : Except Rejection Unit)
  /-- The operation on a client settles. -/
  | operation (client : ℕ) (answer : Except Rejection α)
  /-- `client.release(error)`. Without an error the client is used again. -/
  | release (client : ℕ) (error : Option Rejection)

/-- What an operation does: its statements with their answers, and how it settles. -/
structure OperationRun (α : Type) where
  queries : List (String × Except Rejection Unit)
  answer : Except Rejection α

/-- How the pool, its clients and the operation behave, from what has happened. -/
structure Script (α : Type) where
  connect : List (Event α) → Except Rejection ℕ
  query : List (Event α) → ℕ → Statement → Except Rejection Unit
  operation : List (Event α) → ℕ → OperationRun α

variable {α : Type}

/-- `await pool.connect()`. -/
def connect (script : Script α) : Async (Event α) Rejection ℕ := Async.call script.connect .connect

/-- `await client.query(statement)`. -/
def query (script : Script α) (client : ℕ) (statement : Statement) :
    Async (Event α) Rejection Unit :=
  Async.call (fun history ↦ script.query history client statement) (.query client statement)

/-- `client.release()`. -/
def release (client : ℕ) : Async (Event α) Rejection Unit :=
  Async.call (fun _ ↦ .ok ()) fun _ ↦ .release client none

/-- What an operation on the client leaves in the history. -/
def OperationRun.events (run : OperationRun α) (client : ℕ) : List (Event α) :=
  run.queries.map (fun (sql, answer) ↦ Event.query client (.inner sql) answer) ++
    [Event.operation client run.answer]

/-- `await operation(client)`. -/
def operate (script : Script α) (client : ℕ) : Async (Event α) Rejection α := fun history ↦
  ((script.operation history client).answer, (script.operation history client).events client)

/-! ## The wrapper

The two functions of the source. The loop is a step function on its state, and the number of steps
is bounded by the number of attempts.
-/

/-- `withTransaction`. -/
def withTransaction (script : Script α) (isolation : Isolation) : Async (Event α) Rejection α := do
  let client ← connect script
  Async.finallyDo
    (Async.catchError
      (do
        query script client (.begin isolation)
        let result ← operate script client
        query script client .commit
        return result)
      fun error ↦ do
        query script client .rollback
        Async.reject error)
    (release client)

/-- One call of `withTransaction`: what it called and how it settled. -/
structure Attempt (α : Type) where
  trace : List (Event α)
  outcome : Except Rejection α

/-- The call of `withTransaction` after some history. -/
def attempt (script : Script α) (isolation : Isolation) (history : List (Event α)) : Attempt α where
  trace := (withTransaction script isolation history).2
  outcome := (withTransaction script isolation history).1

/-- The loop of `withSerializableRetry`: its variable, what its attempts called and how it
settled. -/
structure Retry (α : Type) where
  attempt : ℕ
  attempts : List (Attempt α)
  settled : Option (Except Rejection α)

/-- Everything called so far. -/
def Retry.trace (loop : Retry α) : List (Event α) := loop.attempts.flatMap (·.trace)

/-- `let attempt = 1`. -/
def Retry.start : Retry α := ⟨1, [], none⟩

/-- One round of the loop of `withSerializableRetry`. A bound that is not a number is below every
attempt, like `0`. -/
def Retry.step (script : Script α) (maximumAttempts : WithTop ℚ) (loop : Retry α) : Retry α :=
  if loop.settled.isSome then loop
  else if ((loop.attempt : ℚ) : WithTop ℚ) ≤ maximumAttempts then
    let made := Connections.attempt script .serializable loop.trace
    match made.outcome with
    | .ok result => ⟨loop.attempt, loop.attempts ++ [made], some (.ok result)⟩
    | .error error =>
      match error.readCode with
      | .error typeError => ⟨loop.attempt, loop.attempts ++ [made], some (.error typeError)⟩
      | .ok code =>
        if code ≠ some "40001" ∨ ((loop.attempt : ℚ) : WithTop ℚ) = maximumAttempts then
          ⟨loop.attempt, loop.attempts ++ [made], some (.error error)⟩
        else ⟨loop.attempt + 1, loop.attempts ++ [made], none⟩
  else { loop with
    settled := some (.error (.error "Serializable retry loop exhausted" none)) }

/-- `withSerializableRetry` after so many rounds. -/
def withSerializableRetry (script : Script α) (maximumAttempts : WithTop ℚ)
    (rounds : ℕ) : Retry α :=
  (Retry.step script maximumAttempts)^[rounds] Retry.start

/-! ## The contract

What is demanded of the trace of one attempt, and of the attempts of a loop with the error it
reports.
-/

/-- The event uses a client, and neither obtains nor releases one. -/
def Event.Uses (client : ℕ) : Event α → Prop
  | .query used _ _ => used = client
  | .operation used _ => used = client
  | _ => False

/-- Every client that is obtained is released exactly once, after everything it was used for. -/
inductive Checkouts : List (Event α) → Prop
  | nil : Checkouts []
  | refused {error : Rejection} {rest : List (Event α)} (h : Checkouts rest) :
      Checkouts (Event.connect (.error error) :: rest)
  | released {client : ℕ} {used : List (Event α)} {error : Option Rejection}
      {rest : List (Event α)} (hused : ∀ event ∈ used, event.Uses client) (h : Checkouts rest) :
      Checkouts (Event.connect (.ok client) :: used ++ Event.release client error :: rest)

def Attempt.Produced (made : Attempt α) (result : α) : Prop :=
  ∃ client, .operation client (.ok result) ∈ made.trace

/-- `COMMIT` resolved. -/
def Attempt.Committed (made : Attempt α) : Prop :=
  ∃ client, .query client .commit (.ok ()) ∈ made.trace

/-- What an attempt fails with, if this event makes it fail. -/
def Event.failure : Event α → Option Rejection
  | .connect (.error error) => some error
  | .query _ (.begin _) (.error error) => some error
  | .query _ .commit (.error error) => some error
  | .operation _ (.error error) => some error
  | _ => none

/-- The error that made an attempt fail: that of the client, of `BEGIN`, of the operation or of
`COMMIT`. -/
def Attempt.cause (made : Attempt α) : Option Rejection := made.trace.findSome? Event.failure

/-- Whether a transaction may be open on a client after one more event. A rejected `BEGIN` may have
opened it; only a `COMMIT` or `ROLLBACK` that resolved is known to have closed it. -/
def Event.leavesOpen (before : Bool) : Event α → Bool
  | .query _ (.begin _) _ => true
  | .query _ .commit (.ok _) => false
  | .query _ .rollback (.ok _) => false
  | _ => before

def mayBeOpen (events : List (Event α)) : Bool := events.foldl Event.leavesOpen false

/-- What one call of `withTransaction` promises. -/
structure Attempt.Contract (made : Attempt α) : Prop where
  released : Checkouts made.trace
  returned : ∀ result, made.outcome = .ok result ↔ made.Produced result ∧ made.Committed
  reported : ∀ error, made.outcome = .error error → made.cause = some error
  healthy : ∀ before client after, made.trace = before ++ Event.release client none :: after →
    mayBeOpen before = false

/-- After attempt `i` another one is due: its cause has code 40001 and the bound admits it. -/
def Attempt.RetryDue (made : Attempt α) (maximumAttempts : WithTop ℚ) (i : ℕ) : Prop :=
  (∃ error, made.cause = some error ∧ error.SerializationFailure) ∧
    (((i + 2 : ℕ) : ℚ) : WithTop ℚ) ≤ maximumAttempts

/-- What `withSerializableRetry` promises, wherever its loop is. Attempts are counted from `0`. -/
structure Retry.Contract (maximumAttempts : WithTop ℚ) (loop : Retry α) : Prop where
  attempts : ∀ made ∈ loop.attempts, made.Contract
  released : Checkouts loop.trace
  returned : ∀ result, loop.settled = some (.ok result) ↔
    ∃ made ∈ loop.attempts, made.Produced result ∧ made.Committed
  committed : ∀ (i j : ℕ) (made made' : Attempt α), loop.attempts[i]? = some made →
    loop.attempts[j]? = some made' → made.Committed → made'.Committed → i = j
  reported : ∀ error, loop.settled = some (.error error) →
    ∀ made, loop.attempts.getLast? = some made → made.cause = some error
  retried : ∀ (i : ℕ) (made : Attempt α), loop.attempts[i]? = some made →
    (i + 1 < loop.attempts.length → made.RetryDue maximumAttempts i) ∧
    (made.RetryDue maximumAttempts i → i + 1 < loop.attempts.length ∨ loop.settled = none)

/-- No `ROLLBACK` was rejected. -/
def RollbacksResolved (trace : List (Event α)) : Prop :=
  ∀ client error, .query client .rollback (.error error) ∉ trace

/-- The bound is a fraction just above the number of attempt `i`. -/
def EndsBehind (maximumAttempts : WithTop ℚ) (i : ℕ) : Prop :=
  (((i + 1 : ℕ) : ℚ) : WithTop ℚ) ≠ maximumAttempts ∧
    ¬ (((i + 2 : ℕ) : ℚ) : WithTop ℚ) ≤ maximumAttempts

/-- Nothing has happened that the wrapper cannot handle: no `ROLLBACK` was rejected, no attempt
failed with an error without properties, and none that could not be serialized was the last below a
fraction. -/
structure Retry.Undisturbed (maximumAttempts : WithTop ℚ) (loop : Retry α) : Prop where
  rollbacks : RollbacksResolved loop.trace
  properties : ∀ made ∈ loop.attempts, ∀ error ∈ made.cause, error.HasProperties
  whole : ∀ (i : ℕ) (made : Attempt α), loop.attempts[i]? = some made →
    (∃ error, made.cause = some error ∧ error.SerializationFailure) → ¬ EndsBehind maximumAttempts i

/-! ## How an attempt goes

The courses an attempt can take, as an inductive type with one constructor for each way through
the `try`, the `catch` and the `finally`.
-/

/-- The statements of an operation. -/
def inner (client : ℕ) (queries : List (String × Except Rejection Unit)) : List (Event α) :=
  queries.map fun (sql, answer) ↦ .query client (.inner sql) answer

/-- What a client is used for until an error stops the attempt. -/
inductive Stopped (client : ℕ) (error : Rejection) : List (Event α) → Prop
  | begin {isolation : Isolation} :
      Stopped client error [Event.query client (.begin isolation) (.error error)]
  | operation {isolation : Isolation} {queries : List (String × Except Rejection Unit)} :
      Stopped client error (Event.query client (.begin isolation) (.ok ()) ::
        (inner client queries ++ [Event.operation client (.error error)]))
  | commit {isolation : Isolation} {queries : List (String × Except Rejection Unit)} {result : α} :
      Stopped client error (Event.query client (.begin isolation) (.ok ()) ::
        (inner client queries ++
          [Event.operation client (.ok result), Event.query client .commit (.error error)]))

/-- The courses an attempt can take. -/
inductive Attempt.Course : Attempt α → Prop
  | refused (error : Rejection) : Course ⟨[.connect (.error error)], .error error⟩
  | committed (client : ℕ) (isolation : Isolation)
      (queries : List (String × Except Rejection Unit)) (result : α) :
      Course ⟨Event.connect (.ok client) :: (Event.query client (.begin isolation) (.ok ()) ::
        (inner client queries ++
          [Event.operation client (.ok result), Event.query client .commit (.ok ())])) ++
        [Event.release client none], .ok result⟩
  | rolledBack (client : ℕ) (error : Rejection) {used : List (Event α)}
      (h : Stopped client error used) :
      Course ⟨Event.connect (.ok client) :: (used ++ [Event.query client .rollback (.ok ())]) ++
        [Event.release client none], .error error⟩
  /-- The error of `ROLLBACK` is the one that is reported. -/
  | masked (client : ℕ) (error error' : Rejection) {used : List (Event α)}
      (h : Stopped client error used) :
      Course ⟨Event.connect (.ok client) ::
        (used ++ [Event.query client .rollback (.error error')]) ++
        [Event.release client none], .error error'⟩

section Attempts

variable {script : Script α} {isolation : Isolation} {history : List (Event α)} {client : ℕ}
  {error : Rejection} {used : List (Event α)}

/-- The operation between `BEGIN` and `COMMIT`. -/
def guarded (script : Script α) (isolation : Isolation) (client : ℕ) :
    Async (Event α) Rejection α := do
  query script client (.begin isolation)
  let result ← operate script client
  query script client .commit
  return result

theorem connect_eq {r : Except Rejection ℕ} (h : script.connect history = r) :
    connect script history = (r, [Event.connect r]) := Async.call_eq h

theorem query_eq {statement : Statement} {r : Except Rejection Unit}
    (h : script.query history client statement = r) :
    query script client statement history = (r, [Event.query client statement r]) := Async.call_eq h

theorem release_eq :
    release client history = (.ok (), [Event.release (α := α) client none]) := rfl

theorem operate_eq : operate script client history =
    ((script.operation history client).answer,
      inner client (script.operation history client).queries ++
        [Event.operation client (script.operation history client).answer]) := rfl

/-- The guarded operation comes to its end or is stopped. -/
theorem guarded_cases :
    (∃ queries result, guarded script isolation client history =
      (.ok result, Event.query client (.begin isolation) (.ok ()) :: (inner client queries ++
        [Event.operation client (.ok result), Event.query client .commit (.ok ())]))) ∨
    ∃ error used, guarded script isolation client history = (.error error, used) ∧
      Stopped client error used := by
  cases hbegin : script.query history client (.begin isolation) with
  | error error =>
    exact .inr ⟨error, _, Async.bind_error (query_eq hbegin), .begin⟩
  | ok u =>
    -- the operation sees the history with its `BEGIN`
    let opened := history ++ [Event.query client (.begin isolation) (.ok ())]
    have hoperate : operate script client opened = _ := operate_eq
    cases hanswer : (script.operation opened client).answer with
    | error error =>
      rw [hanswer] at hoperate
      exact .inr ⟨error, _, Async.bind_ok (query_eq hbegin) (Async.bind_error hoperate),
        .operation⟩
    | ok result =>
      rw [hanswer] at hoperate
      generalize (script.operation opened client).queries = queries at hoperate
      cases hcommit : script.query (opened ++ (inner client queries ++
          [Event.operation client (.ok result)])) client .commit with
      | error error =>
        refine .inr ⟨error, _, Async.bind_ok (query_eq hbegin) (Async.bind_ok hoperate
          (Async.bind_error (query_eq hcommit))), ?_⟩
        rw [List.append_assoc]
        exact .commit
      | ok u =>
        refine .inl ⟨queries, result, ?_⟩
        refine (Async.bind_ok (query_eq hbegin) (Async.bind_ok hoperate
          (Async.bind_ok (query_eq hcommit) (f := fun _ ↦ pure result) Async.pure_eq))).trans ?_
        rw [List.append_nil, List.append_assoc]
        rfl

/-- What follows `connect`. -/
theorem withTransaction_of_connect {r : Except Rejection α} {events : List (Event α)}
    (hconnect : script.connect history = .ok client)
    (h : Async.catchError (guarded script isolation client)
      (fun error ↦ do
        query script client .rollback
        Async.reject error) (history ++ [Event.connect (.ok client)]) = (r, events)) :
    withTransaction script isolation history =
      (r, Event.connect (.ok client) :: events ++ [Event.release client none]) :=
  (Async.bind_ok (connect_eq hconnect) (Async.finallyDo_ok h release_eq)).trans rfl

theorem attempt_course : (attempt script isolation history).Course := by
  rw [attempt]
  cases hconnect : script.connect history with
  | error error =>
    have h : withTransaction script isolation history = (.error error, _) :=
      Async.bind_error (connect_eq hconnect)
    rw [h]
    exact .refused error
  | ok client =>
    rcases @guarded_cases _ script isolation (history ++ [Event.connect (.ok client)]) client with
      ⟨queries, result, hguarded⟩ | ⟨error, used, hguarded, hstopped⟩
    · rw [withTransaction_of_connect hconnect (Async.catchError_ok hguarded)]
      exact .committed client isolation queries result
    · cases hrollback : script.query (history ++ [Event.connect (.ok client)] ++ used) client
          .rollback with
      | error error' =>
        rw [withTransaction_of_connect hconnect (Async.catchError_error hguarded
          (Async.bind_error (query_eq hrollback)))]
        exact .masked client error error' hstopped
      | ok u =>
        rw [withTransaction_of_connect hconnect (Async.catchError_error hguarded
          (Async.bind_ok (query_eq hrollback) Async.reject_eq))]
        exact .rolledBack client error hstopped

end Attempts

/-! ## What an attempt promises

Each part of the contract by cases on the course.
-/

section Contract

variable {client : ℕ} {error : Rejection} {used : List (Event α)} {made : Attempt α}
  {queries : List (String × Except Rejection Unit)}

theorem uses_of_mem_inner {event : Event α} (h : event ∈ inner client queries) :
    event.Uses client := by
  obtain ⟨_, -, rfl⟩ := List.mem_map.mp h
  rfl

theorem failure_of_mem_inner {event : Event α} (h : event ∈ inner client queries) :
    event.failure = none := by
  obtain ⟨_, -, rfl⟩ := List.mem_map.mp h
  rfl

theorem findSome?_inner : (inner client queries : List (Event α)).findSome? Event.failure = none :=
  List.findSome?_eq_none_iff.mpr fun _ h ↦ failure_of_mem_inner h

/-- The statements of an operation leave a transaction as it is. -/
theorem foldl_inner {isOpen : Bool} :
    (inner client queries : List (Event α)).foldl Event.leavesOpen isOpen = isOpen := by
  induction queries with
  | nil => rfl
  | cons query queries ih => exact ih

theorem Stopped.uses (h : Stopped client error used) : ∀ event ∈ used, event.Uses client := by
  cases h with
  | begin => simp [Event.Uses]
  | operation =>
    simp only [List.mem_cons, List.mem_append, List.not_mem_nil, or_false]
    rintro event (rfl | h | rfl)
    · rfl
    · exact uses_of_mem_inner h
    · rfl
  | commit =>
    simp only [List.mem_cons, List.mem_append, List.not_mem_nil, or_false]
    rintro event (rfl | h | rfl | rfl)
    · rfl
    · exact uses_of_mem_inner h
    · rfl
    · rfl

theorem Stopped.findSome? (h : Stopped client error used) :
    used.findSome? Event.failure = some error := by
  cases h with
  | begin => rfl
  | operation =>
    change (inner client _ ++ [_]).findSome? Event.failure = _
    rw [List.findSome?_append, findSome?_inner]
    rfl
  | commit =>
    change (inner client _ ++ [_, _]).findSome? Event.failure = _
    rw [List.findSome?_append, findSome?_inner]
    rfl

theorem Stopped.isOpen (h : Stopped client error used) :
    used.foldl Event.leavesOpen false = true := by
  cases h <;> simp [List.foldl_append, foldl_inner, Event.leavesOpen]

theorem Stopped.not_committed (h : Stopped client error used) (client' : ℕ) :
    .query client' .commit (.ok ()) ∉ used := by
  cases h <;> simp [inner]

theorem Stopped.rollbacksResolved (h : Stopped client error used) : RollbacksResolved used := by
  intro client' error'
  cases h <;> simp [inner]

theorem eq_of_append_release {body before after : List (Event α)} {client' : ℕ}
    (hbody : ∀ client error, .release client error ∉ body)
    (h : body ++ [Event.release client none] = before ++ Event.release client' none :: after) :
    before = body := by
  induction body generalizing before with
  | nil =>
    cases before with
    | nil => rfl
    | cons _ before => simp at h
  | cons event body ih =>
    cases before with
    | nil => exact absurd ((List.cons.inj h).1 ▸ List.mem_cons_self) (hbody client' none)
    | cons _ before =>
      obtain ⟨rfl, hrest⟩ := List.cons.inj h
      rw [ih (fun client error hmem ↦ hbody client error (List.mem_cons_of_mem _ hmem)) hrest]

theorem uses_committed {isolation : Isolation} {result : α} :
    ∀ event ∈ Event.query client (.begin isolation) (.ok ()) :: (inner client queries ++
      [Event.operation client (.ok result), Event.query client .commit (.ok ())]),
      event.Uses client := by
  simp only [List.mem_cons, List.mem_append, List.not_mem_nil, or_false]
  rintro event (rfl | h | rfl | rfl)
  · rfl
  · exact uses_of_mem_inner h
  · rfl
  · rfl

theorem uses_rolledBack (hstopped : Stopped client error used)
    {answer : Except Rejection Unit} :
    ∀ event ∈ used ++ [Event.query client .rollback answer], event.Uses client := by
  intro event hmem
  rcases List.mem_append.mp hmem with hmem | hmem
  · exact hstopped.uses event hmem
  · rw [List.mem_singleton.mp hmem]
    rfl

theorem Attempt.Course.released (h : made.Course) : Checkouts made.trace := by
  cases h with
  | refused => exact .refused .nil
  | committed => exact .released uses_committed .nil
  | rolledBack client error hstopped | masked client error error' hstopped =>
    exact .released (uses_rolledBack hstopped) .nil

theorem Attempt.Course.returned (h : made.Course) (result : α) :
    made.outcome = .ok result ↔ made.Produced result ∧ made.Committed := by
  cases h with
  | refused error => simp [Attempt.Produced]
  | committed client isolation queries result' =>
    simp [Attempt.Produced, Attempt.Committed, inner, eq_comm]
  | rolledBack client error hstopped | masked client error error' hstopped =>
    simp [Attempt.Committed, hstopped.not_committed]

theorem Attempt.Course.cause_rolledBack (hstopped : Stopped client error used)
    {answer : Except Rejection Unit} {outcome : Except Rejection α} :
    (⟨Event.connect (.ok client) :: (used ++ [Event.query client .rollback answer]) ++
      [Event.release client none], outcome⟩ : Attempt α).cause = some error := by
  change (used ++ [_] ++ [_]).findSome? Event.failure = _
  rw [List.findSome?_append, List.findSome?_append, hstopped.findSome?]
  rfl

theorem mayBeOpen_committed {isolation : Isolation} {result : α} :
    mayBeOpen (Event.connect (.ok client) :: (Event.query client (.begin isolation) (.ok ()) ::
      (inner client queries ++
        [Event.operation client (.ok result), Event.query client .commit (.ok ())]))) = false := by
  change (inner client queries ++ [_, _]).foldl Event.leavesOpen true = _
  rw [List.foldl_append]
  rfl

/-- Before its release, a client that was rolled back has no transaction if `ROLLBACK` resolved. -/
theorem mayBeOpen_rolledBack (hstopped : Stopped client error used)
    {answer : Except Rejection Unit} :
    mayBeOpen (Event.connect (.ok client) :: (used ++ [Event.query client .rollback answer])) =
      Event.leavesOpen true (.query (α := α) client .rollback answer) := by
  change (used ++ [_]).foldl Event.leavesOpen false = _
  rw [List.foldl_append, hstopped.isOpen]
  rfl

theorem not_release_of_uses {body : List (Event α)} (h : ∀ event ∈ body, event.Uses client)
    (client' : ℕ) (error' : Option Rejection) :
    Event.release client' error' ∉ Event.connect (.ok client) :: body := by
  rintro (_ | ⟨_, hmem⟩)
  exact h _ hmem

theorem mayBeOpen_of_release {body before after : List (Event α)} {client' : ℕ}
    (huses : ∀ event ∈ body, event.Uses client)
    (h : Event.connect (.ok client) :: body ++ [Event.release client none] =
      before ++ Event.release client' none :: after)
    (hbody : mayBeOpen (Event.connect (.ok client) :: body) = false) :
    mayBeOpen before = false := by
  rw [eq_of_append_release (not_release_of_uses huses) h]
  exact hbody

theorem Attempt.Course.contract (h : made.Course) (hrollbacks : RollbacksResolved made.trace) :
    made.Contract where
  released := h.released
  returned := h.returned
  reported := by
    intro error houtcome
    cases h with
    | refused => cases houtcome; rfl
    | committed => cases houtcome
    | rolledBack client error hstopped =>
      cases houtcome
      exact Attempt.Course.cause_rolledBack hstopped
    | masked client error error' hstopped =>
      exact absurd (by simp) (hrollbacks client error')
  healthy := by
    intro before client after htrace
    cases h with
    | refused => simp [List.cons_eq_append_iff] at htrace
    | committed => exact mayBeOpen_of_release uses_committed htrace mayBeOpen_committed
    | rolledBack client error hstopped =>
      exact mayBeOpen_of_release (uses_rolledBack hstopped) htrace (mayBeOpen_rolledBack hstopped)
    | masked client error error' hstopped =>
      exact absurd (by simp) (hrollbacks client error')

/-- A client whose `ROLLBACK` was rejected goes back with its transaction. -/
theorem Attempt.Course.rollbacksResolved (h : made.Course) (hcontract : made.Contract) :
    RollbacksResolved made.trace := by
  intro client error hmem
  cases h with
  | refused => simp at hmem
  | committed => simp [inner] at hmem
  | rolledBack client' error' hstopped =>
    have := hstopped.rollbacksResolved client error
    simp [this] at hmem
  | masked client' error' error'' hstopped =>
    have hclosed := hcontract.healthy _ _ _ rfl
    rw [mayBeOpen_rolledBack hstopped] at hclosed
    cases hclosed

/-- An attempt keeps its promises exactly if its `ROLLBACK`, should there be one, resolves. -/
theorem Attempt.Course.contract_iff (h : made.Course) :
    made.Contract ↔ RollbacksResolved made.trace := ⟨h.rollbacksResolved, h.contract⟩

theorem Attempt.Course.committed_iff (h : made.Course) :
    made.Committed ↔ ∃ result, made.outcome = .ok result := by
  cases h with
  | refused error => simp [Attempt.Committed]
  | committed client isolation queries result => simp [Attempt.Committed]
  | rolledBack client error hstopped | masked client error error' hstopped =>
    simp [Attempt.Committed, hstopped.not_committed]

theorem Attempt.Course.cause_of_ok (h : made.Course) {result : α}
    (hresult : made.outcome = .ok result) : made.cause = none := by
  cases h with
  | committed client isolation queries result =>
    change (inner client queries ++ [_, _] ++ [_]).findSome? Event.failure = none
    rw [List.findSome?_append, List.findSome?_append, findSome?_inner]
    rfl
  | refused | rolledBack | masked => cases hresult

theorem Attempt.Course.outcome_of_cause (h : made.Course)
    (hcontract : made.Contract) (hcause : made.cause = some error) :
    made.outcome = .error error := by
  cases houtcome : made.outcome with
  | ok result =>
    rw [h.cause_of_ok houtcome] at hcause
    cases hcause
  | error error' =>
    rw [hcontract.reported error' houtcome] at hcause
    rw [Option.some.inj hcause]

theorem Checkouts.append {events rest : List (Event α)} (h : Checkouts events)
    (hrest : Checkouts rest) : Checkouts (events ++ rest) := by
  induction h with
  | nil => exact hrest
  | refused _ ih => exact .refused ih
  | released hused _ ih =>
    rw [List.append_assoc]
    exact .released hused ih

end Contract

/-! ## The loop

An invariant of the state of the loop: the attempts made so far have all failed with an error that
is due to be retried.
-/

section Loop

variable {script : Script α} {maximumAttempts : WithTop ℚ} {loop : Retry α} {rounds : ℕ}

/-- An attempt after which the loop may go on. -/
def Attempt.Again (made : Attempt α) : Prop :=
  ∃ error, made.outcome = .error error ∧ error.SerializationFailure

/-- The states of the loop: every attempt but the last one was made again, and none of these was the
one at the bound. -/
inductive Retry.Course (maximumAttempts : WithTop ℚ) : Retry α → Prop
  | going (attempts : List (Attempt α)) (hagain : ∀ made ∈ attempts, made.Again)
      (hbelow : attempts ≠ [] → ((attempts.length : ℚ) : WithTop ℚ) ≠ maximumAttempts) :
      Course maximumAttempts ⟨attempts.length + 1, attempts, none⟩
  | returned (attempts : List (Attempt α)) (made : Attempt α) (result : α)
      (hagain : ∀ made ∈ attempts, made.Again) (houtcome : made.outcome = .ok result) :
      Course maximumAttempts ⟨attempts.length + 1, attempts ++ [made], some (.ok result)⟩
  | threw (attempts : List (Attempt α)) (made : Attempt α) (error error' : Rejection)
      (hagain : ∀ made ∈ attempts, made.Again) (houtcome : made.outcome = .error error)
      (hend : ¬ error.SerializationFailure ∨
        (((attempts.length + 1 : ℕ) : ℚ) : WithTop ℚ) = maximumAttempts)
      (hreported : error.readCode = .error error' ∨ error.HasProperties ∧ error' = error) :
      Course maximumAttempts ⟨attempts.length + 1, attempts ++ [made], some (.error error')⟩
  | exhausted (attempts : List (Attempt α)) (hagain : ∀ made ∈ attempts, made.Again)
      (hbelow : attempts ≠ [] → ((attempts.length : ℚ) : WithTop ℚ) ≠ maximumAttempts)
      (hend : ¬ (((attempts.length + 1 : ℕ) : ℚ) : WithTop ℚ) ≤ maximumAttempts) :
      Course maximumAttempts ⟨attempts.length + 1, attempts,
        some (.error (.error "Serializable retry loop exhausted" none))⟩

/-- What holds wherever the loop is. -/
structure Retry.Invariant (maximumAttempts : WithTop ℚ) (loop : Retry α) : Prop where
  course : loop.Course maximumAttempts
  attempts : ∀ made ∈ loop.attempts, made.Course
  admitted : loop.attempts ≠ [] → ((loop.attempts.length : ℚ) : WithTop ℚ) ≤ maximumAttempts

theorem Retry.Invariant.start : (Retry.start : Retry α).Invariant maximumAttempts where
  course := .going [] (fun _ h ↦ absurd h List.not_mem_nil) fun h ↦ absurd rfl h
  attempts := fun _ h ↦ absurd h List.not_mem_nil
  admitted := fun h ↦ absurd rfl h

theorem forall_mem_concat {P : Attempt α → Prop} {attempts : List (Attempt α)} {made : Attempt α}
    (h : ∀ earlier ∈ attempts, P earlier) (hmade : P made) : ∀ any ∈ attempts ++ [made], P any := by
  intro any hmem
  rcases List.mem_append.mp hmem with hmem | hmem
  · exact h any hmem
  · rw [List.mem_singleton.mp hmem]
    exact hmade

theorem Retry.Invariant.step (h : loop.Invariant maximumAttempts) :
    (loop.step script maximumAttempts).Invariant maximumAttempts := by
  obtain ⟨hcourse, hattempts, hadmitted⟩ := h
  cases hcourse with
  | returned attempts made result hagain houtcome =>
    exact ⟨.returned attempts made result hagain houtcome, hattempts, hadmitted⟩
  | threw attempts made error error' hagain houtcome hend hreported =>
    exact ⟨.threw attempts made error error' hagain houtcome hend hreported, hattempts, hadmitted⟩
  | exhausted attempts hagain hbelow hend =>
    exact ⟨.exhausted attempts hagain hbelow hend, hattempts, hadmitted⟩
  | going attempts hagain hbelow =>
    simp only [Retry.step, Option.isSome_none, Bool.false_eq_true, if_false]
    split
    next hbound =>
      generalize hmade : Connections.attempt script .serializable _ = made
      have hattempts' := forall_mem_concat hattempts (hmade ▸ attempt_course)
      have hadmitted' : ((((attempts ++ [made]).length : ℕ) : ℚ) : WithTop ℚ) ≤
          maximumAttempts := by
        rw [List.length_append, List.length_singleton]
        exact hbound
      split
      next result houtcome =>
        exact ⟨.returned attempts made result hagain houtcome, hattempts', fun _ ↦ hadmitted'⟩
      next error houtcome =>
        split
        next typeError hcode =>
          have hend : ¬ error.SerializationFailure := fun h ↦
            (Rejection.readCode_error hcode).1 h.hasProperties
          exact ⟨.threw attempts made error typeError hagain houtcome (.inl hend) (.inl hcode),
            hattempts', fun _ ↦ hadmitted'⟩
        next code hcode =>
          split
          next hlast =>
            have hend : ¬ error.SerializationFailure ∨ _ :=
              hlast.imp_left fun hne h ↦ hne (Except.ok.inj (hcode.symm.trans h))
            have hproperties : error.HasProperties := Rejection.hasProperties_of_readCode hcode
            exact ⟨.threw attempts made error error hagain houtcome hend
              (.inr ⟨hproperties, rfl⟩), hattempts', fun _ ↦ hadmitted'⟩
          next hnext =>
            have hagain' : made.Again :=
              ⟨error, houtcome, hcode.trans (congrArg _ (not_not.mp (not_or.mp hnext).1))⟩
            have hbelow' : attempts ++ [made] ≠ [] →
                (((attempts ++ [made]).length : ℚ) : WithTop ℚ) ≠ maximumAttempts := by
              rw [List.length_append, List.length_singleton]
              exact fun _ ↦ (not_or.mp hnext).2
            have hgoing : Retry.Course maximumAttempts _ :=
              .going _ (forall_mem_concat hagain hagain') hbelow'
            rw [List.length_append, List.length_singleton] at hgoing
            exact ⟨hgoing, hattempts', fun _ ↦ hadmitted'⟩
    next hbound => exact ⟨.exhausted attempts hagain hbelow hbound, hattempts, hadmitted⟩

theorem invariant_withSerializableRetry :
    (withSerializableRetry script maximumAttempts rounds).Invariant maximumAttempts := by
  induction rounds with
  | zero => exact Retry.Invariant.start
  | succ rounds ih =>
    rw [withSerializableRetry, Function.iterate_succ_apply']
    exact ih.step

theorem Retry.Course.attempt_eq (h : loop.Course maximumAttempts) (hgoing : loop.settled = none) :
    loop.attempt = loop.attempts.length + 1 := by
  cases h with
  | going => rfl
  | returned | threw | exhausted => cases hgoing

/-- A loop that is not at its end makes another attempt while the bound admits one. -/
theorem length_attempts_step (h : loop.Course maximumAttempts) (hgoing : loop.settled = none)
    (hbound : (((loop.attempts.length + 1 : ℕ) : ℚ) : WithTop ℚ) ≤ maximumAttempts) :
    (loop.step script maximumAttempts).attempts.length = loop.attempts.length + 1 := by
  rw [← h.attempt_eq hgoing] at hbound
  rw [Retry.step, hgoing]
  simp only [Option.isSome_none, Bool.false_eq_true, if_false, if_pos hbound]
  split
  · simp
  · split
    · simp
    · split <;> simp

/-- Without another attempt the loop comes to its end. -/
theorem settled_step (hgoing : loop.settled = none)
    (hbound : ¬ ((loop.attempt : ℚ) : WithTop ℚ) ≤ maximumAttempts) :
    (loop.step script maximumAttempts).settled ≠ none := by
  rw [Retry.step, hgoing]
  simp only [Option.isSome_none, Bool.false_eq_true, if_false, if_neg hbound]
  simp

theorem length_attempts (h : (withSerializableRetry script maximumAttempts rounds).settled = none) :
    (withSerializableRetry script maximumAttempts rounds).attempts.length = rounds := by
  induction rounds with
  | zero => rfl
  | succ rounds ih =>
    have hcourse : (withSerializableRetry script maximumAttempts rounds).Course maximumAttempts :=
      invariant_withSerializableRetry.course
    rw [withSerializableRetry, Function.iterate_succ_apply', ← withSerializableRetry] at h ⊢
    generalize withSerializableRetry script maximumAttempts rounds = loop at h ih hcourse ⊢
    have hgoing : loop.settled = none := by
      by_contra hsettled
      rw [Retry.step, if_pos (Option.isSome_iff_ne_none.mpr hsettled)] at h
      exact hsettled h
    by_cases hbound : (((loop.attempts.length + 1 : ℕ) : ℚ) : WithTop ℚ) ≤ maximumAttempts
    · rw [length_attempts_step hcourse hgoing hbound, ih hgoing]
    · rw [← hcourse.attempt_eq hgoing] at hbound
      exact absurd h (settled_step hgoing hbound)

/-- A finite bound brings the loop to its end. -/
theorem exists_settled (bound : ℚ) :
    ∃ rounds, (withSerializableRetry script (bound : WithTop ℚ) rounds).settled ≠ none := by
  refine ⟨⌊bound⌋₊ + 1, fun hgoing ↦ ?_⟩
  have hlength := length_attempts hgoing
  have hinvariant : (withSerializableRetry script (bound : WithTop ℚ) (⌊bound⌋₊ + 1)).Invariant
      bound := invariant_withSerializableRetry
  have hadmitted := hinvariant.admitted
  rw [hlength] at hadmitted
  have hne := List.ne_nil_of_length_eq_add_one hlength
  have hle := WithTop.coe_le_coe.mp (hadmitted hne)
  push_cast at hle
  exact absurd (Nat.lt_floor_add_one bound) (not_lt.mpr hle)

/-! ## What the loop promises

The contract of the loop from that of its attempts, and the conditions under which it is kept.
-/

theorem checkouts_flatMap {attempts : List (Attempt α)} (h : ∀ made ∈ attempts, made.Course) :
    Checkouts (attempts.flatMap (·.trace)) := by
  induction attempts with
  | nil => exact .nil
  | cons made attempts ih =>
    rw [List.forall_mem_cons] at h
    rw [List.flatMap_cons]
    exact h.1.released.append (ih h.2)

theorem rollbacksResolved_of_mem {made : Attempt α} (h : RollbacksResolved loop.trace)
    (hmade : made ∈ loop.attempts) : RollbacksResolved made.trace :=
  fun client error hmem ↦ h client error (List.mem_flatMap.mpr ⟨made, hmade, hmem⟩)

/-- Only the last attempt can have returned something. -/
theorem Retry.Course.settled_iff (h : loop.Course maximumAttempts) (result : α) :
    loop.settled = some (.ok result) ↔ ∃ made ∈ loop.attempts, made.outcome = .ok result := by
  have hagain_ok : ∀ {made : Attempt α}, made.Again → made.outcome ≠ .ok result := by
    rintro made ⟨error, houtcome, -⟩ hok
    rw [houtcome] at hok
    cases hok
  cases h with
  | going attempts hagain =>
    refine ⟨fun h ↦ absurd h (by simp), ?_⟩
    rintro ⟨made, hmem, hok⟩
    exact absurd hok (hagain_ok (hagain made hmem))
  | exhausted attempts hagain hbelow hend =>
    refine ⟨fun h ↦ absurd h (by simp), ?_⟩
    rintro ⟨made, hmem, hok⟩
    exact absurd hok (hagain_ok (hagain made hmem))
  | returned attempts made result' hagain houtcome =>
    constructor
    · intro h
      cases h
      exact ⟨made, List.mem_append_right _ List.mem_cons_self, houtcome⟩
    · rintro ⟨made', hmem, hok⟩
      rcases List.mem_append.mp hmem with hmem | hmem
      · exact absurd hok (hagain_ok (hagain made' hmem))
      · rw [List.mem_singleton.mp hmem, houtcome] at hok
        cases hok
        rfl
  | threw attempts made error error' hagain houtcome hend =>
    refine ⟨fun h ↦ absurd h (by simp), ?_⟩
    rintro ⟨made', hmem, hok⟩
    rcases List.mem_append.mp hmem with hmem | hmem
    · exact absurd hok (hagain_ok (hagain made' hmem))
    · rw [List.mem_singleton.mp hmem, houtcome] at hok
      cases hok

theorem Retry.Course.eq_last (h : loop.Course maximumAttempts) {i : ℕ} {made : Attempt α}
    {result : α} (hmade : loop.attempts[i]? = some made) (hok : made.outcome = .ok result) :
    i + 1 = loop.attempts.length := by
  have hagain : ¬ made.Again := by
    rintro ⟨error, houtcome, -⟩
    rw [houtcome] at hok
    cases hok
  cases h with
  | going attempts hall => exact absurd (hall made (List.mem_of_getElem? hmade)) hagain
  | exhausted attempts hall => exact absurd (hall made (List.mem_of_getElem? hmade)) hagain
  | returned attempts last result' hall | threw attempts last error error' hall =>
    have h := List.getElem?_append.symm.trans hmade
    split at h
    next => exact absurd (hall made (List.mem_of_getElem? h)) hagain
    next hlast =>
      have hi : i - attempts.length = 0 := by
        by_contra hne
        rw [List.getElem?_eq_none (by rw [List.length_singleton]; omega)] at h
        cases h
      rw [List.length_append, List.length_singleton]
      omega

theorem Retry.Course.again (h : loop.Course maximumAttempts) {i : ℕ} {made : Attempt α}
    (hmade : loop.attempts[i]? = some made) (hi : i + 1 < loop.attempts.length) : made.Again := by
  cases h with
  | going attempts hall => exact hall made (List.mem_of_getElem? hmade)
  | exhausted attempts hall => exact hall made (List.mem_of_getElem? hmade)
  | returned attempts last result' hall | threw attempts last error error' hall =>
    rw [List.length_append, List.length_singleton] at hi
    rw [List.getElem?_append_left (by omega)] at hmade
    exact hall made (List.mem_of_getElem? hmade)

theorem admitted_of_le {m n : ℕ} (hle : m ≤ n) (h : ((n : ℚ) : WithTop ℚ) ≤ maximumAttempts) :
    ((m : ℚ) : WithTop ℚ) ≤ maximumAttempts :=
  (WithTop.coe_le_coe.mpr (Nat.cast_le.mpr hle)).trans h

theorem Retry.Invariant.going_of_due (h : loop.Invariant maximumAttempts) {i : ℕ}
    {made : Attempt α} (hmade : loop.attempts[i]? = some made) (hcontract : made.Contract)
    (hdue : made.RetryDue maximumAttempts i) (hlast : i + 1 = loop.attempts.length) :
    loop.settled = none := by
  obtain ⟨⟨error, hcause, hserialization⟩, hbound⟩ := hdue
  obtain ⟨hcourse, hattempts, -⟩ := h
  have hmem := List.mem_of_getElem? hmade
  have houtcome := (hattempts made hmem).outcome_of_cause hcontract hcause
  cases hcourse with
  | going => rfl
  | exhausted attempts hagain hbelow hend =>
    change i + 1 = attempts.length at hlast
    rw [← hlast] at hend
    exact absurd hbound hend
  | returned attempts last result hagain hok =>
    change i + 1 = (attempts ++ [last]).length at hlast
    rw [List.length_append, List.length_singleton] at hlast
    rw [Nat.add_right_cancel hlast, List.getElem?_concat_length] at hmade
    rw [Option.some.inj hmade, houtcome] at hok
    cases hok
  | threw attempts last error' error'' hagain herror hend =>
    change i + 1 = (attempts ++ [last]).length at hlast
    rw [List.length_append, List.length_singleton] at hlast
    rw [Nat.add_right_cancel hlast, List.getElem?_concat_length] at hmade
    rw [Option.some.inj hmade, houtcome, Except.error.injEq] at herror
    rcases hend with hend | hend
    · exact absurd (herror ▸ hserialization) hend
    · -- the bound was the number of this attempt, so it does not admit the next
      rw [← hend, ← hlast] at hbound
      have hle := WithTop.coe_le_coe.mp hbound
      push_cast at hle
      linarith

/-- In an undisturbed loop the error of the last attempt is the one that is reported. -/
theorem Retry.Invariant.reported (h : loop.Invariant maximumAttempts)
    (hundisturbed : loop.Undisturbed maximumAttempts) {error : Rejection}
    (hsettled : loop.settled = some (.error error)) {made : Attempt α}
    (hlast : loop.attempts.getLast? = some made) : made.cause = some error := by
  obtain ⟨hcourse, hattempts, -⟩ := h
  obtain ⟨hrollbacks, hproperties, hwhole⟩ := hundisturbed
  have hmem : made ∈ loop.attempts := List.mem_of_getLast? hlast
  have hcontract : made.Contract :=
    (hattempts made hmem).contract (rollbacksResolved_of_mem hrollbacks hmem)
  cases hcourse with
  | going => cases hsettled
  | returned => cases hsettled
  | threw attempts made' error₁ error₂ hagain houtcome hend hreported =>
    cases hsettled
    change (attempts ++ [made']).getLast? = _ at hlast
    rw [List.getLast?_concat] at hlast
    obtain rfl := Option.some.inj hlast
    have hcause := hcontract.reported error₁ houtcome
    rcases hreported with hthrown | ⟨-, rfl⟩
    · exact absurd (hproperties _ hmem error₁ hcause) (Rejection.readCode_error hthrown).1
    · exact hcause
  | exhausted attempts hagain hbelow hend =>
    -- an attempt that was to be made again would be the last below a fraction
    change attempts.getLast? = _ at hlast
    obtain ⟨error', houtcome, hserialization⟩ := hagain made hmem
    have hne : attempts ≠ [] := List.ne_nil_of_mem hmem
    have hlength : attempts.length - 1 + 1 = attempts.length :=
      Nat.sub_add_cancel (List.length_pos_iff.mpr hne)
    rw [List.getLast?_eq_getElem?] at hlast
    refine absurd ⟨?_, ?_⟩ (hwhole _ made hlast ⟨error', hcontract.reported error' houtcome,
      hserialization⟩)
    · rw [hlength]
      exact hbelow hne
    · rw [show attempts.length - 1 + 2 = attempts.length + 1 by omega]
      exact hend

theorem Retry.Invariant.contract (h : loop.Invariant maximumAttempts)
    (hundisturbed : loop.Undisturbed maximumAttempts) : loop.Contract maximumAttempts := by
  have hcontracts : ∀ made ∈ loop.attempts, made.Contract := fun made hmem ↦
    (h.attempts made hmem).contract (rollbacksResolved_of_mem hundisturbed.rollbacks hmem)
  refine ⟨hcontracts, checkouts_flatMap h.attempts, fun result ↦ ?_, ?_,
    fun error hsettled made hlast ↦ h.reported hundisturbed hsettled hlast, ?_⟩
  · rw [h.course.settled_iff]
    exact exists_congr fun made ↦ and_congr_right fun hmem ↦ (hcontracts made hmem).returned result
  · intro i j made made' hi hj hcommitted hcommitted'
    obtain ⟨result, hok⟩ := (h.attempts made (List.mem_of_getElem? hi)).committed_iff.mp hcommitted
    obtain ⟨result', hok'⟩ :=
      (h.attempts made' (List.mem_of_getElem? hj)).committed_iff.mp hcommitted'
    have hlast := h.course.eq_last hi hok
    have hlast' := h.course.eq_last hj hok'
    omega
  · intro i made hmade
    have hmem := List.mem_of_getElem? hmade
    refine ⟨fun hi ↦ ?_, fun hdue ↦ ?_⟩
    · obtain ⟨error, houtcome, hserialization⟩ := h.course.again hmade hi
      refine ⟨⟨error, (hcontracts made hmem).reported error houtcome, hserialization⟩, ?_⟩
      exact admitted_of_le hi (h.admitted (List.ne_nil_of_mem hmem))
    · by_cases hi : i + 1 < loop.attempts.length
      · exact .inl hi
      · obtain ⟨hlt, -⟩ := List.getElem?_eq_some_iff.mp hmade
        exact .inr (h.going_of_due hmade (hcontracts made hmem) hdue (by omega))

/-- What failed with an error without properties is the last attempt, and the loop has thrown the
error of reading from it. -/
theorem Retry.Invariant.hasProperties (h : loop.Invariant maximumAttempts)
    (hcontract : loop.Contract maximumAttempts) {made : Attempt α} (hmem : made ∈ loop.attempts)
    {error : Rejection} (hcause : made.cause = some error) : error.HasProperties := by
  obtain ⟨hcourse, hattempts, -⟩ := h
  have houtcome := (hattempts made hmem).outcome_of_cause (hcontract.attempts made hmem) hcause
  have hagain : made.Again → error.HasProperties := by
    rintro ⟨error', houtcome', hserialization⟩
    rw [houtcome, Except.error.injEq] at houtcome'
    exact houtcome' ▸ hserialization.hasProperties
  cases hcourse with
  | going attempts hall => exact hagain (hall made hmem)
  | exhausted attempts hall => exact hagain (hall made hmem)
  | returned attempts last result hall hok =>
    rcases List.mem_append.mp hmem with hmem | hmem
    · exact hagain (hall made hmem)
    · rw [List.mem_singleton.mp hmem, hok] at houtcome
      cases houtcome
  | threw attempts last error₁ error₂ hall herror hend hreported =>
    rcases List.mem_append.mp hmem with hmem | hmem
    · exact hagain (hall made hmem)
    · obtain rfl := List.mem_singleton.mp hmem
      rw [herror, Except.error.injEq] at houtcome
      subst houtcome
      rcases hreported with hthrown | ⟨hproperties, -⟩
      · have hreported := hcontract.reported error₂ rfl made List.getLast?_concat
        rw [hcause] at hreported
        exact absurd (Option.some.inj hreported).symm (Rejection.readCode_error hthrown).2
      · exact hproperties

theorem Retry.Invariant.not_endsBehind (h : loop.Invariant maximumAttempts)
    (hcontract : loop.Contract maximumAttempts)
    (hnext : (loop.step script maximumAttempts).Contract maximumAttempts) {i : ℕ}
    {made : Attempt α} (hmade : loop.attempts[i]? = some made)
    (hfailure : ∃ error, made.cause = some error ∧ error.SerializationFailure) :
    ¬ EndsBehind maximumAttempts i := by
  rintro ⟨hnot, hends⟩
  obtain ⟨error, hcause, hserialization⟩ := hfailure
  have hmem := List.mem_of_getElem? hmade
  have houtcome := (h.attempts made hmem).outcome_of_cause (hcontract.attempts made hmem) hcause
  -- another attempt would have been admitted by the bound
  have hlast : i + 1 = loop.attempts.length := by
    obtain ⟨hlt, -⟩ := List.getElem?_eq_some_iff.mp hmade
    refine Nat.le_antisymm hlt (not_lt.mp fun hi ↦ ?_)
    exact hends (admitted_of_le hi (h.admitted (List.ne_nil_of_mem hmem)))
  have hgetLast : loop.attempts.getLast? = some made := by
    rw [List.getLast?_eq_getElem?, ← hlast]
    exact hmade
  -- the text about an exhausted loop is no cause of the attempt
  have hexhausted {loop' : Retry α} (hcontract' : loop'.Contract maximumAttempts)
      (hattempts : loop'.attempts = loop.attempts)
      (hsettled : loop'.settled =
        some (.error (.error "Serializable retry loop exhausted" none))) : False := by
    have hreported := hcontract'.reported _ hsettled made (hattempts ▸ hgetLast)
    rw [hcause] at hreported
    rw [Option.some.inj hreported] at hserialization
    exact absurd hserialization (by decide)
  obtain ⟨hcourse, -, -⟩ := h
  cases hcourse with
  | going attempts hagain hbelow =>
    change i + 1 = attempts.length at hlast
    have hbound : ¬ (((attempts.length + 1 : ℕ) : ℚ) : WithTop ℚ) ≤ maximumAttempts := by
      rw [← hlast]
      exact hends
    rw [Retry.step, if_neg (by simp), if_neg hbound] at hnext
    exact hexhausted hnext rfl rfl
  | exhausted attempts hagain hbelow hend => exact hexhausted hcontract rfl rfl
  | returned attempts last result hagain hok =>
    change (attempts ++ [last]).getLast? = _ at hgetLast
    rw [List.getLast?_concat] at hgetLast
    rw [Option.some.inj hgetLast, houtcome] at hok
    cases hok
  | threw attempts last error₁ error₂ hagain herror hend hreported =>
    change (attempts ++ [last]).getLast? = _ at hgetLast
    rw [List.getLast?_concat] at hgetLast
    rw [Option.some.inj hgetLast, houtcome, Except.error.injEq] at herror
    rcases hend with hend | hend
    · exact hend (herror ▸ hserialization)
    · change i + 1 = (attempts ++ [last]).length at hlast
      rw [List.length_append, List.length_singleton] at hlast
      rw [hlast] at hnot
      exact hnot hend

/-- The loop keeps its promises in every round exactly if nothing disturbs it. -/
theorem withSerializableRetry_contract_iff :
    (∀ rounds, (withSerializableRetry script maximumAttempts rounds).Contract maximumAttempts) ↔
      ∀ rounds, (withSerializableRetry script maximumAttempts rounds).Undisturbed
        maximumAttempts := by
  refine ⟨fun hcontract rounds ↦ ?_, fun hundisturbed rounds ↦
    invariant_withSerializableRetry.contract (hundisturbed rounds)⟩
  have hinvariant : (withSerializableRetry script maximumAttempts rounds).Invariant _ :=
    invariant_withSerializableRetry
  have hnext := hcontract (rounds + 1)
  rw [withSerializableRetry, Function.iterate_succ_apply', ← withSerializableRetry] at hnext
  refine ⟨fun client error hmem ↦ ?_, fun made hmem error hcause ↦
    hinvariant.hasProperties (hcontract rounds) hmem hcause, fun i made hmade hfailure ↦
    hinvariant.not_endsBehind (hcontract rounds) hnext hmade hfailure⟩
  obtain ⟨made, hmade, hmem⟩ := List.mem_flatMap.mp hmem
  exact (hinvariant.attempts made hmade).rollbacksResolved ((hcontract rounds).attempts made hmade)
    client error hmem

end Loop

/-- **Both wrappers keep their promises** exactly as long as nothing happens that they cannot
handle: one call of `withTransaction` if no `ROLLBACK` is rejected, and the loop if, besides, no
attempt fails with an error without properties and none that could not be serialized is the last
below a fraction. The loop makes another attempt whenever it is not at its end and the bound admits
one, and a finite bound ends it. -/
theorem transaction_wrapper_contract (script : Script α) :
    (∀ isolation history, (attempt script isolation history).Contract ↔
      RollbacksResolved (attempt script isolation history).trace) ∧
    ∀ maximumAttempts : WithTop ℚ,
      ((∀ rounds, (withSerializableRetry script maximumAttempts rounds).Contract maximumAttempts) ↔
        ∀ rounds,
          (withSerializableRetry script maximumAttempts rounds).Undisturbed maximumAttempts) ∧
      (∀ rounds, (withSerializableRetry script maximumAttempts rounds).settled = none →
        (((rounds + 1 : ℕ) : ℚ) : WithTop ℚ) ≤ maximumAttempts →
        (withSerializableRetry script maximumAttempts (rounds + 1)).attempts.length = rounds + 1) ∧
      (maximumAttempts ≠ ⊤ →
        ∃ rounds, (withSerializableRetry script maximumAttempts rounds).settled ≠ none) := by
  refine ⟨fun _ _ ↦ attempt_course.contract_iff, fun maximumAttempts ↦
    ⟨withSerializableRetry_contract_iff, fun rounds hgoing hbound ↦ ?_, fun hfinite ↦ ?_⟩⟩
  · have hlength := length_attempts hgoing
    rw [withSerializableRetry, Function.iterate_succ_apply', ← withSerializableRetry]
    refine (length_attempts_step invariant_withSerializableRetry.course hgoing ?_).trans
      (congrArg (· + 1) hlength)
    rwa [hlength]
  · obtain ⟨bound, rfl⟩ := WithTop.ne_top_iff_exists.mp hfinite
    exact exists_settled bound

/-- `ROLLBACK` is answered by a timeout, after an operation that could not be serialized. -/
def timedOutRollback : Script Unit where
  connect := fun _ ↦ .ok 0
  query := fun _ _ statement ↦
    if statement = .rollback then .error (.error "Query read timeout" none) else .ok ()
  operation := fun _ _ ↦ ⟨[("SELECT credit", .error (.error "could not serialize" (some "40001")))],
    .error (.error "could not serialize" (some "40001"))⟩

/-- The timeout of `ROLLBACK` hides the error that should have been reported, so that nothing is
tried again, and the client is released as if its transaction were closed. -/
theorem timedOutRollback_breaks_contract :
    ¬ (attempt timedOutRollback .readCommitted []).Contract ∧
    ¬ (withSerializableRetry timedOutRollback ((3 : ℚ) : WithTop ℚ) 3).Contract
      ((3 : ℚ) : WithTop ℚ) ∧
    (withSerializableRetry timedOutRollback ((3 : ℚ) : WithTop ℚ) 3).settled =
      some (.error (.error "Query read timeout" none)) ∧
    mayBeOpen ((attempt timedOutRollback .readCommitted []).trace.dropLast) = true := by
  have hreported : ∀ made : Attempt Unit, made.outcome = .error (.error "Query read timeout" none) →
      made.cause = some (.error "could not serialize" (some "40001")) → ¬ made.Contract := by
    intro made houtcome hcause hcontract
    have := hcontract.reported _ houtcome
    rw [hcause] at this
    exact absurd this (by decide)
  refine ⟨hreported _ rfl rfl, fun h ↦ ?_, rfl, rfl⟩
  exact hreported _ rfl rfl (h.attempts _ (List.mem_of_getElem? (i := 0) rfl))

end Nayasetu.Connections
