import Mathlib.Data.List.Infix
import Mathlib.Order.Basic
import Mathlib.Tactic.Common

/-!
# Row-locking transactions

Client programs that talk to one relational store, and the interleavings a row-locking database
allows them. The store, its lock keys, the requests and the results are parameters; nothing here
knows which application runs.

## The statements

A program is a tree of statements, each of which the database executes atomically: a read takes a
snapshot of the committed store (with the program's own uncommitted writes laid over it), `lock`
waits for a row lock and then sees the newest committed version of the row, `tryLock` skips the
row when another transaction holds it. Writes stay private to their transaction until `commit`.
Between two statements every other session may run, so a delay of any length is just a stretch of
other sessions' steps and clock ticks.

## What is shared

The shared part of a configuration is the committed store, the clock, the lock table, the numbers
drawn from sequences and the commit history. Sequence numbers are not transactional: a drawn
number is never drawn again, whether or not the transaction that drew it commits. The history and
the table of dropped locks only record what happened; no statement reads them.

## What is left out

Isolation is that of READ COMMITTED with row locks: a statement sees what is committed when it
begins, and no statement waits for anything but a lock. A deadlock is a configuration in which
nothing can happen to some sessions; the database's way out, to end one of them, is the action
`crash`, which may befall any session at any time. Waiting on a unique index is modelled by a lock
on the key that is looked for.
-/

namespace RowLock

/-! ## Programs -/

/-- A client program over stores `σ` with lock keys `κ`. It ends with a value in `α` or with an
error in `ε`. -/
inductive Program (σ κ ε α : Type) : Type where
  /-- End with a value. -/
  | pure (a : α)
  /-- End with an error. -/
  | throw (e : ε)
  /-- Read the wall clock. -/
  | now (k : ℤ → Program σ κ ε α)
  /-- Take a statement snapshot. -/
  | read (k : σ → Program σ κ ε α)
  /-- Wait for the lock on `key`, then go on with the newest store. -/
  | lock (key : κ) (k : σ → Program σ κ ε α)
  /-- Take the lock on `key` if no other session holds it, else take `busy`. -/
  | tryLock (key : κ) (k : σ → Program σ κ ε α) (busy : Program σ κ ε α)
  /-- Draw the next sequence number. -/
  | nextval (k : ℕ → Program σ κ ε α)
  /-- A choice of the environment, such as whether a statement fails. -/
  | choose (k : ℕ → Program σ κ ε α)
  /-- Add a write to the open transaction. -/
  | write (f : σ → σ) (next : Program σ κ ε α)
  /-- Make the pending writes visible and release every lock. -/
  | commit (next : Program σ κ ε α)
  /-- Discard the pending writes and release every lock. -/
  | rollback (next : Program σ κ ε α)

namespace Program

variable {σ κ ε α β : Type}

/-- Sequencing: an error ends the whole program. -/
def bind : Program σ κ ε α → (α → Program σ κ ε β) → Program σ κ ε β
  | .pure a, f => f a
  | .throw e, _ => .throw e
  | .now k, f => .now fun t ↦ (k t).bind f
  | .read k, f => .read fun s ↦ (k s).bind f
  | .lock key k, f => .lock key fun s ↦ (k s).bind f
  | .tryLock key k busy, f => .tryLock key (fun s ↦ (k s).bind f) (busy.bind f)
  | .nextval k, f => .nextval fun n ↦ (k n).bind f
  | .choose k, f => .choose fun n ↦ (k n).bind f
  | .write g next, f => .write g (next.bind f)
  | .commit next, f => .commit (next.bind f)
  | .rollback next, f => .rollback (next.bind f)

/-- Run a program and hand its error, if it ends with one, to the caller as a value. -/
def attempt {ε' : Type} : Program σ κ ε α → Program σ κ ε' (Except ε α)
  | .pure a => .pure (.ok a)
  | .throw e => .pure (.error e)
  | .now k => .now fun t ↦ (k t).attempt
  | .read k => .read fun s ↦ (k s).attempt
  | .lock key k => .lock key fun s ↦ (k s).attempt
  | .tryLock key k busy => .tryLock key (fun s ↦ (k s).attempt) busy.attempt
  | .nextval k => .nextval fun n ↦ (k n).attempt
  | .choose k => .choose fun n ↦ (k n).attempt
  | .write g next => .write g next.attempt
  | .commit next => .commit next.attempt
  | .rollback next => .rollback next.attempt

instance : Monad (Program σ κ ε) where
  pure := .pure
  bind := .bind

/-- `try … catch`: the handler sees the error. -/
instance : MonadExceptOf ε (Program σ κ ε) where
  throw := .throw
  tryCatch p handler := p.attempt.bind fun r ↦ match r with
    | .ok a => .pure a
    | .error e => handler e

end Program

section Statements

variable {σ κ ε : Type}

/-- The wall clock. -/
def now : Program σ κ ε ℤ := .now .pure

/-- A statement snapshot. -/
def snapshot : Program σ κ ε σ := .read .pure

/-- Wait for a row lock; the newest store. -/
def lock (key : κ) : Program σ κ ε σ := .lock key .pure

/-- `SKIP LOCKED`: the newest store, or `none` when another session holds the lock. -/
def tryLock (key : κ) : Program σ κ ε (Option σ) :=
  .tryLock key (fun s ↦ .pure (some s)) (.pure none)

/-- The next sequence number. -/
def nextval : Program σ κ ε ℕ := .nextval .pure

/-- A number the environment picks. -/
def choose : Program σ κ ε ℕ := .choose .pure

/-- Add a write to the open transaction. -/
def write (f : σ → σ) : Program σ κ ε Unit := .write f (.pure ())

/-- `COMMIT`. -/
def commit : Program σ κ ε Unit := .commit (.pure ())

/-- `ROLLBACK`. -/
def rollback : Program σ κ ε Unit := .rollback (.pure ())

/-- A value that is already known to be an error or not. -/
def fromExcept {α : Type} : Except ε α → Program σ κ ε α
  | .ok a => .pure a
  | .error e => .throw e

/-- `SELECT … FOR UPDATE` of one row: the row must match in the statement's snapshot, and after
the lock wait it is matched again on its newest version. -/
def selectForUpdate {ρ : Type} (key : κ) (row : σ → Option ρ) : Program σ κ ε (Option ρ) := do
  match row (← snapshot) with
  | none => return none
  | some _ => return row (← lock key)

/-- `UPDATE` of the one row that `key` locks; the number of rows it changed. -/
def updateRow (key : κ) (matches? : σ → Bool) (f : σ → σ) : Program σ κ ε ℕ := do
  if !matches? (← snapshot) then return 0
  if !matches? (← lock key) then return 0
  write f
  return 1

end Statements

/-! ## What a program writes

A class of writes contains those of a program if it contains each of them, whatever the program is
answered. Commits are left out on purpose: a program that only writes can be followed by what its
writes do to any store.
-/

def Program.Writes {σ κ ε α : Type} (W : (σ → σ) → Prop) : Program σ κ ε α → Prop
  | .pure _ => True
  | .throw _ => True
  | .now k => ∀ t, (k t).Writes W
  | .read k => ∀ s, (k s).Writes W
  | .lock _ k => ∀ s, (k s).Writes W
  | .tryLock _ k busy => (∀ s, (k s).Writes W) ∧ busy.Writes W
  | .nextval k => ∀ n, (k n).Writes W
  | .choose k => ∀ n, (k n).Writes W
  | .write f next => W f ∧ next.Writes W
  | .commit _ => False
  | .rollback _ => False

section Writes

variable {σ κ ε α β : Type} {W : (σ → σ) → Prop} {p q : Program σ κ ε α}

theorem writes_pure {a : α} : (pure a : Program σ κ ε α).Writes W := trivial

theorem writes_throw {e : ε} : (throw e : Program σ κ ε α).Writes W := trivial

theorem writes_bind {f : α → Program σ κ ε β} (hp : p.Writes W) (hf : ∀ a, (f a).Writes W) :
    (p >>= f).Writes W := by
  change (p.bind f).Writes W
  induction p with
  | pure a => exact hf a
  | throw e => exact trivial
  | now k ih => exact fun t ↦ ih t (hp t)
  | read k ih => exact fun s ↦ ih s (hp s)
  | lock key k ih => exact fun s ↦ ih s (hp s)
  | tryLock key k busy ih ihb => exact ⟨fun s ↦ ih s (hp.1 s), ihb hp.2⟩
  | nextval k ih => exact fun n ↦ ih n (hp n)
  | choose k ih => exact fun n ↦ ih n (hp n)
  | write g next ih => exact ⟨hp.1, ih hp.2⟩
  | commit next ih => exact hp
  | rollback next ih => exact hp

theorem writes_ite {condition : Prop} [Decidable condition] (hp : p.Writes W) (hq : q.Writes W) :
    (if condition then p else q).Writes W := by
  split
  · exact hp
  · exact hq

/-- Two branches that go on alike. -/
theorem writes_ite_bind {condition : Prop} [Decidable condition] {f : α → Program σ κ ε β}
    (hp : p.Writes W) (hq : q.Writes W) (hf : ∀ a, (f a).Writes W) :
    (if condition then p >>= f else q >>= f).Writes W :=
  writes_ite (writes_bind hp hf) (writes_bind hq hf)

theorem writes_fromExcept {x : Except ε α} : (fromExcept x : Program σ κ ε α).Writes W := by
  cases x <;> exact trivial

theorem writes_snapshot : (snapshot : Program σ κ ε σ).Writes W := fun _ ↦ trivial

theorem writes_lock {key : κ} : (lock key : Program σ κ ε σ).Writes W := fun _ ↦ trivial

theorem writes_tryLock {key : κ} : (tryLock key : Program σ κ ε (Option σ)).Writes W :=
  ⟨fun _ ↦ trivial, trivial⟩

theorem writes_nextval : (nextval : Program σ κ ε ℕ).Writes W := fun _ ↦ trivial

theorem writes_choose : (choose : Program σ κ ε ℕ).Writes W := fun _ ↦ trivial

theorem writes_write {f : σ → σ} (h : W f) : (write f : Program σ κ ε Unit).Writes W := ⟨h, trivial⟩

theorem writes_selectForUpdate {key : κ} {row : σ → Option β} :
    (selectForUpdate key row : Program σ κ ε (Option β)).Writes W := by
  refine writes_bind writes_snapshot fun s ↦ ?_
  cases row s with
  | none => exact writes_pure
  | some b => exact writes_bind writes_lock fun _ ↦ writes_pure

end Writes

/-! ## Configurations -/

/-- One commit: who, for which request, what its last statement snapshot was, and the committed
store before and after. -/
structure Entry (σ Req : Type) where
  /-- The session that committed. -/
  session : ℕ
  /-- The request it was serving. -/
  request : Req
  /-- The snapshot of its last reading statement. -/
  snapshot : σ
  /-- The store it committed into. -/
  before : σ
  /-- The store it left. -/
  after : σ

/-- What all sessions share. -/
structure Shared (σ κ Req : Type) where
  /-- The committed store. -/
  store : σ
  /-- The wall clock. -/
  clock : ℤ
  /-- The sequence numbers drawn so far: number `n` was drawn by session `minted[n]`, or before
  the run began. -/
  minted : List (Option ℕ)
  /-- The lock table. -/
  holder : κ → Option ℕ
  /-- The commits, oldest first. -/
  history : List (Entry σ Req)
  /-- The keys whose lock some transaction has given up. -/
  dropped : κ → Bool

namespace Shared

variable {σ κ Req : Type} (s : Shared σ κ Req)

/-- Session `i` takes the lock on `key`. -/
def acquire [DecidableEq κ] (i : ℕ) (key : κ) : Shared σ κ Req :=
  { s with holder := fun k ↦ if k = key then some i else s.holder k }

/-- Session `i` draws a sequence number. -/
def mint (i : ℕ) : Shared σ κ Req := { s with minted := s.minted ++ [some i] }

/-- The lock table once session `i` has given up all its locks. -/
def holderWithout (i : ℕ) (k : κ) : Option ℕ :=
  if s.holder k = some i then none else s.holder k

/-- The given-up locks once session `i` has given up all its locks. -/
def droppedWith (i : ℕ) (k : κ) : Bool := s.dropped k || decide (s.holder k = some i)

/-- Session `i` rolls back. -/
def release (i : ℕ) : Shared σ κ Req :=
  { s with
    holder := s.holderWithout i
    dropped := s.droppedWith i }

/-- Session `i` commits the writes `w`. -/
def commit (i : ℕ) (r : Req) (snapshot : σ) (w : σ → σ) : Shared σ κ Req :=
  { s with
    store := w s.store
    holder := s.holderWithout i
    dropped := s.droppedWith i
    history := s.history ++ [⟨i, r, snapshot, s.store, w s.store⟩] }

/-- The clock reads `t`. -/
def tick (t : ℤ) : Shared σ κ Req := { s with clock := t }

def commitsOf (i : ℕ) : List (Entry σ Req) := s.history.filter fun e ↦ e.session = i

/-- Some session has locked the key. -/
def Touched (k : κ) : Prop := s.holder k ≠ none ∨ s.dropped k = true

/-- Session `i` has left no trace yet. -/
structure Fresh (i : ℕ) : Prop where
  /-- It holds no lock. -/
  holder : ∀ k, s.holder k ≠ some i
  /-- It has drawn no number. -/
  minted : some i ∉ s.minted
  /-- It has committed nothing. -/
  history : ∀ e ∈ s.history, e.session ≠ i

end Shared

/-- One client: its request, what is left of its program, and its open transaction. The program
is `none` once the connection is lost. -/
structure Session (σ κ ε ρ Req : Type) where
  /-- What it was asked to do. -/
  request : Req
  /-- The rest of its program. -/
  program : Option (Program σ κ ε ρ)
  /-- The uncommitted writes. -/
  pending : σ → σ
  /-- The snapshot of the last reading statement. -/
  snapshot : σ

/-- A configuration: the shared part and the sessions, numbered by their position. -/
structure Config (σ κ ε ρ Req : Type) where
  /-- The shared part. -/
  shared : Shared σ κ Req
  /-- The sessions. -/
  sessions : List (Session σ κ ε ρ Req)

/-! ## Steps

An action that is not possible has no result: a session that waits for a lock does not run. What
is not possible now may become so later, and nothing says that it will.
-/

/-- What can happen next. -/
inductive Action (Req : Type) where
  /-- A client sends a request. -/
  | start (r : Req)
  /-- Session `i` executes its next statement; `n` answers a choice. -/
  | run (i : ℕ) (n : ℕ)
  /-- Time passes. -/
  | tick (t : ℤ)
  /-- Session `i` loses its connection and the database rolls its transaction back. -/
  | crash (i : ℕ)

section Step

variable {σ κ ε ρ Req : Type} [DecidableEq κ]

/-- Whether session `i` can get the lock on `key` now. -/
def Shared.Available (s : Shared σ κ Req) (i : ℕ) (key : κ) : Prop :=
  s.holder key = none ∨ s.holder key = some i

instance (s : Shared σ κ Req) (i : ℕ) (key : κ) : Decidable (s.Available i key) :=
  inferInstanceAs (Decidable (_ ∨ _))

/-- One statement of session `i`. A lock another session holds blocks; a finished program does
not run. -/
def execute (i n : ℕ) (s : Shared σ κ Req) (u : Session σ κ ε ρ Req) :
    Program σ κ ε ρ → Option (Shared σ κ Req × Session σ κ ε ρ Req)
  | .pure _ => none
  | .throw _ => none
  | .now k => some (s, { u with program := some (k s.clock) })
  | .read k => some (s, { u with program := some (k (u.pending s.store)), snapshot := s.store })
  | .lock key k =>
    if s.Available i key then
      some (s.acquire i key, { u with program := some (k (u.pending s.store)) })
    else none
  | .tryLock key k busy =>
    if s.Available i key then
      some (s.acquire i key, { u with program := some (k (u.pending s.store)) })
    else some (s, { u with program := some busy })
  | .nextval k => some (s.mint i, { u with program := some (k s.minted.length) })
  | .choose k => some (s, { u with program := some (k n) })
  | .write f next => some (s, { u with program := some next, pending := f ∘ u.pending })
  | .commit next =>
    some (s.commit i u.request u.snapshot u.pending,
      { u with program := some next, pending := id })
  | .rollback next => some (s.release i, { u with program := some next, pending := id })

def step (program : Req → Program σ κ ε ρ) (c : Config σ κ ε ρ Req) :
    Action Req → Option (Config σ κ ε ρ Req)
  | .start r =>
    some { c with sessions := c.sessions ++ [⟨r, some (program r), id, c.shared.store⟩] }
  | .run i n => do
    let u ← c.sessions[i]?
    let p ← u.program
    let (s, u') ← execute i n c.shared u p
    return ⟨s, c.sessions.set i u'⟩
  | .tick t => if c.shared.clock ≤ t then some { c with shared := c.shared.tick t } else none
  | .crash i => do
    let u ← c.sessions[i]?
    return ⟨c.shared.release i, c.sessions.set i { u with program := none, pending := id }⟩

/-- A run: the configuration after a list of actions, if all of them are possible. -/
def exec (program : Req → Program σ κ ε ρ) (c : Config σ κ ε ρ Req) :
    List (Action Req) → Option (Config σ κ ε ρ Req)
  | [] => some c
  | a :: as => (step program c a).bind fun c' ↦ exec program c' as

theorem exec_append (program : Req → Program σ κ ε ρ) (c : Config σ κ ε ρ Req)
    (as bs : List (Action Req)) :
    exec program c (as ++ bs) = (exec program c as).bind fun c' ↦ exec program c' bs := by
  induction as generalizing c with
  | nil => rfl
  | cons a as ih =>
    rw [List.cons_append, exec, exec, Option.bind_assoc]
    exact congrArg _ (funext fun c' ↦ ih c')

/-- A run goes on from the configuration its first part leads to. -/
theorem exec_append_of_eq {program : Req → Program σ κ ε ρ} {c c' : Config σ κ ε ρ Req}
    {as bs : List (Action Req)} (h : exec program c as = some c') :
    exec program c (as ++ bs) = exec program c' bs := by
  rw [exec_append, h, Option.bind_some]

/-- The start of a run: no sessions, no locks; `n` numbers are already drawn. -/
def Config.initial (store : σ) (clock : ℤ) (n : ℕ) : Config σ κ ε ρ Req where
  shared :=
    { store := store
      clock := clock
      minted := List.replicate n none
      holder := fun _ ↦ none
      history := []
      dropped := fun _ ↦ false }
  sessions := []

/-- The configurations that some interleaving reaches from `c₀`. -/
inductive Reaches (program : Req → Program σ κ ε ρ) (c₀ : Config σ κ ε ρ Req) :
    Config σ κ ε ρ Req → Prop where
  | refl : Reaches program c₀ c₀
  | step {c c' : Config σ κ ε ρ Req} (a : Action Req) :
      Reaches program c₀ c → step program c a = some c' → Reaches program c₀ c'

theorem Reaches.of_exec {program : Req → Program σ κ ε ρ} {c₀ : Config σ κ ε ρ Req}
    {as : List (Action Req)} : ∀ {c c' : Config σ κ ε ρ Req},
    Reaches program c₀ c → exec program c as = some c' → Reaches program c₀ c' := by
  induction as with
  | nil =>
    intro c c' hc h
    rw [exec, Option.some.injEq] at h
    exact h ▸ hc
  | cons a as ih =>
    intro c c' hc h
    rw [exec, Option.bind_eq_some_iff] at h
    obtain ⟨c₁, h₁, h₂⟩ := h
    exact ih (hc.step a h₁) h₂

/-- The end of a possible run is reachable. -/
theorem Reaches.get {program : Req → Program σ κ ε ρ} {c : Config σ κ ε ρ Req}
    {as : List (Action Req)} (h : (exec program c as).isSome) :
    Reaches program c ((exec program c as).get h) := .of_exec .refl (Option.some_get h).symm

theorem step_store {program : Req → Program σ κ ε ρ} {c c' : Config σ κ ε ρ Req} {a : Action Req}
    (h : step program c a = some c') :
    (c'.shared.store = c.shared.store ∧ c'.shared.history = c.shared.history) ∨
      ∃ e, c'.shared.history = c.shared.history ++ [e] ∧ e.before = c.shared.store ∧
        e.after = c'.shared.store := by
  cases a with
  | start r =>
    obtain rfl := Option.some.inj h
    exact .inl ⟨rfl, rfl⟩
  | run i n =>
    simp only [step, Option.bind_eq_bind, Option.bind_eq_some_iff] at h
    obtain ⟨u, -, p, -, ⟨s, u'⟩, he, hc'⟩ := h
    obtain rfl := Option.some.inj hc'
    cases p with
    | pure a => exact nomatch he
    | throw e => exact nomatch he
    | lock key k =>
      simp only [execute] at he
      split at he
      · obtain ⟨rfl, -⟩ := Prod.mk.inj (Option.some.inj he)
        exact .inl ⟨rfl, rfl⟩
      · exact nomatch he
    | tryLock key k busy =>
      simp only [execute] at he
      split at he
      all_goals
        obtain ⟨rfl, -⟩ := Prod.mk.inj (Option.some.inj he)
        exact .inl ⟨rfl, rfl⟩
    | commit next =>
      obtain ⟨rfl, -⟩ := Prod.mk.inj (Option.some.inj he)
      exact .inr ⟨_, rfl, rfl, rfl⟩
    | now k | read k | nextval k | choose k | write f next | rollback next =>
      obtain ⟨rfl, -⟩ := Prod.mk.inj (Option.some.inj he)
      exact .inl ⟨rfl, rfl⟩
  | tick t =>
    simp only [step] at h
    split at h
    · obtain rfl := Option.some.inj h
      exact .inl ⟨rfl, rfl⟩
    · exact nomatch h
  | crash i =>
    simp only [step, Option.bind_eq_bind, Option.bind_eq_some_iff] at h
    obtain ⟨u, -, hc'⟩ := h
    obtain rfl := Option.some.inj hc'
    exact .inl ⟨rfl, rfl⟩

/-- Time does not go back. -/
theorem step_clock {program : Req → Program σ κ ε ρ} {c c' : Config σ κ ε ρ Req} {a : Action Req}
    (h : step program c a = some c') : c.shared.clock ≤ c'.shared.clock := by
  cases a with
  | start r =>
    obtain rfl := Option.some.inj h
    exact Int.le_refl _
  | run i n =>
    simp only [step, Option.bind_eq_bind, Option.bind_eq_some_iff] at h
    obtain ⟨u, -, p, -, ⟨s, u'⟩, he, hc'⟩ := h
    obtain rfl := Option.some.inj hc'
    cases p with
    | pure a => exact nomatch he
    | throw e => exact nomatch he
    | lock key k =>
      simp only [execute] at he
      split at he
      · obtain ⟨rfl, -⟩ := Prod.mk.inj (Option.some.inj he)
        exact Int.le_refl _
      · exact nomatch he
    | tryLock key k busy =>
      simp only [execute] at he
      split at he
      all_goals
        obtain ⟨rfl, -⟩ := Prod.mk.inj (Option.some.inj he)
        exact Int.le_refl _
    | now k | read k | nextval k | choose k | write f next | commit next | rollback next =>
      obtain ⟨rfl, -⟩ := Prod.mk.inj (Option.some.inj he)
      exact Int.le_refl _
  | tick t =>
    simp only [step] at h
    split at h
    next ht =>
      obtain rfl := Option.some.inj h
      exact ht
    next => exact nomatch h
  | crash i =>
    simp only [step, Option.bind_eq_bind, Option.bind_eq_some_iff] at h
    obtain ⟨u, -, hc'⟩ := h
    obtain rfl := Option.some.inj hc'
    exact Int.le_refl _

theorem execute_history {i n : ℕ} {s s' : Shared σ κ Req} {u u' : Session σ κ ε ρ Req}
    {p : Program σ κ ε ρ} (h : execute i n s u p = some (s', u')) : u'.request = u.request ∧
      (s'.history = s.history ∨ ∃ e, s'.history = s.history ++ [e] ∧ e.session = i ∧
        e.request = u.request) := by
  cases p with
  | pure a => exact nomatch h
  | throw e => exact nomatch h
  | lock key k =>
    simp only [execute] at h
    split at h
    · obtain ⟨rfl, rfl⟩ := Prod.mk.inj (Option.some.inj h)
      exact ⟨rfl, .inl rfl⟩
    · exact nomatch h
  | tryLock key k busy =>
    simp only [execute] at h
    split at h
    all_goals
      obtain ⟨rfl, rfl⟩ := Prod.mk.inj (Option.some.inj h)
      exact ⟨rfl, .inl rfl⟩
  | commit next =>
    obtain ⟨rfl, rfl⟩ := Prod.mk.inj (Option.some.inj h)
    exact ⟨rfl, .inr ⟨_, rfl, rfl, rfl⟩⟩
  | now k | read k | nextval k | choose k | write f next | rollback next =>
    obtain ⟨rfl, rfl⟩ := Prod.mk.inj (Option.some.inj h)
    exact ⟨rfl, .inl rfl⟩

/-- What the sessions of a run are asked for, in the order in which they start. -/
def requested : List (Action Req) → List Req
  | [] => []
  | .start r :: as => r :: requested as
  | .run _ _ :: as | .tick _ :: as | .crash _ :: as => requested as

omit [DecidableEq κ] in
theorem map_request_set {us : List (Session σ κ ε ρ Req)} {i : ℕ} {u u' : Session σ κ ε ρ Req}
    (hu : us[i]? = some u) (hrequest : u'.request = u.request) :
    (us.set i u').map (·.request) = us.map (·.request) := by
  obtain ⟨hi, rfl⟩ := List.getElem?_eq_some_iff.mp hu
  refine List.ext_getElem? fun k ↦ ?_
  rw [List.getElem?_map, List.getElem?_map]
  by_cases hk : i = k
  · subst hk
    rw [List.getElem?_set_self hi, List.getElem?_eq_getElem hi, Option.map_some, Option.map_some,
      hrequest]
  · rw [List.getElem?_set_ne hk]

theorem step_requests {program : Req → Program σ κ ε ρ} {c c' : Config σ κ ε ρ Req} {a : Action Req}
    (h : step program c a = some c') :
    c'.sessions.map (·.request) = c.sessions.map (·.request) ++ requested [a] := by
  cases a with
  | start r =>
    obtain rfl := Option.some.inj h
    exact List.map_append
  | run i n =>
    simp only [step, Option.bind_eq_bind, Option.bind_eq_some_iff] at h
    obtain ⟨u, hu, p, -, ⟨s, u'⟩, he, hc'⟩ := h
    obtain rfl := Option.some.inj hc'
    rw [requested, requested, List.append_nil]
    exact map_request_set hu (execute_history he).1
  | tick t =>
    simp only [step] at h
    split at h
    next =>
      obtain rfl := Option.some.inj h
      exact (List.append_nil _).symm
    next => exact nomatch h
  | crash i =>
    simp only [step, Option.bind_eq_bind, Option.bind_eq_some_iff] at h
    obtain ⟨u, hu, hc'⟩ := h
    obtain rfl := Option.some.inj hc'
    rw [requested, requested, List.append_nil]
    exact map_request_set hu rfl

theorem requested_cons_append {a : Action Req} {as : List (Action Req)} :
    requested [a] ++ requested as = requested (a :: as) := by
  cases a <;> rfl

/-- A run has the sessions it has started, each with its request. -/
theorem exec_requests {program : Req → Program σ κ ε ρ} {as : List (Action Req)} :
    ∀ {c c' : Config σ κ ε ρ Req}, exec program c as = some c' →
      c'.sessions.map (·.request) = c.sessions.map (·.request) ++ requested as := by
  induction as with
  | nil =>
    intro c c' h
    obtain rfl := Option.some.inj h
    exact (List.append_nil _).symm
  | cons a as ih =>
    intro c c' h
    obtain ⟨c₁, h₁, h₂⟩ := Option.bind_eq_some_iff.mp h
    rw [ih h₂, step_requests h₁, List.append_assoc, requested_cons_append]

/-- The request of session `i` is the one that was started as number `i`. -/
theorem exec_request {program : Req → Program σ κ ε ρ} {store : σ} {clock : ℤ} {n : ℕ}
    {as : List (Action Req)} {c : Config σ κ ε ρ Req}
    (h : exec program (Config.initial store clock n) as = some c) {i : ℕ} {r : Req}
    (hr : (requested as)[i]? = some r) : ∃ u, c.sessions[i]? = some u ∧ u.request = r := by
  have hrequests : c.sessions.map (·.request) = requested as := exec_requests h
  rw [← hrequests, List.getElem?_map] at hr
  exact Option.map_eq_some_iff.mp hr
/-- Every commit on the record is that of a session, for its request. -/
theorem Reaches.session_of_mem {program : Req → Program σ κ ε ρ} {store : σ} {clock : ℤ} {n : ℕ}
    {c : Config σ κ ε ρ Req} (h : Reaches program (Config.initial store clock n) c) :
    ∀ e ∈ c.shared.history, ∃ u, c.sessions[e.session]? = some u ∧ u.request = e.request := by
  suffices hrequests : ∀ e ∈ c.shared.history,
      (c.sessions.map (·.request))[e.session]? = some e.request by
    intro e he
    have hrequest := hrequests e he
    rw [List.getElem?_map] at hrequest
    exact Option.map_eq_some_iff.mp hrequest
  induction h with
  | refl => exact List.forall_mem_nil _
  | @step c c' a hc hstep ih =>
    -- a session keeps its place and its request
    have hkept : ∀ e ∈ c.shared.history,
        (c'.sessions.map (·.request))[e.session]? = some e.request := by
      intro e he
      rw [step_requests hstep, List.getElem?_append_left]
      · exact ih e he
      · exact (List.getElem?_eq_some_iff.mp (ih e he)).1
    cases a with
    | start r =>
      obtain rfl := Option.some.inj hstep
      exact hkept
    | run i m =>
      simp only [RowLock.step, Option.bind_eq_bind, Option.bind_eq_some_iff] at hstep
      obtain ⟨u, hu, p, -, ⟨s, u'⟩, he, hc'⟩ := hstep
      obtain rfl := Option.some.inj hc'
      obtain ⟨hrequest, hhistory | ⟨e, hhistory, hsession, hr⟩⟩ := execute_history he
      · intro e he'
        exact hkept e (hhistory ▸ he')
      · intro e' he'
        rw [hhistory] at he'
        rcases List.mem_append.mp he' with he' | he'
        · exact hkept e' he'
        · obtain rfl := List.mem_singleton.mp he'
          rw [map_request_set hu hrequest, List.getElem?_map, hsession, hu, hr, Option.map_some]
    | tick t =>
      simp only [RowLock.step] at hstep
      split at hstep
      · obtain rfl := Option.some.inj hstep
        exact ih
      · exact nomatch hstep
    | crash i =>
      simp only [RowLock.step, Option.bind_eq_bind, Option.bind_eq_some_iff] at hstep
      obtain ⟨u, hu, hc'⟩ := hstep
      obtain rfl := Option.some.inj hc'
      exact hkept

theorem Reaches.trans {program : Req → Program σ κ ε ρ} {c₀ c c' : Config σ κ ε ρ Req}
    (h : Reaches program c₀ c) (h' : Reaches program c c') : Reaches program c₀ c' := by
  induction h' with
  | refl => exact h
  | step a _ hstep ih => exact ih.step a hstep

/-- A preorder that every commit of a run keeps relates the stores of the run. -/
theorem Reaches.store_rel {program : Req → Program σ κ ε ρ} {R : σ → σ → Prop} (hrefl : ∀ s, R s s)
    (htrans : ∀ s₁ s₂ s₃, R s₁ s₂ → R s₂ s₃ → R s₁ s₃) {c c' : Config σ κ ε ρ Req}
    (h : Reaches program c c') : (∀ e ∈ c'.shared.history, R e.before e.after) →
      R c.shared.store c'.shared.store := by
  induction h with
  | refl => exact fun _ ↦ hrefl _
  | step a _ hstep ih =>
    intro hall
    rcases step_store hstep with ⟨hstore, hhistory⟩ | ⟨e, hhistory, hbefore, hafter⟩
    · rw [hstore]
      exact ih (hhistory ▸ hall)
    · rw [hhistory] at hall
      refine htrans _ _ _ (ih fun e' he' ↦ hall e' (List.mem_append_left _ he')) ?_
      rw [← hbefore, ← hafter]
      exact hall e (by simp)

/-- The commits lead from one store to another, each from where the one before left off. -/
def Replays : σ → List (Entry σ Req) → σ → Prop
  | s, [], s' => s = s'
  | s, e :: es, s' => e.before = s ∧ Replays e.after es s'

omit [DecidableEq κ] in
theorem Replays.concat {s s' : σ} {es : List (Entry σ Req)} {e : Entry σ Req}
    (h : Replays s es s') (he : e.before = s') : Replays s (es ++ [e]) e.after := by
  induction es generalizing s with
  | nil => exact ⟨he.trans h.symm, rfl⟩
  | cons e' es ih => exact ⟨h.1, ih h.2⟩

/-- The committed store is what the commits have made of the first one. -/
theorem Reaches.replays {program : Req → Program σ κ ε ρ} {store : σ} {clock : ℤ} {n : ℕ}
    {c : Config σ κ ε ρ Req} (h : Reaches program (Config.initial store clock n) c) :
    Replays store c.shared.history c.shared.store := by
  induction h with
  | refl => exact rfl
  | step a _ hstep ih =>
    rcases step_store hstep with ⟨hstore, hhistory⟩ | ⟨e, hhistory, hbefore, hafter⟩
    · rw [hstore, hhistory]
      exact ih
    · rw [hhistory, ← hafter]
      exact ih.concat hbefore

end Step

end RowLock
