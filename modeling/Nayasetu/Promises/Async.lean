import Mathlib.Tactic.Common

/-!
# Code that awaits calls

An asynchronous function, as what it does to the world outside it: the calls it makes one after
another, and how it settles. What a call is answered may depend on everything called before it, so
such a function runs from a history and adds events to it.

Nothing is lost when code throws: the events of a rejected function stay in the history, and the
cleanup of a `finally` runs behind them.

Such a function is not run by a scheduler: what else happens while it waits is in the answers it
gets, and these are arbitrary. That suffices for what is said about one function and the calls it
makes itself, such as that whatever it has obtained is released once.
-/

namespace Promises

/-- How an asynchronous function settles and what it calls until then, from what has been
called. -/
def Async (κ ε α : Type) : Type := List κ → Except ε α × List κ

namespace Async

variable {κ ε α β : Type} {history t u : List κ} {e e' : ε} {a : α} {b : β}

/-- `throw error`. -/
def reject (error : ε) : Async κ ε α := fun _ ↦ (.error error, [])

/-- Await `p`, then go on with its value. -/
def andThen (p : Async κ ε α) (f : α → Async κ ε β) : Async κ ε β := fun history ↦
  match p history with
  | (.ok a, t) => ((f a (history ++ t)).1, t ++ (f a (history ++ t)).2)
  | (.error e, t) => (.error e, t)

/-- `try { body } catch (error) { handler }`. -/
def catchError (body : Async κ ε α) (handler : ε → Async κ ε α) : Async κ ε α := fun history ↦
  match body history with
  | (.ok a, t) => (.ok a, t)
  | (.error e, t) => ((handler e (history ++ t)).1, t ++ (handler e (history ++ t)).2)

/-- `try { body } finally { cleanup }`: an error of the cleanup replaces how the body settled. -/
def finallyDo (body : Async κ ε α) (cleanup : Async κ ε Unit) : Async κ ε α := fun history ↦
  match cleanup (history ++ (body history).2) with
  | (.ok _, t) => ((body history).1, (body history).2 ++ t)
  | (.error e, t) => (.error e, (body history).2 ++ t)

/-- Await one call. -/
def call (answer : List κ → Except ε α) (event : Except ε α → κ) : Async κ ε α :=
  fun history ↦ (answer history, [event (answer history)])

instance : Monad (Async κ ε) where
  pure a := fun _ ↦ (.ok a, [])
  bind := andThen

/-! ## Rules

One equation for each way of putting functions together, by how the first of them settles.
-/

section Rules

variable {p body : Async κ ε α} {f : α → Async κ ε β} {handler : ε → Async κ ε α}
  {cleanup : Async κ ε Unit} {answer : List κ → Except ε α} {event : Except ε α → κ}

theorem pure_eq : (pure a : Async κ ε α) history = (.ok a, []) := rfl

theorem reject_eq : (reject e : Async κ ε α) history = (.error e, []) := rfl

theorem call_eq {r : Except ε α} (h : answer history = r) :
    call answer event history = (r, [event r]) := by
  rw [call, h]

theorem bind_ok {r : Except ε β} (h : p history = (.ok a, t))
    (hf : f a (history ++ t) = (r, u)) : (p >>= f) history = (r, t ++ u) := by
  change andThen p f history = _
  rw [andThen, h]
  simp only [hf]

theorem bind_error (h : p history = (.error e, t)) : (p >>= f) history = (.error e, t) := by
  change andThen p f history = _
  rw [andThen, h]

theorem catchError_ok (h : body history = (.ok a, t)) :
    catchError body handler history = (.ok a, t) := by
  rw [catchError, h]

theorem catchError_error {r : Except ε α} (h : body history = (.error e, t))
    (hhandler : handler e (history ++ t) = (r, u)) :
    catchError body handler history = (r, t ++ u) := by
  rw [catchError, h]
  simp only [hhandler]

theorem finallyDo_ok {r : Except ε α} (h : body history = (r, t))
    (hcleanup : cleanup (history ++ t) = (.ok (), u)) :
    finallyDo body cleanup history = (r, t ++ u) := by
  rw [finallyDo, h]
  simp only [hcleanup]

end Rules

end Async

end Promises
