import Mathlib.Tactic.Common

/-!
# Failures

What a request ends with when it does not succeed, and the loops that stop at the first failure.

Code that may throw is an `Except Failure`, with one constructor for each class of error that some
handler tells apart. Codes and messages are kept as the source has them, since a client is
answered with them; the details that accompany an `AppError` in the log are left out.

Proofs go through such code from its result. `bind_eq_ok_iff` and `bind_eq_error_iff` say which of
the two parts of a sequence a result or an error comes from, and a loop over a list succeeds just
when its body does on every element (`forEach_eq_ok_iff`).
-/

namespace Nayasetu

/-- The errors the application and the database raise. -/
inductive Failure where
  /-- `AppError`: an HTTP status, a code and a message. -/
  | app (status : ℕ) (code message : String)
  /-- `Error`. -/
  | error (message : String)
  /-- `ZodError`, with the path of its first issue. -/
  | zod (path : List String)
  /-- An error of the database, with its `SQLSTATE`. -/
  | database (sqlstate message : String)
  deriving DecidableEq, Repr

/-- `if (!condition) throw failure`. -/
def require (condition : Prop) [Decidable condition] (failure : Failure) : Except Failure Unit :=
  if condition then .ok () else .error failure

/-- A loop whose body may throw. -/
def forEach {α : Type} (l : List α) (body : α → Except Failure Unit) : Except Failure Unit :=
  match l with
  | [] => .ok ()
  | a :: l => body a >>= fun _ ↦ forEach l body

@[simp] theorem require_eq_ok_iff {p : Prop} [Decidable p] {e : Failure} :
    require p e = .ok () ↔ p := by
  rw [require]
  split <;> simp_all

theorem eq_of_require_eq_error {p : Prop} [Decidable p] {e e' : Failure}
    (h : require p e = .error e') : e' = e := by
  rw [require] at h
  split at h
  · cases h
  · exact (Except.error.inj h).symm

theorem bind_eq_ok_iff {α β : Type} {x : Except Failure α} {f : α → Except Failure β} {b : β} :
    (x >>= f) = .ok b ↔ ∃ a, x = .ok a ∧ f a = .ok b := by
  cases x with
  | error e => exact ⟨fun h ↦ absurd h (by simp [bind, Except.bind]), fun ⟨a, h, _⟩ ↦ nomatch h⟩
  | ok a => exact ⟨fun h ↦ ⟨a, rfl, h⟩, fun ⟨a', h, h'⟩ ↦ by cases h; exact h'⟩

theorem bind_eq_error_iff {α β : Type} {x : Except Failure α} {f : α → Except Failure β}
    {e : Failure} : (x >>= f) = .error e ↔ x = .error e ∨ ∃ a, x = .ok a ∧ f a = .error e := by
  cases x with
  | error e' => simp [bind, Except.bind]
  | ok a => simp [bind, Except.bind]

theorem unit_bind_eq_ok_iff {β : Type} {x : Except Failure Unit} {f : Unit → Except Failure β}
    {b : β} : (x >>= f) = .ok b ↔ x = .ok () ∧ f () = .ok b := by
  rw [bind_eq_ok_iff]
  exact ⟨fun ⟨_, h⟩ ↦ h, fun h ↦ ⟨(), h⟩⟩

@[simp] theorem forEach_eq_ok_iff {α : Type} {l : List α} {body : α → Except Failure Unit} :
    forEach l body = .ok () ↔ ∀ a ∈ l, body a = .ok () := by
  induction l with
  | nil => simp [forEach]
  | cons a l ih =>
    rw [forEach, unit_bind_eq_ok_iff, List.forall_mem_cons, ← ih]

theorem exists_of_forEach_eq_error {α : Type} {l : List α} {body : α → Except Failure Unit}
    {e : Failure} (h : forEach l body = .error e) : ∃ a, body a = .error e := by
  induction l with
  | nil => cases h
  | cons a l ih =>
    rw [forEach, bind_eq_error_iff] at h
    rcases h with h | ⟨_, -, h⟩
    · exact ⟨a, h⟩
    · exact ih h

end Nayasetu
