import Nayasetu.RowLock.Discipline

/-!
# The opening of a run

Until the first commit every session sees the store the run began with, so what a session has
locked follows from its own program. `opening` goes through a program in this time and says what
it may wait for, given the locks it has taken; after a first commit of its own the session may not
wait any more. `opening_sound` carries this to the runs.

It is what arguments about deadlocks need: two sessions that wait for each other have not committed,
so neither has anybody else when there are only the two.

The state of the opening is the writes and the locks a session has gathered so far, or nothing, if
it has committed. A session that has not committed reads the store the run began with, under its
own writes; one that has may read anything. So the conditions under which a session waits can be
computed from the first store and the clock, whichever way the sessions take turns.
-/

namespace RowLock

variable {σ κ ε α β ρ Req : Type} [DecidableEq κ]

/-- What the opening knows of a session: its writes and the locks it has taken, or that it was the
first to commit. -/
abbrev Opened (σ κ : Type) : Type := Option ((σ → σ) × List κ)

/-- From a state of the opening a program waits only where `W` allows, and ends as `Q` or `E` say.
The run began with the store `s` at `t`. -/
def opening (W : κ → List κ → Prop) (s : σ) (t : ℤ) (Q : α → Opened σ κ → Prop)
    (E : ε → Opened σ κ → Prop) : Program σ κ ε α → Opened σ κ → Prop
  | .pure a, o => Q a o
  | .throw e, o => E e o
  | .now k, o => ∀ t', t ≤ t' → opening W s t Q E (k t') o
  | .read k, some (w, held) => opening W s t Q E (k (w s)) (some (w, held))
  | .read k, none => ∀ s', opening W s t Q E (k s') none
  | .lock key k, some (w, held) =>
    W key held ∧ opening W s t Q E (k (w s)) (some (w, key :: held))
  | .lock _ _, none => False
  | .tryLock key k busy, some (w, held) =>
    opening W s t Q E (k (w s)) (some (w, key :: held)) ∧ opening W s t Q E busy (some (w, held))
  | .tryLock _ k busy, none => (∀ s', opening W s t Q E (k s') none) ∧ opening W s t Q E busy none
  | .nextval k, o => ∀ n, opening W s t Q E (k n) o
  | .choose k, o => ∀ n, opening W s t Q E (k n) o
  | .write f next, some (w, held) => opening W s t Q E next (some (f ∘ w, held))
  | .write _ next, none => opening W s t Q E next none
  | .commit next, _ => opening W s t Q E next none
  | .rollback next, some _ => opening W s t Q E next (some (id, []))
  | .rollback next, none => opening W s t Q E next none

section Rules

variable {W : κ → List κ → Prop} {s : σ} {t : ℤ} {o : Opened σ κ} {w : σ → σ} {held : List κ}

omit [DecidableEq κ] in
theorem opening_mono {Q Q' : α → Opened σ κ → Prop} {E E' : ε → Opened σ κ → Prop}
    (hQ : ∀ a o, Q a o → Q' a o) (hE : ∀ e o, E e o → E' e o) {p : Program σ κ ε α}
    (h : opening W s t Q E p o) : opening W s t Q' E' p o := by
  induction p generalizing o with
  | pure a => exact hQ a o h
  | throw e => exact hE e o h
  | now k ih => exact fun t' ht' ↦ ih t' (h t' ht')
  | read k ih =>
    cases o with
    | none => exact fun s' ↦ ih s' (h s')
    | some x => exact ih _ h
  | lock key k ih =>
    cases o with
    | none => exact h
    | some x => exact ⟨h.1, ih _ h.2⟩
  | tryLock key k busy ih ihb =>
    cases o with
    | none => exact ⟨fun s' ↦ ih s' (h.1 s'), ihb h.2⟩
    | some x => exact ⟨ih _ h.1, ihb h.2⟩
  | nextval k ih | choose k ih => exact fun n ↦ ih n (h n)
  | write f next ih =>
    cases o with
    | none => exact ih (o := none) h
    | some x => exact ih (o := some (f ∘ x.1, x.2)) h
  | commit next ih => exact ih (o := none) h
  | rollback next ih =>
    cases o with
    | none => exact ih (o := none) h
    | some x => exact ih (o := some (id, [])) h

omit [DecidableEq κ] in
theorem opening_bind {Q : β → Opened σ κ → Prop} {E : ε → Opened σ κ → Prop} {p : Program σ κ ε α}
    {f : α → Program σ κ ε β} (h : opening W s t (fun a o ↦ opening W s t Q E (f a) o) E p o) :
    opening W s t Q E (p >>= f) o := by
  change opening W s t Q E (p.bind f) o
  induction p generalizing o with
  | pure a => exact h
  | throw e => exact h
  | now k ih => exact fun t' ht' ↦ ih t' (h t' ht')
  | read k ih =>
    cases o with
    | none => exact fun s' ↦ ih s' (h s')
    | some x => exact ih _ h
  | lock key k ih =>
    cases o with
    | none => exact h
    | some x => exact ⟨h.1, ih _ h.2⟩
  | tryLock key k busy ih ihb =>
    cases o with
    | none => exact ⟨fun s' ↦ ih s' (h.1 s'), ihb h.2⟩
    | some x => exact ⟨ih _ h.1, ihb h.2⟩
  | nextval k ih | choose k ih => exact fun n ↦ ih n (h n)
  | write f next ih =>
    cases o with
    | none => exact ih (o := none) h
    | some x => exact ih (o := some (f ∘ x.1, x.2)) h
  | commit next ih => exact ih (o := none) h
  | rollback next ih =>
    cases o with
    | none => exact ih (o := none) h
    | some x => exact ih (o := some (id, [])) h

omit [DecidableEq κ] in
/-- The handler goes on from where the error was thrown. -/
theorem opening_tryCatch {Q : α → Opened σ κ → Prop} {E : ε → Opened σ κ → Prop}
    {p : Program σ κ ε α} {handler : ε → Program σ κ ε α}
    (h : opening W s t Q (fun e o ↦ opening W s t Q E (handler e) o) p o) :
    opening W s t Q E (tryCatch p handler) o := by
  refine opening_bind (p := p.attempt) ?_
  induction p generalizing o with
  | pure a => exact h
  | throw e => exact h
  | now k ih => exact fun t' ht' ↦ ih t' (h t' ht')
  | read k ih =>
    cases o with
    | none => exact fun s' ↦ ih s' (h s')
    | some x => exact ih _ h
  | lock key k ih =>
    cases o with
    | none => exact h
    | some x => exact ⟨h.1, ih _ h.2⟩
  | tryLock key k busy ih ihb =>
    cases o with
    | none => exact ⟨fun s' ↦ ih s' (h.1 s'), ihb h.2⟩
    | some x => exact ⟨ih _ h.1, ihb h.2⟩
  | nextval k ih | choose k ih => exact fun n ↦ ih n (h n)
  | write f next ih =>
    cases o with
    | none => exact ih (o := none) h
    | some x => exact ih (o := some (f ∘ x.1, x.2)) h
  | commit next ih => exact ih (o := none) h
  | rollback next ih =>
    cases o with
    | none => exact ih (o := none) h
    | some x => exact ih (o := some (id, [])) h

variable {Q : α → Opened σ κ → Prop} {E : ε → Opened σ κ → Prop}

omit [DecidableEq κ] in
theorem opening_fromExcept {x : Except ε α} (hok : ∀ a, x = .ok a → Q a o)
    (herror : ∀ e, x = .error e → E e o) : opening W s t Q E (fromExcept x) o := by
  cases x with
  | ok a => exact hok a rfl
  | error e => exact herror e rfl

omit [DecidableEq κ] in
theorem opening_snapshot {Q : σ → Opened σ κ → Prop} (h : Q (w s) (some (w, held))) :
    opening W s t Q E snapshot (some (w, held)) := h

omit [DecidableEq κ] in
theorem opening_choose {Q : ℕ → Opened σ κ → Prop} (h : ∀ n, Q n o) :
    opening W s t Q E choose o := h

omit [DecidableEq κ] in
theorem opening_now {Q : ℤ → Opened σ κ → Prop} (h : ∀ t', t ≤ t' → Q t' o) :
    opening W s t Q E now o := h

omit [DecidableEq κ] in
theorem opening_write {f : σ → σ} {Q : Unit → Opened σ κ → Prop} (h : Q () (some (f ∘ w, held))) :
    opening W s t Q E (write f) (some (w, held)) := h

omit [DecidableEq κ] in
theorem opening_commit {Q : Unit → Opened σ κ → Prop} (h : Q () none) :
    opening W s t Q E commit o := by
  cases o <;> exact h

omit [DecidableEq κ] in
theorem opening_rollback {Q : Unit → Opened σ κ → Prop} (h : ∀ o', Q () o') :
    opening W s t Q E rollback o := by
  cases o <;> exact h _

omit [DecidableEq κ] in
theorem opening_selectForUpdate {key : κ} {row : σ → Option β} {Q : Option β → Opened σ κ → Prop}
    (hW : W key held) (hnone : row (w s) = none → Q none (some (w, held)))
    (hsome : ∀ b, row (w s) = some b → Q (some b) (some (w, key :: held))) :
    opening W s t Q E (selectForUpdate key row) (some (w, held)) := by
  refine opening_bind (opening_snapshot ?_)
  cases hrow : row (w s) with
  | none => exact hnone hrow
  | some b =>
    refine opening_bind ⟨hW, ?_⟩
    change Q (row (w s)) _
    rw [hrow]
    exact hsome b hrow

omit [DecidableEq κ] in
theorem opening_updateRow {key : κ} {matches? : σ → Bool} {f : σ → σ} {Q : ℕ → Opened σ κ → Prop}
    (hW : matches? (w s) = true → W key held)
    (hzero : matches? (w s) = false → Q 0 (some (w, held)))
    (hone : matches? (w s) = true → Q 1 (some (f ∘ w, key :: held))) :
    opening W s t Q E (updateRow key matches? f) (some (w, held)) := by
  refine opening_bind (opening_snapshot ?_)
  cases h : matches? (w s) with
  | false => exact hzero h
  | true =>
    refine opening_bind ⟨hW h, ?_⟩
    change opening W s t Q E (if !matches? (w s) then _ else _) _
    rw [h]
    exact hone h

end Rules

/-! ## Soundness -/

/-- The session has not committed, and neither has anybody else. -/
structure Unopened (W : Req → κ → List κ → Prop) (s : σ) (t : ℤ)
    (c : Config σ κ ε ρ Req) : Prop where
  store : c.shared.store = s
  history : c.shared.history = []
  fresh : ∀ i, c.sessions.length ≤ i → ∀ k, c.shared.holder k ≠ some i
  waits : ∀ i u p, c.sessions[i]? = some u → u.program = some p →
    ∃ held, (∀ k, k ∈ held ↔ c.shared.holder k = some i) ∧
      opening (W u.request) s t (fun _ _ ↦ True) (fun _ _ ↦ True) p (some (u.pending, held))

/-- A session was the first to commit, and does not wait any more. -/
def FirstCommit (W : Req → κ → List κ → Prop) (s : σ) (t : ℤ) (c : Config σ κ ε ρ Req) : Prop :=
  ∃ e, c.shared.history.head? = some e ∧ e.session < c.sessions.length ∧
    ∀ u p, c.sessions[e.session]? = some u → u.program = some p →
      opening (W u.request) s t (fun _ _ ↦ True) (fun _ _ ↦ True) p none

section Soundness

variable {W : Req → κ → List κ → Prop} {s : σ} {t : ℤ}

omit [DecidableEq κ] in
private theorem holder_release_ne (s₁ : Shared σ κ Req) (i : ℕ) (k : κ) :
    (s₁.release i).holder k ≠ some i := by
  change s₁.holderWithout i k ≠ some i
  rw [Shared.holderWithout]
  split
  · exact (Option.some_ne_none i).symm
  next h => exact h

/-- A statement before the first commit. -/
private theorem execute_unopened {W : κ → List κ → Prop} {i n : ℕ} {s₁ s₂ : Shared σ κ Req}
    {u u' : Session σ κ ε ρ Req} {p : Program σ κ ε ρ} {held : List κ} (hstore : s₁.store = s)
    (hclock : t ≤ s₁.clock)
    (hheld : ∀ k, k ∈ held ↔ s₁.holder k = some i)
    (hp : opening W s t (fun _ _ ↦ True) (fun _ _ ↦ True) p (some (u.pending, held)))
    (he : execute i n s₁ u p = some (s₂, u')) :
    u'.request = u.request ∧ ∃ p', u'.program = some p' ∧
      ((s₂.store = s ∧ s₂.history = s₁.history ∧
          (∀ j, j ≠ i → ∀ k, s₂.holder k = some j ↔ s₁.holder k = some j) ∧
          ∃ held', (∀ k, k ∈ held' ↔ s₂.holder k = some i) ∧
            opening W s t (fun _ _ ↦ True) (fun _ _ ↦ True) p' (some (u'.pending, held'))) ∨
        ∃ e, s₂.history = s₁.history ++ [e] ∧ e.session = i ∧
          opening W s t (fun _ _ ↦ True) (fun _ _ ↦ True) p' none) := by
  -- a lock that is free goes to session `i`, and nobody loses one
  have hacquire {key : κ} (ha : s₁.Available i key) :
      (∀ j, j ≠ i → ∀ k, (s₁.acquire i key).holder k = some j ↔ s₁.holder k = some j) ∧
        ∀ k, k ∈ key :: held ↔ (s₁.acquire i key).holder k = some i := by
    refine ⟨fun j hj k ↦ ?_, fun k ↦ ?_⟩
    · rw [Discipline.acquire_holder]
      split
      next hk =>
        subst hk
        refine ⟨fun h ↦ absurd (Option.some.inj h).symm hj, fun h ↦ ?_⟩
        rcases ha with ha | ha
        · exact absurd (ha.symm.trans h) (by simp)
        · exact absurd (Option.some.inj (ha.symm.trans h)).symm hj
      next => exact Iff.rfl
    · rw [Discipline.acquire_holder, List.mem_cons, hheld k]
      split
      next hk => exact iff_of_true (.inl hk) rfl
      next hk => exact ⟨fun h ↦ h.resolve_left hk, .inr⟩
  cases p with
  | pure a => exact absurd he (by simp [execute])
  | throw e => exact absurd he (by simp [execute])
  | now k =>
    obtain ⟨rfl, rfl⟩ := Prod.mk.inj (Option.some.inj he)
    exact ⟨rfl, _, rfl, .inl ⟨hstore, rfl, fun _ _ _ ↦ Iff.rfl, held, hheld, hp _ hclock⟩⟩
  | read k =>
    obtain ⟨rfl, rfl⟩ := Prod.mk.inj (Option.some.inj he)
    exact ⟨rfl, _, rfl, .inl ⟨hstore, rfl, fun _ _ _ ↦ Iff.rfl, held, hheld, hstore ▸ hp⟩⟩
  | lock key k =>
    simp only [execute] at he
    split at he
    next ha =>
      obtain ⟨rfl, rfl⟩ := Prod.mk.inj (Option.some.inj he)
      exact ⟨rfl, _, rfl, .inl ⟨hstore, rfl, (hacquire ha).1, _, (hacquire ha).2,
        hstore ▸ hp.2⟩⟩
    next => exact absurd he (by simp)
  | tryLock key k busy =>
    simp only [execute] at he
    split at he
    next ha =>
      obtain ⟨rfl, rfl⟩ := Prod.mk.inj (Option.some.inj he)
      exact ⟨rfl, _, rfl, .inl ⟨hstore, rfl, (hacquire ha).1, _, (hacquire ha).2,
        hstore ▸ hp.1⟩⟩
    next =>
      obtain ⟨rfl, rfl⟩ := Prod.mk.inj (Option.some.inj he)
      exact ⟨rfl, _, rfl, .inl ⟨hstore, rfl, fun _ _ _ ↦ Iff.rfl, held, hheld, hp.2⟩⟩
  | nextval k | choose k =>
    obtain ⟨rfl, rfl⟩ := Prod.mk.inj (Option.some.inj he)
    exact ⟨rfl, _, rfl, .inl ⟨hstore, rfl, fun _ _ _ ↦ Iff.rfl, held, hheld, hp _⟩⟩
  | write f next =>
    obtain ⟨rfl, rfl⟩ := Prod.mk.inj (Option.some.inj he)
    exact ⟨rfl, _, rfl, .inl ⟨hstore, rfl, fun _ _ _ ↦ Iff.rfl, held, hheld, hp⟩⟩
  | commit next =>
    obtain ⟨rfl, rfl⟩ := Prod.mk.inj (Option.some.inj he)
    exact ⟨rfl, _, rfl, .inr ⟨_, rfl, rfl, hp⟩⟩
  | rollback next =>
    obtain ⟨rfl, rfl⟩ := Prod.mk.inj (Option.some.inj he)
    refine ⟨rfl, _, rfl, .inl ⟨hstore, rfl, fun j hj ↦ Discipline.holderWithout_eq_some hj,
      [], fun k ↦ ?_, hp⟩⟩
    exact iff_of_false List.not_mem_nil (holder_release_ne s₁ i k)

/-- A statement of the session that was the first to commit. -/
private theorem execute_first {W : κ → List κ → Prop} {i n : ℕ} {s₁ s₂ : Shared σ κ Req}
    {u u' : Session σ κ ε ρ Req} {p : Program σ κ ε ρ} (hclock : t ≤ s₁.clock)
    (hp : opening W s t (fun _ _ ↦ True) (fun _ _ ↦ True) p none)
    (he : execute i n s₁ u p = some (s₂, u')) : u'.request = u.request ∧
      ∃ p', u'.program = some p' ∧ opening W s t (fun _ _ ↦ True) (fun _ _ ↦ True) p' none := by
  cases p with
  | pure a => exact absurd he (by simp [execute])
  | throw e => exact absurd he (by simp [execute])
  | lock key k => exact absurd hp id
  | now k =>
    obtain ⟨-, rfl⟩ := Prod.mk.inj (Option.some.inj he)
    exact ⟨rfl, _, rfl, hp _ hclock⟩
  | tryLock key k busy =>
    simp only [execute] at he
    split at he
    all_goals obtain ⟨-, rfl⟩ := Prod.mk.inj (Option.some.inj he)
    · exact ⟨rfl, _, rfl, hp.1 _⟩
    · exact ⟨rfl, _, rfl, hp.2⟩
  | read k | nextval k | choose k =>
    obtain ⟨-, rfl⟩ := Prod.mk.inj (Option.some.inj he)
    exact ⟨rfl, _, rfl, hp _⟩
  | write f next | commit next | rollback next =>
    obtain ⟨-, rfl⟩ := Prod.mk.inj (Option.some.inj he)
    exact ⟨rfl, _, rfl, hp⟩

/-- One step from before the first commit. -/
private theorem step_unopened {program : Req → Program σ κ ε ρ}
    (hstart : ∀ r, opening (W r) s t (fun _ _ ↦ True) (fun _ _ ↦ True) (program r) (some (id, [])))
    {c c' : Config σ κ ε ρ Req} {a : Action Req} (hc : Unopened W s t c)
    (hclock : t ≤ c.shared.clock)
    (h : step program c a = some c') : Unopened W s t c' ∨ FirstCommit W s t c' := by
  cases a with
  | start r =>
    obtain rfl := Option.some.inj h
    refine .inl ⟨hc.store, hc.history, fun i hi ↦ hc.fresh i ?_, fun i u p hu hp ↦ ?_⟩
    · simp only [List.length_append, List.length_singleton] at hi
      omega
    · rcases Nat.lt_trichotomy i c.sessions.length with hi | rfl | hi
      · rw [List.getElem?_append_left hi] at hu
        exact hc.waits i u p hu hp
      · rw [List.getElem?_concat_length, Option.some.injEq] at hu
        subst hu
        obtain rfl := Option.some.inj hp
        exact ⟨[], fun k ↦ iff_of_false List.not_mem_nil (hc.fresh _ le_rfl k), hstart r⟩
      · rw [List.getElem?_eq_none (by simp; omega)] at hu
        exact absurd hu (by simp)
  | run i n =>
    simp only [step, Option.bind_eq_bind, Option.bind_eq_some_iff] at h
    obtain ⟨u, hu, p, hp, ⟨s', u'⟩, he, hc'⟩ := h
    obtain rfl := Option.some.inj hc'
    obtain ⟨held, hheld, hopening⟩ := hc.waits i u p hu hp
    obtain ⟨hreq, p', hp', hcase⟩ := execute_unopened hc.store hclock hheld hopening he
    have hi : i < c.sessions.length := (List.getElem?_eq_some_iff.mp hu).1
    rcases hcase with ⟨hstore, hhistory, hothers, held', hheld', hopening'⟩ | ⟨e,
      hhistory, rfl, hfirst⟩
    · refine .inl ⟨hstore, hhistory.trans hc.history, fun j hj k ↦ ?_, fun j v q hv hq ↦ ?_⟩
      · rw [List.length_set] at hj
        exact mt (hothers j (by omega) k).mp (hc.fresh j hj k)
      -- the session itself has gone on; the others hold what they held
      · by_cases hij : j = i
        · subst hij
          rw [List.getElem?_set_self hi, Option.some.injEq] at hv
          subst hv
          rw [hp', Option.some.injEq] at hq
          subst hq
          exact ⟨held', hheld', hreq ▸ hopening'⟩
        · rw [List.getElem?_set_ne (Ne.symm hij)] at hv
          obtain ⟨other, hother, hwaits⟩ := hc.waits j v q hv hq
          exact ⟨other, fun k ↦ (hother k).trans (hothers j hij k).symm, hwaits⟩
    -- the first commit of the run
    · refine .inr ⟨e, ?_, ?_, fun v q hv hq ↦ ?_⟩
      · rw [hhistory, hc.history]
        rfl
      · rw [List.length_set]
        exact hi
      · rw [List.getElem?_set_self hi, Option.some.injEq] at hv
        subst hv
        rw [hp', Option.some.injEq] at hq
        subst hq
        exact hreq ▸ hfirst
  | tick t' =>
    simp only [step] at h
    split at h
    next =>
      obtain rfl := Option.some.inj h
      exact .inl ⟨hc.store, hc.history, hc.fresh, hc.waits⟩
    next => exact absurd h (by simp)
  | crash i =>
    simp only [step, Option.bind_eq_bind, Option.bind_eq_some_iff] at h
    obtain ⟨u, hu, hc'⟩ := h
    obtain rfl := Option.some.inj hc'
    have hi : i < c.sessions.length := (List.getElem?_eq_some_iff.mp hu).1
    refine .inl ⟨hc.store, hc.history, fun j hj k ↦ ?_, fun j v q hv hq ↦ ?_⟩
    · rw [List.length_set] at hj
      exact mt (Discipline.holderWithout_eq_some (i := i) (by omega) k).mp (hc.fresh j hj k)
    · by_cases hij : j = i
      · subst hij
        rw [List.getElem?_set_self hi, Option.some.injEq] at hv
        subst hv
        exact absurd hq (by simp)
      · rw [List.getElem?_set_ne (Ne.symm hij)] at hv
        obtain ⟨other, hother, hwaits⟩ := hc.waits j v q hv hq
        exact ⟨other, fun k ↦ (hother k).trans (Discipline.holderWithout_eq_some hij k).symm,
          hwaits⟩

private theorem step_first {program : Req → Program σ κ ε ρ} {c c' : Config σ κ ε ρ Req}
    {a : Action Req} (hc : FirstCommit W s t c) (hclock : t ≤ c.shared.clock)
    (h : step program c a = some c') : FirstCommit W s t c' := by
  obtain ⟨e, he, hsession, hquiet⟩ := hc
  -- the history only grows at its end
  have hhead : c'.shared.history.head? = some e := by
    rcases step_store h with ⟨-, hhistory⟩ | ⟨e', hhistory, -, -⟩
    · rw [hhistory, he]
    · rw [hhistory, List.head?_append, he, Option.some_or]
  refine ⟨e, hhead, ?_⟩
  cases a with
  | start r =>
    obtain rfl := Option.some.inj h
    refine ⟨?_, fun u p hu hp ↦ hquiet u p ?_ hp⟩
    · rw [List.length_append]
      omega
    · rwa [List.getElem?_append_left hsession] at hu
  | run i n =>
    simp only [step, Option.bind_eq_bind, Option.bind_eq_some_iff] at h
    obtain ⟨u, hu, p, hp, ⟨s', u'⟩, hexecute, hc'⟩ := h
    obtain rfl := Option.some.inj hc'
    refine ⟨(List.length_set ..).symm ▸ hsession, fun v q hv hq ↦ ?_⟩
    by_cases hie : e.session = i
    · subst hie
      obtain ⟨hreq, p', hp', hnext⟩ := execute_first hclock (hquiet u p hu hp) hexecute
      rw [List.getElem?_set_self hsession, Option.some.injEq] at hv
      subst hv
      rw [hp', Option.some.injEq] at hq
      subst hq
      exact hreq ▸ hnext
    · rw [List.getElem?_set_ne (Ne.symm hie)] at hv
      exact hquiet v q hv hq
  | tick t' =>
    simp only [step] at h
    split at h
    next =>
      obtain rfl := Option.some.inj h
      exact ⟨hsession, hquiet⟩
    next => exact absurd h (by simp)
  | crash i =>
    simp only [step, Option.bind_eq_bind, Option.bind_eq_some_iff] at h
    obtain ⟨u, hu, hc'⟩ := h
    obtain rfl := Option.some.inj hc'
    refine ⟨(List.length_set ..).symm ▸ hsession, fun v q hv hq ↦ ?_⟩
    by_cases hie : e.session = i
    · subst hie
      rw [List.getElem?_set_self hsession, Option.some.injEq] at hv
      subst hv
      exact absurd hq (by simp)
    · rw [List.getElem?_set_ne (Ne.symm hie)] at hv
      exact hquiet v q hv hq

/-- **Soundness.** Until the first commit every session waits only where `W` allows; the session
that commits first waits no more. -/
theorem opening_sound {program : Req → Program σ κ ε ρ}
    (hstart : ∀ r, opening (W r) s t (fun _ _ ↦ True) (fun _ _ ↦ True) (program r) (some (id, [])))
    {n : ℕ} {c : Config σ κ ε ρ Req} (hc : Reaches program (Config.initial s t n) c) :
    t ≤ c.shared.clock ∧ (Unopened W s t c ∨ FirstCommit W s t c) := by
  induction hc with
  | refl =>
    refine ⟨Int.le_refl _, .inl ⟨rfl, rfl, fun i _ k ↦ ?_, fun i u p hu _ ↦ ?_⟩⟩
    · exact (Option.some_ne_none i).symm
    · simp [Config.initial] at hu
  | step a _ h ih =>
    refine ⟨Int.le_trans ih.1 (step_clock h), ?_⟩
    rcases ih.2 with hbefore | hafter
    · exact step_unopened hstart hbefore ih.1 h
    · exact .inr (step_first hafter ih.1 h)

end Soundness

/-! ## Waiting

A session waits for another if its next statement asks for a lock which that one holds.
-/

/-- The key of the lock a program asks for next. -/
def Program.awaits : Program σ κ ε α → Option κ
  | .lock key _ => some key
  | _ => none

/-- The key of the lock session `i` asks for next. -/
def Config.awaits (c : Config σ κ ε ρ Req) (i : ℕ) : Option κ :=
  (c.sessions[i]?).bind fun u ↦ u.program.bind Program.awaits

/-- Session `i` waits for session `j` to give up the lock on `key`. -/
def Config.WaitsFor (c : Config σ κ ε ρ Req) (i j : ℕ) (key : κ) : Prop :=
  c.awaits i = some key ∧ c.shared.holder key = some j

/-- The only two sessions wait for locks: then nothing has been committed. -/
theorem of_both_wait {program : Req → Program σ κ ε ρ} {W : Req → κ → List κ → Prop} {s : σ} {t : ℤ}
    (hstart : ∀ r, opening (W r) s t (fun _ _ ↦ True) (fun _ _ ↦ True) (program r) (some (id, [])))
    {n : ℕ} {c : Config σ κ ε ρ Req} (hc : Reaches program (Config.initial s t n) c)
    (htwo : c.sessions.length = 2) {key₀ key₁ : κ} (h₀ : c.awaits 0 = some key₀)
    (h₁ : c.awaits 1 = some key₁) {i : ℕ} {key : κ} (hi : c.awaits i = some key)
    {u : Session σ κ ε ρ Req} (hu : c.sessions[i]? = some u) :
    ∃ held, (∀ k, k ∈ held ↔ c.shared.holder k = some i) ∧ W u.request key held := by
  have hprogram {j : ℕ} {key : κ} (hj : c.awaits j = some key) :
      ∃ u k, c.sessions[j]? = some u ∧ u.program = some (.lock key k) := by
    obtain ⟨u, hu, hprogram⟩ := Option.bind_eq_some_iff.mp hj
    obtain ⟨p, hp, hawaits⟩ := Option.bind_eq_some_iff.mp hprogram
    cases p with
    | lock key' k =>
      obtain rfl := Option.some.inj hawaits
      exact ⟨u, k, hu, hp⟩
    | _ => exact absurd hawaits (by simp [Program.awaits])
  rcases (opening_sound hstart hc).2 with hbefore | ⟨e, -, hsession, hquiet⟩
  · obtain ⟨v, k, hv, hp⟩ := hprogram hi
    obtain rfl := Option.some.inj (hu.symm.trans hv)
    obtain ⟨held, hheld, hwaits⟩ := hbefore.waits i u _ hu hp
    exact ⟨held, hheld, hwaits.1⟩
  · -- The session that has committed is one of the two, and it cannot be waiting.
    have hwaiting : ∃ key, c.awaits e.session = some key := by
      have : e.session = 0 ∨ e.session = 1 := by omega
      rcases this with he | he <;> rw [he]
      · exact ⟨key₀, h₀⟩
      · exact ⟨key₁, h₁⟩
    obtain ⟨key', hkey'⟩ := hwaiting
    obtain ⟨v, k, hv, hp⟩ := hprogram hkey'
    exact absurd (hquiet v _ hv hp) id

end RowLock
