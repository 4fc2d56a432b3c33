import Nayasetu.RowLock.Discipline

/-!
# Sessions by themselves

What a program comes to when no other session takes a step: `alone` runs it from a view to its end.
`exec_alone` says that the run of its session does the same.

Some statements are about sessions that are not disturbed: that a worker gets everything done when
nobody contends with it, or that requests served one after another have a certain effect. A
session by itself is a function of the view it starts from, so these are proved by computation,
with one rule for each statement, and hold of a run in which the sessions start one behind the
other.
-/

namespace RowLock

variable {σ κ ε α β ρ Req : Type} [DecidableEq κ]

/-- The outcome of a program that runs by itself, and the view it leaves; nothing if it waits for a
lock. Its choices are all answered by `n`. -/
def alone (i n : ℕ) (r : Req) :
    Program σ κ ε α → View σ κ Req → Option (Except ε α × View σ κ Req)
  | .pure a, v => some (.ok a, v)
  | .throw e, v => some (.error e, v)
  | .now k, v => alone i n r (k v.shared.clock) v
  | .read k, v => alone i n r (k (v.pending v.shared.store)) { v with snapshot := v.shared.store }
  | .lock key k, v =>
    if v.shared.Available i key then
      alone i n r (k (v.pending v.shared.store)) (v.at (v.shared.acquire i key))
    else none
  | .tryLock key k busy, v =>
    if v.shared.Available i key then
      alone i n r (k (v.pending v.shared.store)) (v.at (v.shared.acquire i key))
    else alone i n r busy v
  | .nextval k, v => alone i n r (k v.shared.minted.length) (v.at (v.shared.mint i))
  | .choose k, v => alone i n r (k n) v
  | .write f next, v => alone i n r next { v with pending := f ∘ v.pending }
  | .commit next, v =>
    alone i n r next ⟨v.shared.commit i r v.snapshot v.pending, id, v.snapshot⟩
  | .rollback next, v => alone i n r next ⟨v.shared.release i, id, v.snapshot⟩

/-- The result of a program that ran to its end by itself. -/
def returned (x : Option (Except ε α × View σ κ Req)) : Option α := x.bind (·.1.toOption)

omit [DecidableEq κ] in
theorem exists_of_returned {x : Option (Except ε α × View σ κ Req)} {a : α}
    (h : returned x = some a) : ∃ w, x = some (.ok a, w) := by
  obtain ⟨⟨y, w⟩, rfl, hy⟩ := Option.bind_eq_some_iff.mp h
  cases y with
  | ok b =>
    cases hy
    exact ⟨w, rfl⟩
  | error e => cases hy

def outcome : Except ε α → Program σ κ ε α
  | .ok a => .pure a
  | .error e => .throw e

section Rules

variable {i n : ℕ} {r : Req} {v w : View σ κ Req}

variable (i n r) in
/-- The rest of a sequence after its first part. -/
def continueWith (f : α → Program σ κ ε β) :
    Except ε α × View σ κ Req → Option (Except ε β × View σ κ Req)
  | (.ok a, w) => alone i n r (f a) w
  | (.error e, w) => some (.error e, w)

theorem alone_lock_eq {key : κ} {k : σ → Program σ κ ε α} : alone i n r (.lock key k) v =
    if v.shared.Available i key then
      alone i n r (k (v.pending v.shared.store)) (v.at (v.shared.acquire i key))
    else none := rfl

theorem alone_tryLock_eq {key : κ} {k : σ → Program σ κ ε α} {busy : Program σ κ ε α} :
    alone i n r (.tryLock key k busy) v =
      if v.shared.Available i key then
        alone i n r (k (v.pending v.shared.store)) (v.at (v.shared.acquire i key))
      else alone i n r busy v := rfl

/-- A sequence runs one part after the other. -/
theorem alone_bind_eq {p : Program σ κ ε α} {f : α → Program σ κ ε β} :
    alone i n r (p >>= f) v = (alone i n r p v).bind (continueWith i n r f) := by
  change alone i n r (p.bind f) v = _
  induction p generalizing v with
  | pure a | throw e => rfl
  | now k ih | read k ih | nextval k ih | choose k ih => exact ih _
  | lock key k ih =>
    change alone i n r (.lock key fun s ↦ (k s).bind f) v = _
    rw [alone_lock_eq, alone_lock_eq]
    split
    · exact ih _
    · rfl
  | tryLock key k busy ih ihb =>
    change alone i n r (.tryLock key (fun s ↦ (k s).bind f) (busy.bind f)) v = _
    rw [alone_tryLock_eq, alone_tryLock_eq]
    split
    · exact ih _
    · exact ihb
  | write f next ih | commit next ih | rollback next ih => exact ih

theorem alone_bind {p : Program σ κ ε α} {f : α → Program σ κ ε β} {a : α}
    (h : alone i n r p v = some (.ok a, w)) :
    alone i n r (p >>= f) v = alone i n r (f a) w := by
  rw [alone_bind_eq, h]
  rfl

/-- What a sequence came to, its parts came to. -/
theorem exists_of_alone_bind {p : Program σ κ ε α} {f : α → Program σ κ ε β} {b : β}
    (h : alone i n r (p >>= f) v = some (.ok b, w)) :
    ∃ a u, alone i n r p v = some (.ok a, u) ∧ alone i n r (f a) u = some (.ok b, w) := by
  rw [alone_bind_eq, Option.bind_eq_some_iff] at h
  obtain ⟨⟨x, u⟩, hp, hf⟩ := h
  cases x with
  | ok a => exact ⟨a, u, hp, hf⟩
  | error e =>
    rw [continueWith] at hf
    cases hf

theorem alone_attempt_eq {ε' : Type} {p : Program σ κ ε α} :
    alone i n r (p.attempt : Program σ κ ε' (Except ε α)) v =
      (alone i n r p v).map (Prod.map .ok id) := by
  induction p generalizing v with
  | pure a | throw e => rfl
  | now k ih | read k ih | nextval k ih | choose k ih => exact ih _
  | lock key k ih =>
    change alone i n r (.lock key fun s ↦ (k s).attempt) v = _
    rw [alone_lock_eq, alone_lock_eq]
    split
    · exact ih _
    · rfl
  | tryLock key k busy ih ihb =>
    change alone i n r (.tryLock key (fun s ↦ (k s).attempt) busy.attempt) v = _
    rw [alone_tryLock_eq, alone_tryLock_eq]
    split
    · exact ih _
    · exact ihb
  | write f next ih | commit next ih | rollback next ih => exact ih

theorem alone_attempt {ε' : Type} {p : Program σ κ ε α} {x : Except ε α}
    (h : alone i n r p v = some (x, w)) :
    alone i n r (p.attempt : Program σ κ ε' (Except ε α)) v = some (.ok x, w) := by
  rw [alone_attempt_eq, h]
  rfl

/-- What succeeds is not caught. -/
theorem alone_tryCatch {p : Program σ κ ε α} {handler : ε → Program σ κ ε α} {a : α}
    (h : alone i n r p v = some (.ok a, w)) :
    alone i n r (tryCatch p handler) v = some (.ok a, w) :=
  (alone_bind (alone_attempt h)).trans rfl

theorem alone_lock {key : κ} (h : v.shared.Available i key) :
    alone i n r (lock key : Program σ κ ε σ) v =
      some (.ok (v.pending v.shared.store), v.at (v.shared.acquire i key)) := by
  rw [lock, alone_lock_eq, if_pos h]
  rfl

theorem of_alone_lock {key : κ} {a : σ}
    (h : alone i n r (lock key : Program σ κ ε σ) v = some (.ok a, w)) :
    a = v.pending v.shared.store ∧ w = v.at (v.shared.acquire i key) := by
  rw [lock, alone_lock_eq] at h
  split at h
  next =>
    cases h
    exact ⟨rfl, rfl⟩
  next => cases h

theorem alone_tryLock {key : κ} (h : v.shared.Available i key) :
    alone i n r (tryLock key : Program σ κ ε (Option σ)) v =
      some (.ok (some (v.pending v.shared.store)), v.at (v.shared.acquire i key)) := by
  rw [tryLock, alone_tryLock_eq, if_pos h]
  rfl

theorem alone_snapshot :
    alone i n r (snapshot : Program σ κ ε σ) v =
      some (.ok (v.pending v.shared.store), { v with snapshot := v.shared.store }) := rfl

theorem alone_selectForUpdate {key : κ} {row : σ → Option β} {b : β}
    (hfree : v.shared.Available i key) (h : row (v.pending v.shared.store) = some b) :
    alone i n r (selectForUpdate key row : Program σ κ ε (Option β)) v =
      some (.ok (some b), ⟨v.shared.acquire i key, v.pending, v.shared.store⟩) := by
  have hlock : alone i n r (lock key : Program σ κ ε σ) { v with snapshot := v.shared.store } =
      some (.ok (v.pending v.shared.store), ⟨v.shared.acquire i key, v.pending, v.shared.store⟩) :=
    alone_lock hfree
  rw [selectForUpdate, alone_bind alone_snapshot, h]
  refine (alone_bind hlock).trans ?_
  rw [h]
  rfl

theorem alone_updateRow {key : κ} {matches? : σ → Bool} {f : σ → σ}
    (hfree : v.shared.Available i key) (h : matches? (v.pending v.shared.store) = true) :
    alone i n r (updateRow key matches? f : Program σ κ ε ℕ) v =
      some (.ok 1, ⟨v.shared.acquire i key, f ∘ v.pending, v.shared.store⟩) := by
  have hlock : alone i n r (lock key : Program σ κ ε σ) { v with snapshot := v.shared.store } =
      some (.ok (v.pending v.shared.store), ⟨v.shared.acquire i key, v.pending, v.shared.store⟩) :=
    alone_lock hfree
  rw [updateRow, alone_bind alone_snapshot, h]
  refine (alone_bind hlock).trans ?_
  rw [h]
  rfl

end Rules

/-! ## What is left alone

A program that writes nothing leaves the store as it is. What it may change is the lock table, in
its own favour, and how many numbers are drawn.
-/

/-- Between its statements a session that nobody contends with only takes locks. -/
structure OnlyLocks (i : ℕ) (s s' : Shared σ κ Req) : Prop where
  store : s'.store = s.store
  clock : s'.clock = s.clock
  holder : ∀ k, s'.holder k = s.holder k ∨ s'.holder k = some i

section OnlyLocks

variable {i : ℕ} {s s' s'' : Shared σ κ Req}

omit [DecidableEq κ] in
theorem OnlyLocks.refl (s : Shared σ κ Req) : OnlyLocks i s s := ⟨rfl, rfl, fun _ ↦ .inl rfl⟩

omit [DecidableEq κ] in
theorem OnlyLocks.trans (h : OnlyLocks i s s') (h' : OnlyLocks i s' s'') : OnlyLocks i s s'' := by
  refine ⟨h'.store.trans h.store, h'.clock.trans h.clock, fun k ↦ ?_⟩
  rcases h'.holder k with hk | hk
  · rw [hk]
    exact h.holder k
  · exact .inr hk

theorem OnlyLocks.acquire (key : κ) : OnlyLocks i s (s.acquire i key) := by
  refine ⟨rfl, rfl, fun k ↦ ?_⟩
  rw [Discipline.acquire_holder]
  split
  · exact .inr rfl
  · exact .inl rfl

omit [DecidableEq κ] in
/-- A lock that is free stays free for the session itself. -/
theorem OnlyLocks.available (h : OnlyLocks i s s') {k : κ} (hk : s.Available i k) :
    s'.Available i k := by
  rw [Shared.Available]
  rcases h.holder k with hk' | hk'
  · rw [hk']
    exact hk
  · exact .inr hk'

omit [DecidableEq κ] in
theorem OnlyLocks.mint : OnlyLocks i s (s.mint i) := ⟨rfl, rfl, fun _ ↦ .inl rfl⟩

/-- Before its commit a session that nobody contends with only takes locks, and what it is going to
write stays in its class. -/
theorem of_alone_writes {n : ℕ} {r : Req} {v w : View σ κ Req} {W : (σ → σ) → Prop}
    (hcomp : ∀ f g, W f → W g → W (f ∘ g)) {p : Program σ κ ε α} (hp : p.Writes W)
    {x : Except ε α} (h : alone i n r p v = some (x, w)) (hv : W v.pending) :
    OnlyLocks i v.shared w.shared ∧ W w.pending := by
  induction p generalizing v with
  | pure a | throw e =>
    obtain ⟨-, rfl⟩ := Prod.mk.inj (Option.some.inj h)
    exact ⟨.refl _, hv⟩
  | now k ih | read k ih | choose k ih =>
    have hrest := ih _ (hp _) h hv
    exact hrest
  | nextval k ih =>
    obtain ⟨hlocks, hw⟩ := ih _ (hp _) h hv
    exact ⟨OnlyLocks.mint.trans hlocks, hw⟩
  | lock key k ih =>
    rw [alone_lock_eq] at h
    split at h
    next =>
      obtain ⟨hlocks, hw⟩ := ih _ (hp _) h hv
      exact ⟨(OnlyLocks.acquire key).trans hlocks, hw⟩
    next => exact absurd h (by simp)
  | tryLock key k busy ih ihb =>
    rw [alone_tryLock_eq] at h
    split at h
    next =>
      obtain ⟨hlocks, hw⟩ := ih _ (hp.1 _) h hv
      exact ⟨(OnlyLocks.acquire key).trans hlocks, hw⟩
    next => exact ihb hp.2 h hv
  | write f next ih =>
    have hrest := ih hp.2 (v := { v with pending := f ∘ v.pending }) h
    exact hrest (hcomp f _ hp.1 hv)
  | commit next ih | rollback next ih => exact absurd hp id

end OnlyLocks

/-! ## Runs

The steps of one session in a row are the run of its program by itself.
-/

private theorem exec_statement {program : Req → Program σ κ ε ρ} {i n : ℕ} {p : Program σ κ ε ρ}
    {c : Config σ κ ε ρ Req} {u u' u'' : Session σ κ ε ρ Req} {s' s'' : Shared σ κ Req}
    (hu : c.sessions[i]? = some u) (hp : u.program = some p)
    (he : execute i n c.shared u p = some (s', u'))
    (hrest : ∃ m, exec program ⟨s', c.sessions.set i u'⟩ (List.replicate m (.run i n)) =
      some ⟨s'', (c.sessions.set i u').set i u''⟩) :
    ∃ m, exec program c (List.replicate m (.run i n)) = some ⟨s'', c.sessions.set i u''⟩ := by
  obtain ⟨m, hm⟩ := hrest
  refine ⟨m + 1, ?_⟩
  have hone : step program c (.run i n) = some ⟨s', c.sessions.set i u'⟩ := by
    simp only [step, hu, hp, Option.bind_eq_bind, Option.bind_some, he]
    rfl
  rw [List.replicate_succ, exec, hone, Option.bind_some, hm, List.set_set]

/-- The session runs by itself. -/
theorem exec_alone {program : Req → Program σ κ ε ρ} {i n : ℕ} {p : Program σ κ ε ρ}
    {c : Config σ κ ε ρ Req} {u : Session σ κ ε ρ Req} (hu : c.sessions[i]? = some u)
    (hp : u.program = some p) {x : Except ε ρ} {w : View σ κ Req}
    (h : alone i n u.request p ⟨c.shared, u.pending, u.snapshot⟩ = some (x, w)) :
    ∃ m, exec program c (List.replicate m (.run i n)) =
      some ⟨w.shared, c.sessions.set i ⟨u.request, some (outcome x), w.pending, w.snapshot⟩⟩ := by
  have hset (c : Config σ κ ε ρ Req) {u u' : Session σ κ ε ρ Req} (hu : c.sessions[i]? = some u) :
      (c.sessions.set i u')[i]? = some u' :=
    List.getElem?_set_self (List.getElem?_eq_some_iff.mp hu).1
  -- statement after statement; a session alone is never kept waiting
  induction p generalizing c u with
  | pure a | throw e =>
    obtain ⟨rfl, rfl⟩ := Prod.mk.inj (Option.some.inj h)
    obtain ⟨hi, rfl⟩ := List.getElem?_eq_some_iff.mp hu
    refine ⟨0, ?_⟩
    rw [outcome, ← hp, List.set_getElem_self]
    rfl
  | lock key k ih =>
    rw [alone_lock_eq] at h
    split at h
    next havailable =>
      exact exec_statement hu hp (if_pos havailable)
        (ih _ (u := { u with program := some (k (u.pending c.shared.store)) }) (hset c hu) rfl h)
    next => exact absurd h (by simp)
  | tryLock key k busy ih ihb =>
    rw [alone_tryLock_eq] at h
    split at h
    next havailable =>
      exact exec_statement hu hp (if_pos havailable)
        (ih _ (u := { u with program := some (k (u.pending c.shared.store)) }) (hset c hu) rfl h)
    next havailable =>
      exact exec_statement hu hp (if_neg havailable)
        (ihb (u := { u with program := some busy }) (hset c hu) rfl h)
  | now k ih =>
    exact exec_statement hu hp rfl
      (ih _ (u := { u with program := some (k c.shared.clock) }) (hset c hu) rfl h)
  | read k ih =>
    exact exec_statement hu hp rfl (ih _
      (u := ⟨u.request, some (k (u.pending c.shared.store)), u.pending, c.shared.store⟩)
      (hset c hu) rfl h)
  | nextval k ih =>
    exact exec_statement hu hp rfl
      (ih _ (u := { u with program := some (k c.shared.minted.length) }) (hset c hu) rfl h)
  | choose k ih =>
    exact exec_statement hu hp rfl
      (ih n (u := { u with program := some (k n) }) (hset c hu) rfl h)
  | write f next ih =>
    exact exec_statement hu hp rfl
      (ih (u := ⟨u.request, some next, f ∘ u.pending, u.snapshot⟩) (hset c hu) rfl h)
  | commit next ih =>
    exact exec_statement hu hp rfl
      (ih (u := ⟨u.request, some next, id, u.snapshot⟩) (hset c hu) rfl h)
  | rollback next ih =>
    exact exec_statement hu hp rfl
      (ih (u := ⟨u.request, some next, id, u.snapshot⟩) (hset c hu) rfl h)

end RowLock
