import Nayasetu.RowLock.Program

/-!
# A rely–guarantee rule for row-locking transactions

To prove an invariant of every interleaving it is enough to look at one program at a time. A
*protocol* fixes an invariant of the shared part and, for each session, what it may rely on the
other sessions to leave alone. `Protocol.wp` walks through a program statement by statement: before
each statement the shared part may have changed in any way the rely relation allows, and each
commit has to restore the invariant and stay within what every other session relies on.

`Protocol.sound` says that the walk suffices: if every program passes from every state satisfying
the invariant, then in every reachable configuration the invariant holds, and every finished
session satisfies its postcondition.

## How it works

The walk keeps a `View`: the shared part as the session knows it, the writes it has not committed,
and the snapshot of its last reading statement. Between two statements the view moves to any later
shared part that keeps the invariant and differs only in ways the rely relation allows, so each
rule of the walk quantifies over those. What a session does without committing (`Quiet`: it takes
a lock, draws a number or rolls back) is within what the others rely on; a protocol answers for
that once, and a walk need not mention it.

The postcondition of a session has to be `Stable`: it is claimed at the end of a run, long after
the session has stopped.
-/

namespace RowLock

variable {σ κ ε α β ρ Req : Type} [DecidableEq κ]

/-! ## Protocols -/

/-- The effects a session has on the shared part without committing anything. -/
inductive Quiet (i : ℕ) : Shared σ κ Req → Shared σ κ Req → Prop where
  /-- It takes a lock. -/
  | acquire {s : Shared σ κ Req} {key : κ} (h : s.Available i key) : Quiet i s (s.acquire i key)
  /-- It draws a number. -/
  | mint {s : Shared σ κ Req} : Quiet i s (s.mint i)
  /-- It rolls back. -/
  | release {s : Shared σ κ Req} : Quiet i s (s.release i)

/-- An invariant, and what each session relies on. -/
structure Protocol (σ κ Req : Type) [DecidableEq κ] where
  /-- The invariant of the shared part. -/
  Inv : Shared σ κ Req → Prop
  /-- What the others may do while session `i` pauses. -/
  Rely : ℕ → Shared σ κ Req → Shared σ κ Req → Prop
  rely_refl : ∀ i s, Rely i s s
  rely_trans : ∀ i s₁ s₂ s₃, Rely i s₁ s₂ → Rely i s₂ s₃ → Rely i s₁ s₃
  /-- Locks, sequence numbers and rollbacks are harmless. -/
  quiet : ∀ i s s', Quiet i s s' → Inv s → Inv s' ∧ ∀ j, j ≠ i → Rely j s s'
  /-- So is the passing of time. -/
  tick : ∀ s t, s.clock ≤ t → Inv s → Inv (s.tick t) ∧ ∀ j, Rely j s (s.tick t)

/-- What a session sees when it is about to execute a statement. -/
structure View (σ κ Req : Type) where
  /-- The shared part. -/
  shared : Shared σ κ Req
  /-- Its uncommitted writes. -/
  pending : σ → σ
  /-- The snapshot of its last reading statement. -/
  snapshot : σ

/-- The view once the shared part has become `s`. -/
def View.at (v : View σ κ Req) (s : Shared σ κ Req) : View σ κ Req := { v with shared := s }

omit [DecidableEq κ] in
@[simp] theorem View.at_shared (v : View σ κ Req) (s : Shared σ κ Req) : (v.at s).shared = s := rfl

omit [DecidableEq κ] in
@[simp] theorem View.at_pending (v : View σ κ Req) (s : Shared σ κ Req) :
    (v.at s).pending = v.pending := rfl

namespace Protocol

variable (P : Protocol σ κ Req) (i : ℕ) (r : Req)

/-- The shared part at the next statement of session `i`. -/
structure Later (s s' : Shared σ κ Req) : Prop where
  /-- The others kept to the protocol. -/
  rely : P.Rely i s s'
  /-- The invariant holds. -/
  inv : P.Inv s'

variable {P i}

theorem Later.refl {s : Shared σ κ Req} (h : P.Inv s) : P.Later i s s := ⟨P.rely_refl i s, h⟩

theorem Later.trans {s₁ s₂ s₃ : Shared σ κ Req} (h₁ : P.Later i s₁ s₂) (h₂ : P.Later i s₂ s₃) :
    P.Later i s₁ s₃ := ⟨P.rely_trans i _ _ _ h₁.rely h₂.rely, h₂.inv⟩

variable (P i)

/-! ## The walk through a program -/

/-- Every way of executing the program from view `v`, among sessions that keep to the protocol,
keeps to the protocol itself and ends in `Q` or, with an error, in `E`. -/
def wp (Q : α → View σ κ Req → Prop) (E : ε → View σ κ Req → Prop) :
    Program σ κ ε α → View σ κ Req → Prop
  | .pure a, v => Q a v
  | .throw e, v => E e v
  | .now k, v => ∀ s, P.Later i v.shared s → wp Q E (k s.clock) (v.at s)
  | .read k, v => ∀ s, P.Later i v.shared s →
      wp Q E (k (v.pending s.store)) { v with shared := s, snapshot := s.store }
  | .lock key k, v => ∀ s, P.Later i v.shared s → s.Available i key →
      wp Q E (k (v.pending s.store)) (v.at (s.acquire i key))
  | .tryLock key k busy, v => ∀ s, P.Later i v.shared s →
      (s.Available i key → wp Q E (k (v.pending s.store)) (v.at (s.acquire i key))) ∧
      (¬ s.Available i key → wp Q E busy (v.at s))
  | .nextval k, v => ∀ s, P.Later i v.shared s → wp Q E (k s.minted.length) (v.at (s.mint i))
  | .choose k, v => ∀ n, wp Q E (k n) v
  | .write f next, v => wp Q E next { v with pending := f ∘ v.pending }
  | .commit next, v => ∀ s, P.Later i v.shared s →
      P.Inv (s.commit i r v.snapshot v.pending) ∧
      (∀ j, j ≠ i → P.Rely j s (s.commit i r v.snapshot v.pending)) ∧
      wp Q E next ⟨s.commit i r v.snapshot v.pending, id, v.snapshot⟩
  | .rollback next, v => ∀ s, P.Later i v.shared s →
      wp Q E next ⟨s.release i, id, v.snapshot⟩

variable {P i r}

section Rules

variable {Q Q' : α → View σ κ Req → Prop} {E E' : ε → View σ κ Req → Prop}

/-- The consequence rule. -/
theorem wp_mono (hQ : ∀ a v, Q a v → Q' a v) (hE : ∀ e v, E e v → E' e v)
    {p : Program σ κ ε α} : ∀ {v : View σ κ Req}, P.wp i r Q E p v → P.wp i r Q' E' p v := by
  induction p with
  | pure a => intro v h; exact hQ a v h
  | throw e => intro v h; exact hE e v h
  | now k ih => intro v h s hs; exact ih _ (h s hs)
  | read k ih => intro v h s hs; exact ih _ (h s hs)
  | lock key k ih => intro v h s hs ha; exact ih _ (h s hs ha)
  | tryLock key k busy ih ihb =>
    intro v h s hs
    exact ⟨fun ha ↦ ih _ ((h s hs).1 ha), fun ha ↦ ihb ((h s hs).2 ha)⟩
  | nextval k ih => intro v h s hs; exact ih _ (h s hs)
  | choose k ih => intro v h n; exact ih n (h n)
  | write f next ih => intro v h; exact ih h
  | commit next ih =>
    intro v h s hs
    obtain ⟨hinv, hrely, hnext⟩ := h s hs
    exact ⟨hinv, hrely, ih hnext⟩
  | rollback next ih => intro v h s hs; exact ih (h s hs)

/-- The sequencing rule. -/
theorem wp_bind {Q : β → View σ κ Req → Prop} {p : Program σ κ ε α} {f : α → Program σ κ ε β} :
    ∀ {v : View σ κ Req}, P.wp i r (fun a v ↦ P.wp i r Q E (f a) v) E p v →
      P.wp i r Q E (p >>= f) v := by
  change ∀ {v : View σ κ Req}, _ → P.wp i r Q E (p.bind f) v
  induction p with
  | pure a => intro v h; exact h
  | throw e => intro v h; exact h
  | now k ih => intro v h s hs; exact ih _ (h s hs)
  | read k ih => intro v h s hs; exact ih _ (h s hs)
  | lock key k ih => intro v h s hs ha; exact ih _ (h s hs ha)
  | tryLock key k busy ih ihb =>
    intro v h s hs
    exact ⟨fun ha ↦ ih _ ((h s hs).1 ha), fun ha ↦ ihb ((h s hs).2 ha)⟩
  | nextval k ih => intro v h s hs; exact ih _ (h s hs)
  | choose k ih => intro v h n; exact ih n (h n)
  | write f next ih => intro v h; exact ih h
  | commit next ih =>
    intro v h s hs
    obtain ⟨hinv, hrely, hnext⟩ := h s hs
    exact ⟨hinv, hrely, ih hnext⟩
  | rollback next ih => intro v h s hs; exact ih (h s hs)

/-- The rule for handing an error to the caller. -/
theorem wp_attempt {ε' : Type} {E' : ε' → View σ κ Req → Prop}
    {Q : Except ε α → View σ κ Req → Prop} {p : Program σ κ ε α} : ∀ {v : View σ κ Req},
    P.wp i r (fun a v ↦ Q (.ok a) v) (fun e v ↦ Q (.error e) v) p v →
      P.wp i r Q E' p.attempt v := by
  induction p with
  | pure a => intro v h; exact h
  | throw e => intro v h; exact h
  | now k ih => intro v h s hs; exact ih _ (h s hs)
  | read k ih => intro v h s hs; exact ih _ (h s hs)
  | lock key k ih => intro v h s hs ha; exact ih _ (h s hs ha)
  | tryLock key k busy ih ihb =>
    intro v h s hs
    exact ⟨fun ha ↦ ih _ ((h s hs).1 ha), fun ha ↦ ihb ((h s hs).2 ha)⟩
  | nextval k ih => intro v h s hs; exact ih _ (h s hs)
  | choose k ih => intro v h n; exact ih n (h n)
  | write f next ih => intro v h; exact ih h
  | commit next ih =>
    intro v h s hs
    obtain ⟨hinv, hrely, hnext⟩ := h s hs
    exact ⟨hinv, hrely, ih hnext⟩
  | rollback next ih => intro v h s hs; exact ih (h s hs)

theorem wp_tryCatch {p : Program σ κ ε α} {handler : ε → Program σ κ ε α} {v : View σ κ Req}
    (h : P.wp i r Q (fun e v ↦ P.wp i r Q E (handler e) v) p v) :
    P.wp i r Q E (tryCatch p handler) v := by
  refine wp_bind (wp_attempt (wp_mono (fun a v hq ↦ ?_) (fun e v he ↦ ?_) h))
  · exact hq
  · exact he

/-- A session none of whose commits can do harm is safe whatever it runs. -/
theorem wp_of_harmless
    (h : ∀ (v : View σ κ Req) s, P.Later i v.shared s → P.Inv (s.commit i r v.snapshot v.pending) ∧
      ∀ j, j ≠ i → P.Rely j s (s.commit i r v.snapshot v.pending)) (p : Program σ κ ε α) :
    ∀ v : View σ κ Req, P.wp i r (fun _ _ ↦ True) (fun _ _ ↦ True) p v := by
  induction p with
  | pure a => exact fun _ ↦ trivial
  | throw e => exact fun _ ↦ trivial
  | now k ih => exact fun _ _ _ ↦ ih _ _
  | read k ih => exact fun _ _ _ ↦ ih _ _
  | lock key k ih => exact fun _ _ _ _ ↦ ih _ _
  | tryLock key k busy ih ihb => exact fun _ _ _ ↦ ⟨fun _ ↦ ih _ _, fun _ ↦ ihb _⟩
  | nextval k ih => exact fun _ _ _ ↦ ih _ _
  | choose k ih => exact fun _ n ↦ ih n _
  | write f next ih => exact fun _ ↦ ih _
  | commit next ih =>
    intro v s hs
    obtain ⟨hinv, hrely⟩ := h v s hs
    exact ⟨hinv, hrely, ih _⟩
  | rollback next ih => exact fun _ _ _ ↦ ih _

end Rules

/-! ### Two protocols -/

section TwoProtocols

variable {P' : Protocol σ κ Req} {Q : α → View σ κ Req → Prop} {E : ε → View σ κ Req → Prop}

/-- A walk that does not commit passes among sessions of which less is to be feared, and its writes
stay within their class. -/
theorem wp_of_later {W : (σ → σ) → Prop} (hlater : ∀ s s', P'.Later i s s' → P.Later i s s')
    (hcomp : ∀ f g, W f → W g → W (f ∘ g)) {p : Program σ κ ε α} (hp : p.Writes W) :
    ∀ {v : View σ κ Req}, W v.pending → P.wp i r Q E p v →
      P'.wp i r (fun a w ↦ Q a w ∧ W w.pending) E p v := by
  induction p with
  | pure a => intro v hv h; exact ⟨h, hv⟩
  | throw e => intro v hv h; exact h
  | now k ih => intro v hv h s hs; exact ih _ (hp _) hv (h s (hlater _ _ hs))
  | read k ih => intro v hv h s hs; exact ih _ (hp _) hv (h s (hlater _ _ hs))
  | lock key k ih => intro v hv h s hs ha; exact ih _ (hp _) hv (h s (hlater _ _ hs) ha)
  | tryLock key k busy ih ihb =>
    intro v hv h s hs
    have hstep := h s (hlater _ _ hs)
    exact ⟨fun ha ↦ ih _ (hp.1 _) hv (hstep.1 ha), fun ha ↦ ihb hp.2 hv (hstep.2 ha)⟩
  | nextval k ih => intro v hv h s hs; exact ih _ (hp _) hv (h s (hlater _ _ hs))
  | choose k ih => intro v hv h n; exact ih n (hp n) hv (h n)
  | write f next ih => intro v hv h; exact ih hp.2 (hcomp f v.pending hp.1 hv) h
  | commit next ih | rollback next ih => exact absurd hp id

/-- So does a walk that does, if the other protocol allows its commits. -/
theorem wp_of_commit (hlater : ∀ s s', P'.Later i s s' → P.Later i s s')
    (hcommit : ∀ s snap w, P.Inv (s.commit i r snap w) →
      (∀ j, j ≠ i → P.Rely j s (s.commit i r snap w)) → P'.Inv (s.commit i r snap w) ∧
        ∀ j, j ≠ i → P'.Rely j s (s.commit i r snap w)) {p : Program σ κ ε α} :
    ∀ {v : View σ κ Req}, P.wp i r Q E p v → P'.wp i r Q E p v := by
  induction p with
  | pure a => intro v h; exact h
  | throw e => intro v h; exact h
  | now k ih => intro v h s hs; exact ih _ (h s (hlater _ _ hs))
  | read k ih => intro v h s hs; exact ih _ (h s (hlater _ _ hs))
  | lock key k ih => intro v h s hs ha; exact ih _ (h s (hlater _ _ hs) ha)
  | tryLock key k busy ih ihb =>
    intro v h s hs
    have hstep := h s (hlater _ _ hs)
    exact ⟨fun ha ↦ ih _ (hstep.1 ha), fun ha ↦ ihb (hstep.2 ha)⟩
  | nextval k ih => intro v h s hs; exact ih _ (h s (hlater _ _ hs))
  | choose k ih => intro v h n; exact ih n (h n)
  | write f next ih => intro v h; exact ih h
  | commit next ih =>
    intro v h s hs
    obtain ⟨hinv, hrely, hnext⟩ := h s (hlater _ _ hs)
    obtain ⟨hinv', hrely'⟩ := hcommit s _ _ hinv hrely
    exact ⟨hinv', hrely', ih hnext⟩
  | rollback next ih => intro v h s hs; exact ih (h s (hlater _ _ hs))

end TwoProtocols

section StatementRules

variable {v : View σ κ Req}

theorem wp_pure {a : α} {Q : α → View σ κ Req → Prop} {E : ε → View σ κ Req → Prop}
    (h : Q a v) : P.wp i r Q E (pure a) v := h

theorem wp_throw {e : ε} {Q : α → View σ κ Req → Prop} {E : ε → View σ κ Req → Prop}
    (h : E e v) : P.wp i r Q E (throw e) v := h

theorem wp_throw_iff {e : ε} {Q : α → View σ κ Req → Prop} {E : ε → View σ κ Req → Prop} :
    P.wp i r Q E (.throw e) v ↔ E e v := Iff.rfl

theorem wp_pure_iff {a : α} {Q : α → View σ κ Req → Prop} {E : ε → View σ κ Req → Prop} :
    P.wp i r Q E (.pure a) v ↔ Q a v := Iff.rfl

theorem wp_write {f : σ → σ} {Q : Unit → View σ κ Req → Prop} {E : ε → View σ κ Req → Prop}
    (h : Q () { v with pending := f ∘ v.pending }) : P.wp i r Q E (write f) v := h

theorem wp_choose {Q : ℕ → View σ κ Req → Prop} {E : ε → View σ κ Req → Prop}
    (h : ∀ n, Q n v) : P.wp i r Q E choose v := h

theorem wp_now {Q : ℤ → View σ κ Req → Prop} {E : ε → View σ κ Req → Prop}
    (h : ∀ s, P.Later i v.shared s → Q s.clock (v.at s)) : P.wp i r Q E now v := h

theorem wp_snapshot {Q : σ → View σ κ Req → Prop} {E : ε → View σ κ Req → Prop}
    (h : ∀ s, P.Later i v.shared s →
      Q (v.pending s.store) { v with shared := s, snapshot := s.store }) :
    P.wp i r Q E snapshot v := h

theorem wp_lock {key : κ} {Q : σ → View σ κ Req → Prop} {E : ε → View σ κ Req → Prop}
    (h : ∀ s, P.Later i v.shared s → s.Available i key →
      Q (v.pending s.store) (v.at (s.acquire i key))) : P.wp i r Q E (lock key) v := h

theorem wp_tryLock {key : κ} {Q : Option σ → View σ κ Req → Prop} {E : ε → View σ κ Req → Prop}
    (h : ∀ s, P.Later i v.shared s → s.Available i key →
      Q (some (v.pending s.store)) (v.at (s.acquire i key)))
    (hbusy : ∀ s, P.Later i v.shared s → ¬ s.Available i key → Q none (v.at s)) :
    P.wp i r Q E (tryLock key) v := fun s hs ↦ ⟨h s hs, hbusy s hs⟩

theorem wp_nextval {Q : ℕ → View σ κ Req → Prop} {E : ε → View σ κ Req → Prop}
    (h : ∀ s, P.Later i v.shared s → Q s.minted.length (v.at (s.mint i))) :
    P.wp i r Q E nextval v := h

theorem wp_commit {Q : Unit → View σ κ Req → Prop} {E : ε → View σ κ Req → Prop}
    (h : ∀ s, P.Later i v.shared s → P.Inv (s.commit i r v.snapshot v.pending) ∧
      (∀ j, j ≠ i → P.Rely j s (s.commit i r v.snapshot v.pending)) ∧
      Q () ⟨s.commit i r v.snapshot v.pending, id, v.snapshot⟩) :
    P.wp i r Q E commit v := h

theorem wp_rollback {Q : Unit → View σ κ Req → Prop} {E : ε → View σ κ Req → Prop}
    (h : ∀ s, P.Later i v.shared s → Q () ⟨s.release i, id, v.snapshot⟩) :
    P.wp i r Q E rollback v := h

theorem wp_fromExcept {x : Except ε α} {Q : α → View σ κ Req → Prop}
    {E : ε → View σ κ Req → Prop} (hok : ∀ a, x = .ok a → Q a v)
    (herror : ∀ e, x = .error e → E e v) : P.wp i r Q E (fromExcept x) v := by
  cases x with
  | ok a => exact hok a rfl
  | error e => exact herror e rfl

/-- The row is missing from the snapshot, or its newest version is read under its lock. -/
theorem wp_selectForUpdate {key : κ} {row : σ → Option β} {Q : Option β → View σ κ Req → Prop}
    {E : ε → View σ κ Req → Prop}
    (hnone : ∀ s, P.Later i v.shared s → row (v.pending s.store) = none →
      Q none { v with shared := s, snapshot := s.store })
    (hsome : ∀ s s', P.Later i v.shared s → row (v.pending s.store) ≠ none → P.Later i s s' →
      s'.Available i key →
      Q (row (v.pending s'.store)) ⟨s'.acquire i key, v.pending, s.store⟩) :
    P.wp i r Q E (selectForUpdate key row) v := by
  refine wp_bind (wp_snapshot fun s hs ↦ ?_)
  cases hrow : row (v.pending s.store) with
  | none => exact hnone s hs hrow
  | some b => exact wp_bind (wp_lock fun s' hs' ha ↦ hsome s s' hs (by simp [hrow]) hs' ha)

end StatementRules

/-- A condition the other sessions cannot break. -/
def Stable (P : Protocol σ κ Req) (i : ℕ) (Q : α → View σ κ Req → Prop) : Prop :=
  ∀ a v s, Q a v → P.Later i v.shared s → Q a (v.at s)

/-- A program that is safe now is safe after any pause. -/
theorem wp_later {Q : α → View σ κ Req → Prop} {E : ε → View σ κ Req → Prop}
    (hQ : P.Stable i Q) (hE : P.Stable i E) {p : Program σ κ ε α} :
    ∀ {v : View σ κ Req} {s : Shared σ κ Req}, P.wp i r Q E p v → P.Later i v.shared s →
      P.wp i r Q E p (v.at s) := by
  induction p with
  | pure a => intro v s h hs; exact hQ a v s h hs
  | throw e => intro v s h hs; exact hE e v s h hs
  | now k ih => intro v s h hs s' hs'; exact h s' (hs.trans hs')
  | read k ih => intro v s h hs s' hs'; exact h s' (hs.trans hs')
  | lock key k ih => intro v s h hs s' hs' ha; exact h s' (hs.trans hs') ha
  | tryLock key k busy ih ihb => intro v s h hs s' hs'; exact h s' (hs.trans hs')
  | nextval k ih => intro v s h hs s' hs'; exact h s' (hs.trans hs')
  | choose k ih => intro v s h hs n; exact ih n (h n) hs
  | write f next ih => intro v s h hs; exact ih (v := { v with pending := f ∘ v.pending }) h hs
  | commit next ih => intro v s h hs s' hs'; exact h s' (hs.trans hs')
  | rollback next ih => intro v s h hs s' hs'; exact h s' (hs.trans hs')

/-! ## Soundness -/

variable (P)

/-- What holds of every reachable configuration. -/
structure Sound (Q : ℕ → Req → ρ → View σ κ Req → Prop) (E : ℕ → Req → ε → View σ κ Req → Prop)
    (c : Config σ κ ε ρ Req) : Prop where
  /-- The invariant. -/
  inv : P.Inv c.shared
  /-- Only existing sessions have left traces. -/
  fresh : ∀ i, c.sessions.length ≤ i → c.shared.Fresh i
  /-- The rest of every program is safe. -/
  safe : ∀ i u p, c.sessions[i]? = some u → u.program = some p →
    P.wp i u.request (Q i u.request) (E i u.request) p ⟨c.shared, u.pending, u.snapshot⟩

variable {P}

variable {Q : ℕ → Req → ρ → View σ κ Req → Prop} {E : ℕ → Req → ε → View σ κ Req → Prop}

private theorem fresh_acquire {s : Shared σ κ Req} {i j : ℕ} (hij : j ≠ i) {key : κ}
    (h : s.Fresh j) : (s.acquire i key).Fresh j := by
  refine ⟨fun k ↦ ?_, h.minted, h.history⟩
  simp only [Shared.acquire]
  split
  · exact fun he ↦ hij (Option.some.inj he).symm
  · exact h.holder k

omit [DecidableEq κ] in
private theorem fresh_release {s : Shared σ κ Req} {i j : ℕ} (h : s.Fresh j) :
    (s.release i).Fresh j := by
  refine ⟨fun k ↦ ?_, h.minted, h.history⟩
  simp only [Shared.release, Shared.holderWithout]
  split
  · exact fun he ↦ Option.some_ne_none _ he.symm
  · exact h.holder k

omit [DecidableEq κ] in
private theorem fresh_mint {s : Shared σ κ Req} {i j : ℕ} (hij : j ≠ i) (h : s.Fresh j) :
    (s.mint i).Fresh j := by
  refine ⟨h.holder, ?_, h.history⟩
  simp only [Shared.mint, List.mem_append, List.mem_singleton, not_or]
  exact ⟨h.minted, fun he ↦ hij (Option.some.inj he)⟩

omit [DecidableEq κ] in
private theorem fresh_commit {s : Shared σ κ Req} {i j : ℕ} (hij : j ≠ i) {r : Req} {snap : σ}
    {w : σ → σ} (h : s.Fresh j) : (s.commit i r snap w).Fresh j := by
  refine ⟨(fresh_release (i := i) h).holder, h.minted, fun e he ↦ ?_⟩
  simp only [Shared.commit, List.mem_append, List.mem_singleton] at he
  rcases he with he | rfl
  · exact h.history e he
  · exact Ne.symm hij

/-- One statement: the invariant survives, the other sessions are within what they rely on, and
the rest of the program is safe. -/
private theorem execute_sound {i n : ℕ} {s s' : Shared σ κ Req} {u u' : Session σ κ ε ρ Req}
    {p : Program σ κ ε ρ} (hinv : P.Inv s)
    (hp : P.wp i u.request (Q i u.request) (E i u.request) p ⟨s, u.pending, u.snapshot⟩)
    (he : execute i n s u p = some (s', u')) :
    P.Inv s' ∧ (∀ j, j ≠ i → P.Rely j s s') ∧ (∀ j, j ≠ i → s.Fresh j → s'.Fresh j) ∧
      u'.request = u.request ∧ ∃ p', u'.program = some p' ∧
        P.wp i u.request (Q i u.request) (E i u.request) p' ⟨s', u'.pending, u'.snapshot⟩ := by
  have hnow : P.Later i s s := Later.refl hinv
  have hsame : ∀ j, j ≠ i → P.Rely j s s := fun j _ ↦ P.rely_refl j s
  cases p with
  | pure a => simp [execute] at he
  | throw e => simp [execute] at he
  | now k =>
    obtain ⟨rfl, rfl⟩ := Prod.mk.inj (Option.some.inj he)
    exact ⟨hinv, hsame, fun _ _ h ↦ h, rfl, _, rfl, hp s hnow⟩
  | read k =>
    obtain ⟨rfl, rfl⟩ := Prod.mk.inj (Option.some.inj he)
    exact ⟨hinv, hsame, fun _ _ h ↦ h, rfl, _, rfl, hp s hnow⟩
  | lock key k =>
    simp only [execute] at he
    split at he
    next ha =>
      obtain ⟨rfl, rfl⟩ := Prod.mk.inj (Option.some.inj he)
      -- taking a free lock changes nothing that another session relies on
      obtain ⟨hinv', hrely⟩ := P.quiet i _ _ (.acquire ha) hinv
      exact ⟨hinv', hrely, fun _ hj h ↦ fresh_acquire hj h, rfl, _, rfl, hp s hnow ha⟩
    next => exact absurd he (by simp)
  | tryLock key k busy =>
    simp only [execute] at he
    split at he
    next ha =>
      obtain ⟨rfl, rfl⟩ := Prod.mk.inj (Option.some.inj he)
      obtain ⟨hinv', hrely⟩ := P.quiet i _ _ (.acquire ha) hinv
      exact ⟨hinv', hrely, fun _ hj h ↦ fresh_acquire hj h, rfl, _, rfl, (hp s hnow).1 ha⟩
    next ha =>
      obtain ⟨rfl, rfl⟩ := Prod.mk.inj (Option.some.inj he)
      exact ⟨hinv, hsame, fun _ _ h ↦ h, rfl, _, rfl, (hp s hnow).2 ha⟩
  | nextval k =>
    obtain ⟨rfl, rfl⟩ := Prod.mk.inj (Option.some.inj he)
    obtain ⟨hinv', hrely⟩ := P.quiet i _ _ .mint hinv
    exact ⟨hinv', hrely, fun _ hj h ↦ fresh_mint hj h, rfl, _, rfl, hp s hnow⟩
  | choose k =>
    obtain ⟨rfl, rfl⟩ := Prod.mk.inj (Option.some.inj he)
    exact ⟨hinv, hsame, fun _ _ h ↦ h, rfl, _, rfl, hp n⟩
  | write f next =>
    obtain ⟨rfl, rfl⟩ := Prod.mk.inj (Option.some.inj he)
    exact ⟨hinv, hsame, fun _ _ h ↦ h, rfl, _, rfl, hp⟩
  | commit next =>
    obtain ⟨rfl, rfl⟩ := Prod.mk.inj (Option.some.inj he)
    obtain ⟨hinv', hrely, hnext⟩ := hp s hnow
    exact ⟨hinv', hrely, fun _ hj h ↦ fresh_commit hj h, rfl, _, rfl, hnext⟩
  | rollback next =>
    obtain ⟨rfl, rfl⟩ := Prod.mk.inj (Option.some.inj he)
    obtain ⟨hinv', hrely⟩ := P.quiet i _ _ .release hinv
    exact ⟨hinv', hrely, fun _ _ h ↦ fresh_release h, rfl, _, rfl, hp s hnow⟩

/-- The other sessions after session `i` has moved. -/
private theorem safe_others {c : Config σ κ ε ρ Req} {s' : Shared σ κ Req} {i : ℕ}
    (hQ : ∀ i r, P.Stable i (Q i r)) (hE : ∀ i r, P.Stable i (E i r)) (hc : P.Sound Q E c)
    (hinv : P.Inv s') (hrely : ∀ j, j ≠ i → P.Rely j c.shared s') {j : ℕ} (hj : j ≠ i)
    {u : Session σ κ ε ρ Req} {p : Program σ κ ε ρ} (hu : c.sessions[j]? = some u)
    (hp : u.program = some p) :
    P.wp j u.request (Q j u.request) (E j u.request) p ⟨s', u.pending, u.snapshot⟩ :=
  wp_later (hQ j _) (hE j _) (hc.safe j u p hu hp) ⟨hrely j hj, hinv⟩

private theorem step_sound {program : Req → Program σ κ ε ρ}
    (hQ : ∀ i r, P.Stable i (Q i r)) (hE : ∀ i r, P.Stable i (E i r))
    (hstart : ∀ i r s, P.Inv s → s.Fresh i →
      P.wp i r (Q i r) (E i r) (program r) ⟨s, id, s.store⟩)
    {c c' : Config σ κ ε ρ Req} {a : Action Req} (hc : P.Sound Q E c)
    (h : step program c a = some c') : P.Sound Q E c' := by
  cases a with
  | start r =>
    obtain rfl := Option.some.inj h
    refine ⟨hc.inv, fun i hi ↦ hc.fresh i ?_, fun i u p hu hp ↦ ?_⟩
    · simp only [List.length_append, List.length_singleton] at hi
      omega
    · rcases Nat.lt_trichotomy i c.sessions.length with hi | rfl | hi
      · rw [List.getElem?_append_left hi] at hu
        exact hc.safe i u p hu hp
      · rw [List.getElem?_concat_length, Option.some.injEq] at hu
        subst hu
        obtain rfl := Option.some.inj hp
        exact hstart _ r _ hc.inv (hc.fresh _ le_rfl)
      · rw [List.getElem?_eq_none (by simp; omega)] at hu
        exact absurd hu (by simp)
  | run i n =>
    simp only [step, Option.bind_eq_bind, Option.bind_eq_some_iff] at h
    obtain ⟨u, hu, p, hp, ⟨s', u'⟩, he, hc'⟩ := h
    obtain rfl := Option.some.inj hc'
    obtain ⟨hinv, hrely, hfresh, hreq, p', hp', hwp⟩ :=
      execute_sound hc.inv (hc.safe i u p hu hp) he
    have hi : i < c.sessions.length := (List.getElem?_eq_some_iff.mp hu).1
    refine ⟨hinv, fun j hj ↦ ?_, fun j v q hv hq ↦ ?_⟩
    · rw [List.length_set] at hj
      exact hfresh j (by omega) (hc.fresh j hj)
    · by_cases hij : j = i
      · subst hij
        rw [List.getElem?_set_self hi, Option.some.injEq] at hv
        subst hv
        rw [hp', Option.some.injEq] at hq
        subst hq
        rw [hreq]
        exact hwp
      · rw [List.getElem?_set_ne (Ne.symm hij)] at hv
        -- the others rely on what this statement may change
        exact safe_others hQ hE hc hinv hrely hij hv hq
  | tick t =>
    simp only [step] at h
    split at h
    next ht =>
      obtain rfl := Option.some.inj h
      obtain ⟨hinv, hrely⟩ := P.tick _ t ht hc.inv
      refine ⟨hinv, fun i hi ↦ ?_, fun i u p hu hp ↦ ?_⟩
      · exact ⟨(hc.fresh i hi).holder, (hc.fresh i hi).minted, (hc.fresh i hi).history⟩
      · exact wp_later (hQ i _) (hE i _) (hc.safe i u p hu hp) ⟨hrely i, hinv⟩
    next => exact absurd h (by simp)
  | crash i =>
    simp only [step, Option.bind_eq_bind, Option.bind_eq_some_iff] at h
    obtain ⟨u, hu, hc'⟩ := h
    obtain rfl := Option.some.inj hc'
    obtain ⟨hinv, hrely⟩ := P.quiet i _ _ .release hc.inv
    have hi : i < c.sessions.length := (List.getElem?_eq_some_iff.mp hu).1
    refine ⟨hinv, fun j hj ↦ ?_, fun j v q hv hq ↦ ?_⟩
    · rw [List.length_set] at hj
      exact fresh_release (hc.fresh j hj)
    · by_cases hij : j = i
      · subst hij
        rw [List.getElem?_set_self hi, Option.some.injEq] at hv
        subst hv
        exact absurd hq (by simp)
      · rw [List.getElem?_set_ne (Ne.symm hij)] at hv
        exact safe_others hQ hE hc hinv hrely hij hv hq

/-- **Soundness.** If every request's program is safe from every state of the invariant, every
reachable configuration is sound. -/
theorem sound {program : Req → Program σ κ ε ρ}
    (hQ : ∀ i r, P.Stable i (Q i r)) (hE : ∀ i r, P.Stable i (E i r))
    (hstart : ∀ i r s, P.Inv s → s.Fresh i →
      P.wp i r (Q i r) (E i r) (program r) ⟨s, id, s.store⟩)
    {store : σ} {clock : ℤ} {n : ℕ}
    (hinit : P.Inv (Config.initial (ε := ε) (ρ := ρ) store clock n).shared)
    {c : Config σ κ ε ρ Req} (hc : Reaches program (Config.initial store clock n) c) :
    P.Sound Q E c := by
  induction hc with
  | refl =>
    refine ⟨hinit, fun i _ ↦ ⟨fun k ↦ ?_, ?_, ?_⟩, fun i u p hu _ ↦ ?_⟩
    · simp [Config.initial]
    · simp [Config.initial]
    · simp [Config.initial]
    · simp [Config.initial] at hu
  | step a _ h ih => exact step_sound hQ hE hstart ih h

-- Once `sound` has connected programs and runs, proofs go by the rules.
attribute [irreducible] wp

end Protocol

end RowLock
