import Nayasetu.RowLock.Discipline

/-!
# Attempts

A transaction that fails has changed nothing. `Discipline.Attempt` follows a program up to its
commit and remembers that it has not committed yet, so that its errors leave no trace;
`Discipline.Serves` follows a whole program, which fails only without having committed.
`Discipline.served` carries this to the runs.

The distinction matters for errors. Before its commit a transaction may fail at any statement, and
whoever called it is told so; behind the commit nothing may fail any more, or the caller would be
told of a failure that has taken effect. `Attempt` therefore carries a postcondition for the point
before the commit, and `Serves` and `Answers` are what is said of a program from its start to its
end.
-/

namespace RowLock.Discipline

variable {σ κ ε α β ρ Req : Type} [DecidableEq κ]

/-- The session has committed nothing. -/
def Uncommitted (i : ℕ) (v : View σ κ Req) : Prop := v.shared.commitsOf i = []

/-- Before its commit: the program goes on to `Q`, or fails as `E` allows. -/
def Attempt (D : Discipline σ κ Req) (i : ℕ) (r : Req) (Q : α → View σ κ Req → Prop) (E : ε → Prop)
    (p : Program σ κ ε α) (v : View σ κ Req) : Prop :=
  Uncommitted i v → D.toProtocol.wp i r (fun a w ↦ Uncommitted i w ∧ Q a w)
    (fun e w ↦ Uncommitted i w ∧ E e) p v

/-- A whole program, which fails as `E` allows and only without having committed. -/
def Serves (D : Discipline σ κ Req) (i : ℕ) (r : Req) (E : ε → Prop) (p : Program σ κ ε α)
    (v : View σ κ Req) : Prop :=
  Uncommitted i v → D.toProtocol.wp i r (fun _ _ ↦ True) (fun e w ↦ Uncommitted i w ∧ E e) p v

/-- A whole program that ends as `Q` says, or fails as `E` allows without having committed. -/
def Answers (D : Discipline σ κ Req) (i : ℕ) (r : Req) (Q : α → View σ κ Req → Prop) (E : ε → Prop)
    (p : Program σ κ ε α) (v : View σ κ Req) : Prop :=
  Uncommitted i v → D.toProtocol.wp i r Q (fun e w ↦ Uncommitted i w ∧ E e) p v

variable {D : Discipline σ κ Req} {i : ℕ} {r : Req} {v w : View σ κ Req} {E : ε → Prop}

omit [DecidableEq κ] in
theorem Onward.uncommitted (h : D.Onward i v w) (hv : Uncommitted i v) : Uncommitted i w :=
  h.since.commits.trans hv

omit [DecidableEq κ] in
theorem Onward.refl (h : D.Inv v.shared) : D.Onward i v v := ⟨.refl _, h, rfl⟩

/-! ## Rules

One rule for each statement and each way of putting programs together. A rule for a statement that
may wait hands on a later view and how it is related to the earlier one (`Onward`).
-/

section Rules

variable {Q : α → View σ κ Req → Prop}

theorem attempt_pure {a : α} (h : Q a v) : D.Attempt i r Q E (pure a) v :=
  fun hv ↦ Protocol.wp_pure ⟨hv, h⟩

theorem attempt_throw {e : ε} (h : E e) : D.Attempt i r Q E (throw e) v :=
  fun hv ↦ Protocol.wp_throw ⟨hv, h⟩

theorem attempt_mono {Q' : α → View σ κ Req → Prop} {E' : ε → Prop} {p : Program σ κ ε α}
    (hQ : ∀ a w, Q a w → Q' a w) (hE : ∀ e, E e → E' e) (h : D.Attempt i r Q E p v) :
    D.Attempt i r Q' E' p v :=
  fun hv ↦ Protocol.wp_mono (fun a w hw ↦ ⟨hw.1, hQ a w hw.2⟩)
    (fun e _ hw ↦ ⟨hw.1, hE e hw.2⟩) (h hv)

theorem attempt_bind {Q : β → View σ κ Req → Prop} {p : Program σ κ ε α} {f : α → Program σ κ ε β}
    (h : D.Attempt i r (fun a w ↦ D.Attempt i r Q E (f a) w) E p v) :
    D.Attempt i r Q E (p >>= f) v :=
  fun hv ↦ Protocol.wp_bind (Protocol.wp_mono (fun _ _ hw ↦ hw.2 hw.1) (fun _ _ hw ↦ hw) (h hv))

/-- Two branches that go on alike from what they establish. -/
theorem attempt_ite_bind {Q : β → View σ κ Req → Prop} {condition : Prop} [Decidable condition]
    {p q : Program σ κ ε α} {f : α → Program σ κ ε β} (R : α → View σ κ Req → Prop)
    (hp : condition → D.Attempt i r R E p v) (hq : ¬ condition → D.Attempt i r R E q v)
    (hf : ∀ a w, R a w → D.Attempt i r Q E (f a) w) :
    D.Attempt i r Q E (if condition then p >>= f else q >>= f) v := by
  by_cases h : condition
  · rw [if_pos h]
    exact attempt_bind (attempt_mono hf (fun _ he ↦ he) (hp h))
  · rw [if_neg h]
    exact attempt_bind (attempt_mono hf (fun _ he ↦ he) (hq h))

theorem attempt_tryCatch {E' : ε → Prop} {p : Program σ κ ε α} {handler : ε → Program σ κ ε α}
    (hcatch : ∀ e w, E' e → D.Attempt i r Q E (handler e) w) (h : D.Attempt i r Q E' p v) :
    D.Attempt i r Q E (tryCatch p handler) v :=
  fun hv ↦ Protocol.wp_tryCatch
    (Protocol.wp_mono (fun _ _ hw ↦ hw) (fun e w hw ↦ hcatch e w hw.2 hw.1) (h hv))

theorem attempt_fromExcept {x : Except ε α} (hok : ∀ a, x = .ok a → Q a v)
    (herror : ∀ e, x = .error e → E e) : D.Attempt i r Q E (fromExcept x) v :=
  fun hv ↦ Protocol.wp_fromExcept (fun a ha ↦ ⟨hv, hok a ha⟩) fun e he ↦ ⟨hv, herror e he⟩

theorem attempt_write {f : σ → σ} {Q : Unit → View σ κ Req → Prop}
    (h : Q () { v with pending := f ∘ v.pending }) : D.Attempt i r Q E (write f) v :=
  fun hv ↦ Protocol.wp_write ⟨hv, h⟩

theorem attempt_choose {Q : ℕ → View σ κ Req → Prop} (h : ∀ n, Q n v) :
    D.Attempt i r Q E choose v :=
  fun hv ↦ Protocol.wp_choose fun n ↦ ⟨hv, h n⟩

theorem attempt_now {Q : ℤ → View σ κ Req → Prop}
    (h : ∀ w, D.Onward i v w → Q w.shared.clock w) : D.Attempt i r Q E now v :=
  fun hv ↦ wp_now fun w hw ↦ ⟨hw.uncommitted hv, h w hw⟩

theorem attempt_snapshot {Q : σ → View σ κ Req → Prop}
    (h : ∀ w, D.Onward i v w → w.snapshot = w.shared.store → Q (v.pending w.shared.store) w) :
    D.Attempt i r Q E snapshot v :=
  fun hv ↦ wp_snapshot fun w hw hsnap ↦ ⟨hw.uncommitted hv, h w hw hsnap⟩

theorem attempt_lock {key : κ} {Q : σ → View σ κ Req → Prop}
    (h : ∀ w, D.Onward i v w → w.snapshot = v.snapshot → w.shared.holder key = some i →
      Q (v.pending w.shared.store) w) :
    D.Attempt i r Q E (lock key) v :=
  fun hv ↦ Protocol.wp_lock fun _ hs ha ↦
    have hw := onward_acquire hs ha
    ⟨hw.uncommitted hv, h _ hw rfl (if_pos rfl)⟩

theorem attempt_tryLock {key : κ} {Q : Option σ → View σ κ Req → Prop}
    (h : ∀ w, D.Onward i v w → w.snapshot = v.snapshot → w.shared.holder key = some i →
      Q (some (v.pending w.shared.store)) w)
    (hbusy : ∀ w, D.Onward i v w → w.snapshot = v.snapshot → w.shared.Touched key → Q none w) :
    D.Attempt i r Q E (tryLock key) v :=
  fun hv ↦ Protocol.wp_tryLock
    (fun _ hs ha ↦
      have hw := onward_acquire hs ha
      ⟨hw.uncommitted hv, h _ hw rfl (if_pos rfl)⟩)
    fun _ hs ha ↦
      have hw := onward_of_later hs
      ⟨hw.uncommitted hv, hbusy _ hw rfl (.inl fun hnone ↦ ha (.inl hnone))⟩

theorem attempt_nextval {Q : ℕ → View σ κ Req → Prop}
    (h : ∀ w (n : ℕ), D.Onward i v w → w.snapshot = v.snapshot →
      w.shared.minted[n]? = some (some i) → D.Unused n w.shared.store → Q n w) :
    D.Attempt i r Q E nextval v :=
  fun hv ↦ Protocol.wp_nextval fun s hs ↦
    have hw := onward_mint hs
    ⟨hw.uncommitted hv, h _ _ hw rfl List.getElem?_concat_length
      (D.unused_of_inv s _ hs.inv le_rfl)⟩

/-- The number drawn is the last one so far. -/
theorem attempt_nextval_last {Q : ℕ → View σ κ Req → Prop}
    (h : ∀ w (n : ℕ), D.Onward i v w → w.shared.minted[n]? = some (some i) →
      w.shared.minted.length = n + 1 → D.Unused n w.shared.store → Q n w) :
    D.Attempt i r Q E nextval v :=
  fun hv ↦ Protocol.wp_nextval fun s hs ↦
    have hw := onward_mint hs
    ⟨hw.uncommitted hv, h _ _ hw List.getElem?_concat_length List.length_append
      (D.unused_of_inv s _ hs.inv le_rfl)⟩

theorem attempt_selectForUpdate {key : κ} {row : σ → Option β}
    {Q : Option β → View σ κ Req → Prop}
    (hnone : ∀ w, D.Onward i v w → row (v.pending w.shared.store) = none → Q none w)
    (hsome : ∀ w b, D.Onward i v w → w.shared.holder key = some i →
      row (v.pending w.shared.store) = some b → Q (some b) w) :
    D.Attempt i r Q E (selectForUpdate key row) v :=
  fun hv ↦ wp_selectForUpdate (fun w hw hrow ↦ ⟨hw.uncommitted hv, hnone w hw hrow⟩)
    fun w b hw hkey hrow ↦ ⟨hw.uncommitted hv, hsome w b hw hkey hrow⟩

/-- A row that is already under the session's lock is there in the snapshot as well as after the
lock. -/
theorem attempt_selectForUpdate_held {key : κ} {row : σ → Option β} {b : β}
    {Q : Option β → View σ κ Req → Prop}
    (hrow : ∀ w, D.Onward i v w → row (v.pending w.shared.store) = some b)
    (h : ∀ w, D.Onward i v w → Q (some b) w) :
    D.Attempt i r Q E (selectForUpdate key row) v :=
  attempt_selectForUpdate (fun w hw hnone ↦ absurd (hnone.symm.trans (hrow w hw)) (by simp))
    fun w b' hw _ hsome ↦ by
      obtain rfl := Option.some.inj (hsome.symm.trans (hrow w hw))
      exact h w hw

theorem attempt_updateRow {key : κ} {matches? : σ → Bool} {f : σ → σ}
    {Q : ℕ → View σ κ Req → Prop}
    (hzero : ∀ w s, D.Onward i v w → D.Since i v.shared s → D.Since i s w.shared →
      matches? (v.pending s.store) = false → Q 0 w)
    (hone : ∀ w, D.Onward i v w → w.shared.holder key = some i →
      Q 1 { w with pending := f ∘ v.pending }) :
    D.Attempt i r Q E (updateRow key matches? f) v := by
  refine attempt_bind (attempt_snapshot fun w₁ hw₁ _ ↦ ?_)
  cases h₁ : matches? (v.pending w₁.shared.store) with
  | false => exact attempt_pure (hzero w₁ w₁.shared hw₁ hw₁.since (.refl _) h₁)
  | true =>
    refine attempt_bind (attempt_lock fun w₂ hw₂ _ hlock ↦ ?_)
    have hw := hw₁.trans hw₂
    cases h₂ : matches? (w₁.pending w₂.shared.store) with
    | false => exact attempt_pure (hzero w₂ w₂.shared hw hw.since (.refl _) (hw₁.pending ▸ h₂))
    | true =>
      refine attempt_bind (attempt_write (attempt_pure ?_))
      rw [hw.pending]
      exact hone w₂ hw hlock

theorem serves_pure {a : α} : D.Serves i r E (pure a : Program σ κ ε α) v :=
  fun _ ↦ Protocol.wp_pure trivial

theorem serves_throw {e : ε} (h : E e) : D.Serves i r E (throw e : Program σ κ ε α) v :=
  fun hv ↦ Protocol.wp_throw ⟨hv, h⟩

theorem serves_bind {p : Program σ κ ε α} {f : α → Program σ κ ε β}
    (h : D.Attempt i r (fun a w ↦ D.Serves i r E (f a) w) E p v) : D.Serves i r E (p >>= f) v :=
  fun hv ↦ Protocol.wp_bind (Protocol.wp_mono (fun _ _ hw ↦ hw.2 hw.1) (fun _ _ hw ↦ hw) (h hv))

/-- What a program does with its result afterwards does not matter. -/
theorem serves_map {p : Program σ κ ε α} {f : α → β} (h : D.Serves i r E p v) :
    D.Serves i r E (p >>= fun a ↦ pure (f a)) v :=
  fun hv ↦ Protocol.wp_bind
    (Protocol.wp_mono (fun _ _ _ ↦ Protocol.wp_pure trivial) (fun _ _ hw ↦ hw) (h hv))

theorem answers_of_serves {p : Program σ κ ε α} (hQ : ∀ a w, Q a w) (h : D.Serves i r E p v) :
    D.Answers i r Q E p v :=
  fun hv ↦ Protocol.wp_mono (fun a w _ ↦ hQ a w) (fun _ _ hw ↦ hw) (h hv)

theorem answers_throw {e : ε} (h : E e) : D.Answers i r Q E (throw e) v :=
  fun hv ↦ Protocol.wp_throw ⟨hv, h⟩

theorem answers_bind {Q : β → View σ κ Req → Prop} {p : Program σ κ ε α} {f : α → Program σ κ ε β}
    (h : D.Attempt i r (fun a w ↦ D.Answers i r Q E (f a) w) E p v) :
    D.Answers i r Q E (p >>= f) v :=
  fun hv ↦ Protocol.wp_bind (Protocol.wp_mono (fun _ _ hw ↦ hw.2 hw.1) (fun _ _ hw ↦ hw) (h hv))

theorem answers_map {Q : β → View σ κ Req → Prop} {p : Program σ κ ε α} {f : α → β}
    (h : D.Answers i r (fun a w ↦ Q (f a) w) E p v) :
    D.Answers i r Q E (p >>= fun a ↦ pure (f a)) v := by
  refine fun hv ↦ Protocol.wp_bind (Protocol.wp_mono (fun a w hw ↦ ?_) (fun _ _ hw ↦ hw) (h hv))
  exact Protocol.wp_pure (Q := Q) hw

end Rules

/-! ## Runs

The walks of all programs together give an invariant of every reachable configuration, what is
right of every answer given in it, and that sessions which have failed have committed nothing.
-/

/-- If every program answers its request, the invariant holds in every reachable configuration, the
answers given are right, and a session that has failed has committed nothing and failed as its
request allows. -/
theorem answered_each {E : Req → ε → Prop} {Q : ℕ → Req → ρ → View σ κ Req → Prop}
    {program : Req → Program σ κ ε ρ} (hQ : ∀ i r, D.toProtocol.Stable i (Q i r))
    (h : ∀ i r s, D.Inv s → D.Answers i r (Q i r) (E r) (program r) ⟨s, id, s.store⟩)
    {store : σ} {clock : ℤ} {n : ℕ}
    (hinit : D.Inv (Config.initial (ε := ε) (ρ := ρ) store clock n).shared)
    {c : Config σ κ ε ρ Req} (hc : Reaches program (Config.initial store clock n) c) :
    D.Inv c.shared ∧
      (∀ i u a, c.sessions[i]? = some u → u.program = some (.pure a) →
        Q i u.request a ⟨c.shared, u.pending, u.snapshot⟩) ∧
      ∀ i u e, c.sessions[i]? = some u → u.program = some (.throw e) →
        c.shared.commitsOf i = [] ∧ E u.request e := by
  have hstable : ∀ i (r : Req), D.toProtocol.Stable i
      fun (e : ε) (w : View σ κ Req) ↦ Uncommitted i w ∧ E r e := by
    intro i r e w s he hs
    exact ⟨(Rely.commits hs.rely).trans he.1, he.2⟩
  have hsound : D.toProtocol.Sound Q (fun i r e w ↦ Uncommitted i w ∧ E r e) c := by
    refine Protocol.sound hQ hstable (fun i r s hs hfresh ↦ ?_) hinit hc
    refine h i r s hs ?_
    exact List.filter_eq_nil_iff.mpr fun e he ↦ by simpa using hfresh.history e he
  refine ⟨hsound.inv, fun i u a hu ha ↦ ?_, fun i u e hu he ↦ ?_⟩
  · exact Protocol.wp_pure_iff.mp (hsound.safe i u _ hu ha)
  · exact Protocol.wp_throw_iff.mp (hsound.safe i u _ hu he)

/-- The same where every request may fail alike. -/
theorem answered {Q : ℕ → Req → ρ → View σ κ Req → Prop} {program : Req → Program σ κ ε ρ}
    (hQ : ∀ i r, D.toProtocol.Stable i (Q i r))
    (h : ∀ i r s, D.Inv s → D.Answers i r (Q i r) E (program r) ⟨s, id, s.store⟩)
    {store : σ} {clock : ℤ} {n : ℕ}
    (hinit : D.Inv (Config.initial (ε := ε) (ρ := ρ) store clock n).shared)
    {c : Config σ κ ε ρ Req} (hc : Reaches program (Config.initial store clock n) c) :
    D.Inv c.shared ∧
      (∀ i u a, c.sessions[i]? = some u → u.program = some (.pure a) →
        Q i u.request a ⟨c.shared, u.pending, u.snapshot⟩) ∧
      ∀ i u e, c.sessions[i]? = some u → u.program = some (.throw e) →
        c.shared.commitsOf i = [] ∧ E e :=
  answered_each (E := fun _ ↦ E) hQ h hinit hc

/-- If every program serves its request, the invariant holds in every reachable configuration, and
a session that has failed has committed nothing. -/
theorem served {program : Req → Program σ κ ε ρ}
    (h : ∀ i r s, D.Inv s → D.Serves i r E (program r) ⟨s, id, s.store⟩)
    {store : σ} {clock : ℤ} {n : ℕ}
    (hinit : D.Inv (Config.initial (ε := ε) (ρ := ρ) store clock n).shared)
    {c : Config σ κ ε ρ Req} (hc : Reaches program (Config.initial store clock n) c) :
    D.Inv c.shared ∧ ∀ i u e, c.sessions[i]? = some u → u.program = some (.throw e) →
      c.shared.commitsOf i = [] ∧ E e := by
  obtain ⟨hinv, -, herror⟩ :=
    answered (Q := fun _ _ _ _ ↦ True) (fun _ _ _ _ _ _ _ ↦ trivial) h hinit hc
  exact ⟨hinv, herror⟩

end RowLock.Discipline
