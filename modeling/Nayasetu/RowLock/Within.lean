import Nayasetu.RowLock.Attempt
import Nayasetu.RowLock.Tracing

/-!
# Programs on a part of the store

A program that only knows some of the tables runs unchanged on a store with more of them. `within`
moves it there, and what was proved of it about the stores it meets and the writes it commits comes
along: `traced_within`.

A session that is only known by its trace keeps to a discipline if its commits do:
`serves_of_traced`.

A part is given by how it is read and how it is changed, with the laws that make the two agree.
The writes of the moved program are changes of the part, and its lock keys are called by the names
they have in the larger program.
-/

namespace RowLock

variable {σ τ κ κ' ε α β Req : Type}

/-- A part of a store that can be read and changed by itself. -/
structure Part (τ σ : Type) where
  /-- Read the part. -/
  get : τ → σ
  /-- Change the part. -/
  modify : (σ → σ) → τ → τ
  get_modify : ∀ f t, get (modify f t) = f (get t)
  modify_id : modify id = id
  modify_comp : ∀ f g, modify (f ∘ g) = modify f ∘ modify g

namespace Program

/-- The program on the larger store, where the lock keys are called by `key`. -/
def within (part : Part τ σ) (key : κ → κ') : Program σ κ ε α → Program τ κ' ε α
  | .pure a => .pure a
  | .throw e => .throw e
  | .now k => .now fun t ↦ (k t).within part key
  | .read k => .read fun s ↦ (k (part.get s)).within part key
  | .lock name k => .lock (key name) fun s ↦ (k (part.get s)).within part key
  | .tryLock name k busy =>
    .tryLock (key name) (fun s ↦ (k (part.get s)).within part key) (busy.within part key)
  | .nextval k => .nextval fun n ↦ (k n).within part key
  | .choose k => .choose fun n ↦ (k n).within part key
  | .write f next => .write (part.modify f) (next.within part key)
  | .commit next => .commit (next.within part key)
  | .rollback next => .rollback (next.within part key)

/-- Run an operation between `BEGIN` and `COMMIT`, and roll back if anything fails. The operation
gets the time at which the transaction began. -/
def transaction (operation : ℤ → Program σ κ ε α) : Program σ κ ε α :=
  tryCatch
    (do
      let timestamp ← RowLock.now
      let result ← operation timestamp
      RowLock.commit
      return result)
    fun error ↦ do
      RowLock.rollback
      MonadExceptOf.throw error

end Program

section Within

variable {part : Part τ σ} {key : κ → κ'}

theorem within_fromExcept {x : Except ε α} :
    (fromExcept x : Program σ κ ε α).within part key = fromExcept x := by
  cases x <;> rfl

/-- The writes of a program on the larger store are those it makes, made to the part. -/
theorem writes_within {W : (σ → σ) → Prop} {W' : (τ → τ) → Prop}
    (hW : ∀ f, W f → W' (part.modify f))
    {p : Program σ κ ε α} (hp : p.Writes W) : (p.within part key).Writes W' := by
  induction p with
  | pure a | throw e => exact trivial
  | now k ih | nextval k ih | choose k ih => exact fun n ↦ ih n (hp n)
  | read k ih | lock name k ih => exact fun s ↦ ih _ (hp _)
  | tryLock name k busy ih ihb => exact ⟨fun s ↦ ih _ (hp.1 _), ihb hp.2⟩
  | write g next ih => exact ⟨hW g hp.1, ih hp.2⟩
  | commit next ih | rollback next ih => exact hp

end Within

section Traces

variable {part : Part τ σ} {key : κ → κ'} {C : Trace σ → Prop} {Q : α → Trace σ → Prop}
  {E : ε → Trace σ → Prop} {C' : Trace τ → Prop} {Q' : α → Trace τ → Prop} {E' : ε → Trace τ → Prop}

/-- What a session on the larger store has done, as far as the part is concerned. -/
structure Trace.Shows (part : Part τ σ) (v : Trace τ) (w : Trace σ) : Prop where
  pending : v.pending = part.modify w.pending
  met : w.met = v.met.map part.get
  begun : v.begun = w.begun
  clock : v.clock = w.clock
  committed : v.committed = w.committed

theorem Trace.Shows.meet {v : Trace τ} {w : Trace σ} (h : v.Shows part w) (s : τ) :
    (v.meet s).Shows part (w.meet (part.get s)) where
  pending := h.pending
  met := congrArg (part.get s :: ·) h.met
  begun := h.begun
  clock := h.clock
  committed := h.committed

theorem Trace.Shows.get {v : Trace τ} {w : Trace σ} (h : v.Shows part w) (s : τ) :
    part.get (v.pending s) = w.pending (part.get s) := by
  rw [h.pending, part.get_modify]

theorem traced_within (hC : ∀ v w, v.Shows part w → C w → C' v)
    (hQ : ∀ a v w, v.Shows part w → Q a w → Q' a v)
    (hE : ∀ e v w, v.Shows part w → E e w → E' e v) {p : Program σ κ ε α} :
    ∀ {v : Trace τ} {w : Trace σ}, v.Shows part w → p.Traced C Q E w →
      (p.within part key).Traced C' Q' E' v := by
  induction p with
  | pure a => exact fun h hp ↦ hQ a _ _ h hp
  | throw e => exact fun h hp ↦ hE e _ _ h hp
  | now k ih =>
    intro v w h hp t ht
    exact ih t (w := { w with clock := t }) ⟨h.pending, h.met, h.begun, rfl, h.committed⟩
      (hp t (h.clock ▸ ht))
  | read k ih | lock name k ih =>
    intro v w h hp s
    change ((k (part.get (v.pending s))).within part key).Traced C' Q' E' (v.meet s)
    rw [h.get]
    exact ih _ (h.meet s) (hp _)
  | tryLock name k busy ih ihb =>
    intro v w h hp
    refine ⟨fun s ↦ ?_, ihb h hp.2⟩
    change ((k (part.get (v.pending s))).within part key).Traced C' Q' E' (v.meet s)
    rw [h.get]
    exact ih _ (h.meet s) (hp.1 _)
  | nextval k ih | choose k ih => exact fun h hp n ↦ ih n h (hp n)
  | write f next ih =>
    intro v w h hp
    refine ih (w := w.write f) ⟨?_, h.met, h.begun, h.clock, h.committed⟩ hp
    change part.modify f ∘ v.pending = part.modify (f ∘ w.pending)
    rw [h.pending, part.modify_comp]
  | commit next ih =>
    intro v w h hp
    exact ⟨hC v w h hp.1,
      ih (w := w.commit) ⟨part.modify_id.symm, h.met, h.begun, h.clock, rfl⟩ hp.2⟩
  | rollback next ih =>
    intro v w h hp
    exact ih (w := w.rollback) ⟨part.modify_id.symm, h.met, h.begun, h.clock, h.committed⟩ hp

/-- A transaction commits what its operation has written, and gives up what it has written if the
operation fails. -/
theorem traced_transaction {operation : ℤ → Program σ κ ε α} {w : Trace σ}
    (h : ∀ t, w.clock ≤ t → (operation t).Traced C (fun a w' ↦ C w' ∧ Q a w'.commit)
      (fun e w' ↦ E e w'.rollback) { w with clock := t }) :
    (Program.transaction operation).Traced C Q E w := by
  refine traced_tryCatch (traced_bind (traced_now fun t ht ↦ traced_bind ?_))
  refine traced_mono (fun _ hw ↦ hw) (fun a w' hw' ↦ ?_) (fun e w' hw' ↦ ?_) (h t ht)
  · exact traced_bind (traced_commit hw'.1 (traced_pure hw'.2))
  · exact traced_bind (traced_rollback (traced_throw hw'))

end Traces

/-! ## Disciplines

From the trace of a session to its discipline: nothing is asked of it but that whatever it commits
may be committed in any state the discipline allows.
-/

section Disciplines

variable [DecidableEq κ] {D : Discipline σ κ Req} {i : ℕ} {r : Req} {C : Trace σ → Prop}
  {Q : α → Trace σ → Prop} {E : ε → Trace σ → Prop} {F : ε → Prop}

/-- A program whose commits may be made among the others serves its request. -/
theorem wp_of_traced {Q' : α → View σ κ Req → Prop} {E' : ε → View σ κ Req → Prop}
    (hcommit : ∀ w s snap, C w → D.Inv s → D.Inv (s.commit i r snap w.pending) ∧
      ∀ j, j ≠ i → D.Rely j s (s.commit i r snap w.pending))
    (hQ : ∀ a w v, Q a w → Q' a v) (hE : ∀ e w v, E e w → (w.committed = false →
      v.shared.commitsOf i = []) → E' e v) {p : Program σ κ ε α} :
    ∀ {w : Trace σ} {v : View σ κ Req}, w.pending = v.pending → w.clock ≤ v.shared.clock →
      (w.committed = false → v.shared.commitsOf i = []) → p.Traced C Q E w →
      D.toProtocol.wp i r Q' E' p v := by
  -- what the others do in between adds no commit of this session, and time goes on
  have hlater {s s' : Shared σ κ Req} (hs : D.toProtocol.Later i s s') {b : Bool}
      (hb : b = false → s.commitsOf i = []) : b = false → s'.commitsOf i = [] :=
    fun h ↦ (Discipline.Rely.commits hs.rely).trans (hb h)
  have hlate {s s' : Shared σ κ Req} (hs : D.toProtocol.Later i s s') {t : ℤ} (ht : t ≤ s.clock) :
      t ≤ s'.clock := Int.le_trans ht (Discipline.Rely.clock hs.rely)
  induction p with
  | pure a => exact fun _ _ _ hp ↦ Protocol.wp_pure (hQ a _ _ hp)
  | throw e => exact fun _ _ hnone hp ↦ Protocol.wp_throw (hE e _ _ hp hnone)
  | now k ih =>
    intro w v hpending ht hnone hp
    refine Protocol.wp_bind (p := now) (f := k) (Protocol.wp_now fun s hs ↦ ?_)
    exact ih _ (w := { w with clock := s.clock }) hpending (Int.le_refl _) (hlater hs hnone)
      (hp _ (hlate hs ht))
  | read k ih =>
    intro w v hpending ht hnone hp
    refine Protocol.wp_bind (p := snapshot) (f := k) (Protocol.wp_snapshot fun s hs ↦ ?_)
    have hclock := hlate hs ht
    exact ih _ (w := w.meet s.store) hpending hclock (hlater hs hnone)
      (hpending ▸ hp s.store)
  | lock key k ih =>
    intro w v hpending ht hnone hp
    refine Protocol.wp_bind (p := lock key) (f := k) (Protocol.wp_lock fun s hs _ ↦ ?_)
    have hclock := hlate hs ht
    exact ih _ (w := w.meet s.store) hpending hclock (hlater hs hnone)
      (hpending ▸ hp s.store)
  | tryLock key k busy ih ihb =>
    intro w v hpending ht hnone hp
    refine Protocol.wp_bind (p := tryLock key) (f := fun x ↦ x.elim busy k)
      (Protocol.wp_tryLock (fun s hs _ ↦ ?_) fun s hs _ ↦ ?_)
    · have hclock := hlate hs ht
      exact ih _ (w := w.meet s.store) hpending hclock (hlater hs hnone)
        (hpending ▸ hp.1 s.store)
    · have hclock := hlate hs ht
      exact ihb hpending hclock (hlater hs hnone) hp.2
  | nextval k ih =>
    intro w v hpending ht hnone hp
    refine Protocol.wp_bind (p := nextval) (f := k) (Protocol.wp_nextval fun s hs ↦ ?_)
    have hclock := hlate hs ht
    exact ih _ hpending hclock (hlater hs hnone) (hp _)
  | choose k ih =>
    intro w v hpending ht hnone hp
    refine Protocol.wp_bind (p := choose) (f := k) (Protocol.wp_choose fun n ↦ ?_)
    exact ih n hpending ht hnone (hp n)
  | write f next ih =>
    intro w v hpending ht hnone hp
    refine Protocol.wp_bind (p := write f) (f := fun _ ↦ next) (Protocol.wp_write ?_)
    exact ih (w := w.write f) (congrArg (f ∘ ·) hpending) ht hnone hp
  | commit next ih =>
    intro w v hpending ht hnone hp
    refine Protocol.wp_bind (p := commit) (f := fun _ ↦ next) (Protocol.wp_commit fun s hs ↦ ?_)
    obtain ⟨hinv, hrely⟩ := hcommit w s v.snapshot hp.1 hs.inv
    rw [hpending] at hinv hrely
    have hclock := hlate hs ht
    exact ⟨hinv, hrely, ih (w := w.commit) rfl hclock (fun h ↦ (nomatch h)) hp.2⟩
  | rollback next ih =>
    intro w v hpending ht hnone hp
    refine Protocol.wp_bind (p := rollback) (f := fun _ ↦ next) (Protocol.wp_rollback fun s hs ↦ ?_)
    have hclock := hlate hs ht
    exact ih (w := w.rollback) rfl hclock (hlater hs hnone) hp

/-- A view whose writes may be committed. -/
def MayCommit (D : Discipline σ κ Req) (i : ℕ) (r : Req) (w : View σ κ Req) : Prop :=
  ∀ s, D.Since i w.shared s → D.Inv s → D.Inv (s.commit i r w.snapshot w.pending) ∧
    ∀ j, j ≠ i → D.Rely j s (s.commit i r w.snapshot w.pending)

/-- A transaction ends as `Q` says if its operation does, once its writes are committed. -/
theorem answers_transaction {operation : ℤ → Program σ κ ε α} {Q : α → View σ κ Req → Prop}
    {v : View σ κ Req} (h : ∀ w, D.Onward i v w → D.Attempt i r (fun a w' ↦ MayCommit D i r w' ∧
      ∀ s, D.Since i w'.shared s → D.Inv s →
        Q a ⟨s.commit i r w'.snapshot w'.pending, id, w'.snapshot⟩) F
      (operation w.shared.clock) w) :
    D.Answers i r Q F (Program.transaction operation) v := by
  refine fun hv ↦ Protocol.wp_tryCatch (Protocol.wp_bind (Protocol.wp_now fun s hs ↦ ?_))
  have hw : D.Onward i v (v.at s) := ⟨Discipline.since_of_later hs, hs.inv, rfl⟩
  refine Protocol.wp_bind (Protocol.wp_mono (fun a w hw' ↦ ?_) (fun e w he ↦ ?_)
    (h (v.at s) hw (hw.uncommitted hv)))
  · refine Protocol.wp_bind (Protocol.wp_commit fun s' hs' ↦ ?_)
    have hsince := Discipline.since_of_later hs'
    obtain ⟨hinv, hrely⟩ := hw'.2.1 s' hsince hs'.inv
    exact ⟨hinv, hrely, Protocol.wp_pure (hw'.2.2 s' hsince hs'.inv)⟩
  · refine Protocol.wp_bind (Protocol.wp_rollback fun s' hs' ↦ Protocol.wp_throw ?_)
    exact ⟨(Discipline.since_of_later hs').commits.trans he.1, he.2⟩

theorem serves_transaction {operation : ℤ → Program σ κ ε α} {v : View σ κ Req}
    (h : ∀ w, D.Onward i v w → D.Attempt i r (fun _ w' ↦ MayCommit D i r w') F
      (operation w.shared.clock) w) :
    D.Serves i r F (Program.transaction operation) v :=
  answers_transaction fun w hw ↦ Discipline.attempt_mono (fun _ _ hw' ↦ ⟨hw', fun _ _ _ ↦ trivial⟩)
    (fun _ he ↦ he) (h w hw)

/-- So it does if it fails only without having committed. -/
theorem serves_of_traced {p : Program σ κ ε α} {v : View σ κ Req}
    (hcommit : ∀ w s snap, C w → D.Inv s → D.Inv (s.commit i r snap w.pending) ∧
      ∀ j, j ≠ i → D.Rely j s (s.commit i r snap w.pending))
    (hE : ∀ e w, E e w → w.committed = false ∧ F e) (hpending : v.pending = id)
    (hp : ∀ t, p.Traced C Q E (.start t)) : D.Serves i r F p v := fun hv ↦
  wp_of_traced hcommit (fun _ _ _ _ ↦ trivial)
    (fun e w _ he hnone ↦ ⟨hnone (hE e w he).1, (hE e w he).2⟩) hpending.symm (Int.le_refl _)
    (fun _ ↦ hv) (hp v.shared.clock)

end Disciplines

end RowLock
