import Nayasetu.RowLock.Program

/-!
# What a session has met

Whoever asks for permission first and acts later does so among others who change things in between.
What can be said of every interleaving, without knowing anything of the others, is what a session
has met: the stores its statements saw, each at some moment since it started.

`Program.Traced` walks through a program and lets every statement meet any store whatever. The walk
remembers what was met, so that a commit can be made to depend on it. `TracedRun` is what this comes
to in a run, and `exec_traced` says that it is what happens.

## What can be concluded

A session that is answered has met something, and whatever it has met was there at some moment
between its start and its answer (`Met.exists_moment`). If a property of the store, once true,
remains true, then it is enough that it was true when the session began: all the session has met
had it (`Follows.forall_met`). This is how what has been revoked is shown to count for nothing in
a request that starts later, and how what is on record is traced back to a moment at which it was
so.

Traces and disciplines are different views of one run. A trace knows what a session has seen and
nothing of what others leave alone; a discipline knows the latter and forgets the former.
-/

namespace RowLock

variable {σ κ ε α β ρ Req : Type}

/-- What a session has done so far. -/
structure Trace (σ : Type) where
  /-- Its uncommitted writes. -/
  pending : σ → σ
  /-- The stores its statements have met, the latest first. -/
  met : List σ
  /-- The time it started at. -/
  begun : ℤ
  /-- The latest time it knows of. -/
  clock : ℤ
  /-- Whether it has committed. -/
  committed : Bool

namespace Trace

/-- A session that starts at `clock`. -/
def start (clock : ℤ) : Trace σ := ⟨id, [], clock, clock, false⟩

/-- A statement meets a store. -/
def meet (s : σ) (w : Trace σ) : Trace σ := { w with met := s :: w.met }

/-- A statement writes. -/
def write (f : σ → σ) (w : Trace σ) : Trace σ := { w with pending := f ∘ w.pending }

/-- The transaction commits. -/
def commit (w : Trace σ) : Trace σ := { w with pending := id, committed := true }

/-- The transaction is rolled back. -/
def rollback (w : Trace σ) : Trace σ := { w with pending := id }

/-- The session goes on in the same transaction. -/
structure Onward (w w' : Trace σ) : Prop where
  met : w.met <:+ w'.met
  begun : w'.begun = w.begun
  clock : w.clock ≤ w'.clock
  committed : w'.committed = w.committed

theorem Onward.refl (w : Trace σ) : w.Onward w := ⟨List.suffix_refl _, rfl, Int.le_refl _, rfl⟩

theorem Onward.trans {w₁ w₂ w₃ : Trace σ} (h₁ : w₁.Onward w₂) (h₂ : w₂.Onward w₃) :
    w₁.Onward w₃ :=
  ⟨h₁.met.trans h₂.met, h₂.begun.trans h₁.begun, Int.le_trans h₁.clock h₂.clock,
    h₂.committed.trans h₁.committed⟩

theorem Onward.meet (s : σ) (w : Trace σ) : w.Onward (w.meet s) :=
  ⟨List.suffix_cons _ _, rfl, Int.le_refl _, rfl⟩

theorem Onward.write (f : σ → σ) (w : Trace σ) : w.Onward (w.write f) :=
  ⟨List.suffix_refl _, rfl, Int.le_refl _, rfl⟩

theorem Onward.now {w : Trace σ} {t : ℤ} (ht : w.clock ≤ t) : w.Onward { w with clock := t } :=
  ⟨List.suffix_refl _, rfl, ht, rfl⟩

theorem Onward.mem {w w' : Trace σ} (h : w.Onward w') {s : σ} (hs : s ∈ w.met) : s ∈ w'.met :=
  h.met.subset hs

/-- The session goes on, perhaps past the end of a transaction. -/
structure Since (w w' : Trace σ) : Prop where
  met : w.met <:+ w'.met
  begun : w'.begun = w.begun
  clock : w.clock ≤ w'.clock

theorem Since.refl (w : Trace σ) : w.Since w := ⟨List.suffix_refl _, rfl, Int.le_refl _⟩

theorem Since.trans {w₁ w₂ w₃ : Trace σ} (h₁ : w₁.Since w₂) (h₂ : w₂.Since w₃) : w₁.Since w₃ :=
  ⟨h₁.met.trans h₂.met, h₂.begun.trans h₁.begun, Int.le_trans h₁.clock h₂.clock⟩

theorem Onward.since {w w' : Trace σ} (h : w.Onward w') : w.Since w' := ⟨h.met, h.begun, h.clock⟩

end Trace

/-! ## The walk

Every statement may meet any store, at any time not earlier than the last one the session knows
of. A commit has to satisfy `C` of the trace that leads up to it.
-/

namespace Program

/-- Whatever stores the program meets, it commits only as `C` allows, and ends in `Q` or, with an
error, in `E`. -/
def Traced (C : Trace σ → Prop) (Q : α → Trace σ → Prop) (E : ε → Trace σ → Prop) :
    Program σ κ ε α → Trace σ → Prop
  | .pure a, w => Q a w
  | .throw e, w => E e w
  | .now k, w => ∀ t, w.clock ≤ t → (k t).Traced C Q E { w with clock := t }
  | .read k, w => ∀ s, (k (w.pending s)).Traced C Q E (w.meet s)
  | .lock _ k, w => ∀ s, (k (w.pending s)).Traced C Q E (w.meet s)
  | .tryLock _ k busy, w =>
    (∀ s, (k (w.pending s)).Traced C Q E (w.meet s)) ∧ busy.Traced C Q E w
  | .nextval k, w => ∀ n, (k n).Traced C Q E w
  | .choose k, w => ∀ n, (k n).Traced C Q E w
  | .write f next, w => next.Traced C Q E (w.write f)
  | .commit next, w => C w ∧ next.Traced C Q E w.commit
  | .rollback next, w => next.Traced C Q E w.rollback

end Program

/-! ## More programs by their writes

A program is traced by what it writes where nothing else is asked of it: whatever it meets, its
writes are of the class, and it commits none of them by itself.
-/

section Writes

variable {W : (σ → σ) → Prop} {p : Program σ κ ε α}

theorem writes_attempt {ε' : Type} (hp : p.Writes W) :
    (p.attempt : Program σ κ ε' (Except ε α)).Writes W := by
  induction p with
  | pure a | throw e => exact trivial
  | now k ih | nextval k ih | choose k ih => exact fun n ↦ ih n (hp n)
  | read k ih | lock key k ih => exact fun s ↦ ih s (hp s)
  | tryLock key k busy ih ihb => exact ⟨fun s ↦ ih s (hp.1 s), ihb hp.2⟩
  | write g next ih => exact ⟨hp.1, ih hp.2⟩
  | commit next ih | rollback next ih => exact hp

theorem writes_tryCatch {handler : ε → Program σ κ ε α} (hp : p.Writes W)
    (hhandler : ∀ e, (handler e).Writes W) : (tryCatch p handler).Writes W := by
  refine writes_bind (writes_attempt hp) fun x ↦ ?_
  cases x with
  | ok a => exact writes_pure
  | error e => exact hhandler e

theorem writes_updateRow {key : κ} {matches? : σ → Bool} {f : σ → σ} (h : W f) :
    (updateRow key matches? f : Program σ κ ε ℕ).Writes W := by
  refine writes_bind writes_snapshot fun _ ↦ writes_ite writes_pure ?_
  refine writes_bind writes_lock fun _ ↦ writes_ite writes_pure ?_
  exact writes_bind (writes_write h) fun _ ↦ writes_pure

end Writes

section Rules

variable {C C' : Trace σ → Prop} {Q Q' : α → Trace σ → Prop} {E E' : ε → Trace σ → Prop}
  {w : Trace σ}

theorem traced_mono (hC : ∀ w, C w → C' w) (hQ : ∀ a w, Q a w → Q' a w)
    (hE : ∀ e w, E e w → E' e w) {p : Program σ κ ε α} :
    ∀ {w : Trace σ}, p.Traced C Q E w → p.Traced C' Q' E' w := by
  induction p with
  | pure a => exact fun h ↦ hQ a _ h
  | throw e => exact fun h ↦ hE e _ h
  | now k ih => exact fun h t ht ↦ ih t (h t ht)
  | read k ih | lock key k ih => exact fun h s ↦ ih _ (h s)
  | tryLock key k busy ih ihb => exact fun h ↦ ⟨fun s ↦ ih _ (h.1 s), ihb h.2⟩
  | nextval k ih | choose k ih => exact fun h n ↦ ih n (h n)
  | write f next ih | rollback next ih => exact fun h ↦ ih h
  | commit next ih => exact fun h ↦ ⟨hC _ h.1, ih h.2⟩

theorem traced_pure {a : α} (h : Q a w) : (pure a : Program σ κ ε α).Traced C Q E w := h

theorem traced_throw {e : ε} (h : E e w) : (throw e : Program σ κ ε α).Traced C Q E w := h

/-- The sequencing rule. -/
theorem traced_bind {Q : β → Trace σ → Prop} {p : Program σ κ ε α} {f : α → Program σ κ ε β} :
    ∀ {w : Trace σ}, p.Traced C (fun a w ↦ (f a).Traced C Q E w) E w →
      (p >>= f).Traced C Q E w := by
  change ∀ {w : Trace σ}, _ → (p.bind f).Traced C Q E w
  induction p with
  | pure a | throw e => exact fun h ↦ h
  | now k ih => exact fun h t ht ↦ ih t (h t ht)
  | read k ih | lock key k ih => exact fun h s ↦ ih _ (h s)
  | tryLock key k busy ih ihb => exact fun h ↦ ⟨fun s ↦ ih _ (h.1 s), ihb h.2⟩
  | nextval k ih | choose k ih => exact fun h n ↦ ih n (h n)
  | write f next ih | rollback next ih => exact fun h ↦ ih h
  | commit next ih => exact fun h ↦ ⟨h.1, ih h.2⟩

theorem traced_attempt {ε' : Type} {E' : ε' → Trace σ → Prop} {Q : Except ε α → Trace σ → Prop}
    {p : Program σ κ ε α} : ∀ {w : Trace σ},
    p.Traced C (fun a w ↦ Q (.ok a) w) (fun e w ↦ Q (.error e) w) w →
      (p.attempt : Program σ κ ε' _).Traced C Q E' w := by
  induction p with
  | pure a | throw e => exact fun h ↦ h
  | now k ih => exact fun h t ht ↦ ih t (h t ht)
  | read k ih | lock key k ih => exact fun h s ↦ ih _ (h s)
  | tryLock key k busy ih ihb => exact fun h ↦ ⟨fun s ↦ ih _ (h.1 s), ihb h.2⟩
  | nextval k ih | choose k ih => exact fun h n ↦ ih n (h n)
  | write f next ih | rollback next ih => exact fun h ↦ ih h
  | commit next ih => exact fun h ↦ ⟨h.1, ih h.2⟩

theorem traced_tryCatch {p : Program σ κ ε α} {handler : ε → Program σ κ ε α}
    (h : p.Traced C Q (fun e w ↦ (handler e).Traced C Q E w) w) :
    (tryCatch p handler).Traced C Q E w :=
  traced_bind (traced_attempt h)

theorem traced_fromExcept {x : Except ε α} (hok : ∀ a, x = .ok a → Q a w)
    (herror : ∀ e, x = .error e → E e w) : (fromExcept x : Program σ κ ε α).Traced C Q E w := by
  cases x with
  | ok a => exact hok a rfl
  | error e => exact herror e rfl

theorem traced_now {Q : ℤ → Trace σ → Prop}
    (h : ∀ t, w.clock ≤ t → Q t { w with clock := t }) :
    (now : Program σ κ ε ℤ).Traced C Q E w := h

theorem traced_snapshot {Q : σ → Trace σ → Prop} (h : ∀ s, Q (w.pending s) (w.meet s)) :
    (snapshot : Program σ κ ε σ).Traced C Q E w := h

theorem traced_lock {key : κ} {Q : σ → Trace σ → Prop} (h : ∀ s, Q (w.pending s) (w.meet s)) :
    (lock key : Program σ κ ε σ).Traced C Q E w := h

theorem traced_write {f : σ → σ} {Q : Unit → Trace σ → Prop} (h : Q () (w.write f)) :
    (write f : Program σ κ ε Unit).Traced C Q E w := h

theorem traced_commit {Q : Unit → Trace σ → Prop} (hC : C w) (h : Q () w.commit) :
    (commit : Program σ κ ε Unit).Traced C Q E w := ⟨hC, h⟩

theorem traced_rollback {Q : Unit → Trace σ → Prop} (h : Q () w.rollback) :
    (rollback : Program σ κ ε Unit).Traced C Q E w := h

/-- Two branches that go on alike. -/
theorem traced_ite_bind {Q : β → Trace σ → Prop} {condition : Prop} [Decidable condition]
    {p q : Program σ κ ε α} {f : α → Program σ κ ε β} (R : α → Trace σ → Prop)
    (hp : condition → p.Traced C R E w) (hq : ¬ condition → q.Traced C R E w)
    (h : ∀ a w', R a w' → (f a).Traced C Q E w') :
    (if condition then p >>= f else q >>= f).Traced C Q E w := by
  split
  next hcondition => exact traced_bind (traced_mono (fun _ h ↦ h) h (fun _ _ h ↦ h) (hp hcondition))
  next hcondition => exact traced_bind (traced_mono (fun _ h ↦ h) h (fun _ _ h ↦ h) (hq hcondition))

/-- One branch that goes on. -/
theorem traced_when_bind {Q : β → Trace σ → Prop} {condition : Prop} [Decidable condition]
    {p : Program σ κ ε Unit} {f : Unit → Program σ κ ε β} (R : Trace σ → Prop)
    (hp : condition → p.Traced C (fun _ ↦ R) E w) (hw : ¬ condition → R w)
    (h : ∀ w', R w' → (f ()).Traced C Q E w') :
    (if condition then p >>= f else f ()).Traced C Q E w := by
  split
  next hcondition =>
    exact traced_bind (traced_mono (fun _ h ↦ h) (fun _ ↦ h) (fun _ _ h ↦ h) (hp hcondition))
  next hcondition => exact h w (hw hcondition)

theorem traced_selectForUpdate {key : κ} {row : σ → Option β} {Q : Option β → Trace σ → Prop}
    (h : ∀ w' s, w.Onward w' → w'.pending = w.pending → s ∈ w'.met → Q (row (w.pending s)) w') :
    (selectForUpdate key row : Program σ κ ε (Option β)).Traced C Q E w := by
  refine traced_bind (traced_snapshot fun s ↦ ?_)
  cases hrow : row (w.pending s) with
  | none => exact traced_pure (hrow ▸ h _ s (.meet s w) rfl List.mem_cons_self)
  | some b =>
    refine traced_bind (traced_lock fun s' ↦ traced_pure ?_)
    exact h _ s' ((Trace.Onward.meet s w).trans (.meet s' _)) rfl List.mem_cons_self

/-- Of a part of a transaction that is only known by what it writes, not much is left to say. -/
theorem traced_of_writes {W : (σ → σ) → Prop} (hcomp : ∀ f g, W f → W g → W (f ∘ g))
    {p : Program σ κ ε α} (hp : p.Writes W) : ∀ {w : Trace σ}, W w.pending →
      p.Traced C (fun _ w' ↦ w.Onward w' ∧ W w'.pending) (fun _ w' ↦ w.Onward w') w := by
  induction p with
  | pure a => exact fun hw ↦ ⟨.refl _, hw⟩
  | throw e => exact fun _ ↦ .refl _
  | now k ih =>
    intro w hw t ht
    have honward : w.Onward { w with clock := t } := .now ht
    exact traced_mono (fun _ h ↦ h) (fun _ _ h ↦ ⟨honward.trans h.1, h.2⟩)
      (fun _ _ h ↦ honward.trans h) (ih t (hp t) (w := { w with clock := t }) hw)
  | read k ih | lock key k ih =>
    intro w hw s
    exact traced_mono (fun _ h ↦ h) (fun _ _ h ↦ ⟨(Trace.Onward.meet s w).trans h.1, h.2⟩)
      (fun _ _ h ↦ (Trace.Onward.meet s w).trans h) (ih _ (hp _) (w := w.meet s) hw)
  | tryLock key k busy ih ihb =>
    refine fun {w} hw ↦ ⟨fun s ↦ ?_, ihb hp.2 hw⟩
    exact traced_mono (fun _ h ↦ h) (fun _ _ h ↦ ⟨(Trace.Onward.meet s w).trans h.1, h.2⟩)
      (fun _ _ h ↦ (Trace.Onward.meet s w).trans h) (ih _ (hp.1 _) (w := w.meet s) hw)
  | nextval k ih | choose k ih => exact fun hw n ↦ ih n (hp n) hw
  | write f next ih =>
    intro w hw
    have honward : w.Onward (w.write f) := .write f w
    exact traced_mono (fun _ h ↦ h) (fun _ _ h ↦ ⟨honward.trans h.1, h.2⟩)
      (fun _ _ h ↦ honward.trans h) (ih hp.2 (w := w.write f) (hcomp f _ hp.1 hw))
  | commit next ih | rollback next ih => exact absurd hp id

/-- Two walks through one program. -/
theorem traced_and {p : Program σ κ ε α} : ∀ {w : Trace σ}, p.Traced C Q E w →
    p.Traced C' Q' E' w → p.Traced (fun w ↦ C w ∧ C' w) (fun a w ↦ Q a w ∧ Q' a w)
      (fun e w ↦ E e w ∧ E' e w) w := by
  induction p with
  | pure a | throw e => exact And.intro
  | now k ih => exact fun h h' t ht ↦ ih t (h t ht) (h' t ht)
  | read k ih | lock key k ih => exact fun h h' s ↦ ih _ (h s) (h' s)
  | tryLock key k busy ih ihb => exact fun h h' ↦ ⟨fun s ↦ ih _ (h.1 s) (h'.1 s), ihb h.2 h'.2⟩
  | nextval k ih | choose k ih => exact fun h h' n ↦ ih n (h n) (h' n)
  | write f next ih | rollback next ih => exact fun h h' ↦ ih h h'
  | commit next ih => exact fun h h' ↦ ⟨⟨h.1, h'.1⟩, ih h.2 h'.2⟩

/-- Of a program that may commit whatever it wants there is nothing to check. -/
theorem traced_of_forall (h : ∀ w, C w) {p : Program σ κ ε α} :
    ∀ {w : Trace σ}, p.Traced C (fun _ _ ↦ True) (fun _ _ ↦ True) w := by
  induction p with
  | pure a | throw e => exact trivial
  | now k ih => exact fun t _ ↦ ih t
  | read k ih | lock key k ih => exact fun s ↦ ih _
  | tryLock key k busy ih ihb => exact ⟨fun s ↦ ih _, ihb⟩
  | nextval k ih | choose k ih => exact fun n ↦ ih n
  | write f next ih | rollback next ih => exact ih
  | commit next ih => exact ⟨h _, ih⟩

/-- Whatever a program does, its session goes on. -/
theorem traced_since {p : Program σ κ ε α} : ∀ {w₀ w : Trace σ}, w₀.Since w → p.Traced C Q E w →
    p.Traced (fun w' ↦ w₀.Since w' ∧ C w') (fun a w' ↦ w₀.Since w' ∧ Q a w')
      (fun e w' ↦ w₀.Since w' ∧ E e w') w := by
  induction p with
  | pure a | throw e => exact fun h₀ h ↦ ⟨h₀, h⟩
  | now k ih => exact fun h₀ h t ht ↦ ih t (h₀.trans (Trace.Onward.now ht).since) (h t ht)
  | read k ih | lock key k ih =>
    exact fun {_ w} h₀ h s ↦ ih _ (h₀.trans (Trace.Onward.meet s w).since) (h s)
  | tryLock key k busy ih ihb =>
    exact fun {_ w} h₀ h ↦
      ⟨fun s ↦ ih _ (h₀.trans (Trace.Onward.meet s w).since) (h.1 s), ihb h₀ h.2⟩
  | nextval k ih | choose k ih => exact fun h₀ h n ↦ ih n h₀ (h n)
  | write f next ih => exact fun h₀ h ↦ ih ⟨h₀.met, h₀.begun, h₀.clock⟩ h
  | commit next ih => exact fun h₀ h ↦ ⟨⟨h₀, h.1⟩, ih ⟨h₀.met, h₀.begun, h₀.clock⟩ h.2⟩
  | rollback next ih => exact fun h₀ h ↦ ih ⟨h₀.met, h₀.begun, h₀.clock⟩ h

end Rules

/-! ## Runs

In a run every session follows its trace, and every commit on the record is one its session's
trace allows.
-/

section Runs

variable [DecidableEq κ]

theorem exec_concat {program : Req → Program σ κ ε ρ} {c c' : Config σ κ ε ρ Req}
    {as : List (Action Req)} {a : Action Req} (h : exec program c (as ++ [a]) = some c') :
    ∃ c₁, exec program c as = some c₁ ∧ step program c₁ a = some c' := by
  rw [exec_append, Option.bind_eq_some_iff] at h
  obtain ⟨c₁, h₁, h₂⟩ := h
  rw [exec, Option.bind_eq_some_iff] at h₂
  obtain ⟨c₂, h₂, h₃⟩ := h₂
  exact ⟨c₁, h₁, h₂.trans h₃⟩

/-- What is reachable is the end of a run. -/
theorem Reaches.exists_exec {program : Req → Program σ κ ε ρ} {c c' : Config σ κ ε ρ Req}
    (h : Reaches program c c') : ∃ as, exec program c as = some c' := by
  induction h with
  | refl => exact ⟨[], rfl⟩
  | step a _ hstep ih =>
    obtain ⟨as, has⟩ := ih
    refine ⟨as ++ [a], ?_⟩
    rw [exec_append, has, Option.bind_some, exec, hstep]
    rfl

variable (program : Req → Program σ κ ε ρ) (c₀ : Config σ κ ε ρ Req)

/-- The stores are those of moments between `start` and `now`, which come one after another, the
last one first. Moments of a run are its beginnings. -/
inductive Met (start : List (Action Req)) : List (Action Req) → List σ → Prop where
  | nil {now : List (Action Req)} (h : start <+: now) : Met start now []
  | cons {moment now : List (Action Req)} {c : Config σ κ ε ρ Req} {l : List σ}
      (h : exec program c₀ moment = some c) (hnow : moment <+: now) (hl : Met start moment l) :
      Met start now (c.shared.store :: l)

/-- The session started with the request at the moment `start`, as the next one. -/
structure StartsAt (start : List (Action Req)) (i : ℕ) (r : Req) (clock : ℤ)
    (now : List (Action Req)) : Prop where
  begun : start ++ [.start r] <+: now
  next : ∃ c, exec program c₀ start = some c ∧ c.sessions.length = i ∧ c.shared.clock = clock

/-- At the moment `now` session `i`, which serves the request, has done `w`. -/
def Follows (now : List (Action Req)) (i : ℕ) (r : Req) (w : Trace σ) : Prop :=
  ∃ start, StartsAt program c₀ start i r w.begun now ∧
    Met program c₀ (start ++ [.start r]) now w.met

/-- The commit was made at some moment, by a session that had done `w` until then. -/
structure CommittedAt (moment : List (Action Req)) (w : Trace σ) (e : Entry σ Req)
    (c : Config σ κ ε ρ Req) : Prop where
  exec : exec program c₀ moment = some c
  follows : Follows program c₀ moment e.session e.request w
  before : e.before = c.shared.store
  after : e.after = w.pending e.before

variable {program c₀} {start now now' : List (Action Req)} {l : List σ}

omit [DecidableEq κ] in
theorem Met.le [DecidableEq κ] (h : Met program c₀ start now l) : start <+: now := by
  induction h with
  | nil h => exact h
  | cons _ hnow _ ih => exact ih.trans hnow

theorem Met.later (h : Met program c₀ start now l) (hnow : now <+: now') :
    Met program c₀ start now' l := by
  cases h with
  | nil h => exact .nil (h.trans hnow)
  | cons h hmoment hl => exact .cons h (hmoment.trans hnow) hl

/-- What holds of the store at all moments since the start holds of the stores that were met. -/
theorem Met.forall {J : σ → Prop} (h : Met program c₀ start now l)
    (hJ : ∀ moment c, start <+: moment → moment <+: now → exec program c₀ moment = some c →
      J c.shared.store) : ∀ s ∈ l, J s := by
  induction h with
  | nil => exact List.forall_mem_nil _
  | cons h hnow hl ih =>
    refine List.forall_mem_cons.mpr ⟨hJ _ _ hl.le hnow h, ih fun moment c hstart hm ↦ ?_⟩
    exact hJ moment c hstart (hm.trans hnow)

theorem Met.exists_moment (h : Met program c₀ start now l) {s : σ} (hs : s ∈ l) :
    ∃ moment c, start <+: moment ∧ moment <+: now ∧ exec program c₀ moment = some c ∧
      c.shared.store = s := by
  induction h with
  | nil => exact absurd hs List.not_mem_nil
  | cons h hnow hl ih =>
    rcases List.mem_cons.mp hs with rfl | hs
    · exact ⟨_, _, hl.le, hnow, h, rfl⟩
    · obtain ⟨moment, c, hstart, hm, hc⟩ := ih hs
      exact ⟨moment, c, hstart, hm.trans hnow, hc⟩

theorem Follows.later {i : ℕ} {r : Req} {w : Trace σ} (h : Follows program c₀ now i r w)
    (hnow : now <+: now') : Follows program c₀ now' i r w := by
  obtain ⟨start, ⟨hbegun, hnext⟩, hmet⟩ := h
  exact ⟨start, ⟨hbegun.trans hnow, hnext⟩, hmet.later hnow⟩

/-- What one statement adds to the trace of its session. -/
structure Traces (C : Trace σ → Prop) (i : ℕ) (s s' : Shared σ κ Req) (u u' : Session σ κ ε ρ Req)
    (w w' : Trace σ) : Prop where
  request : u'.request = u.request
  pending : w'.pending = u'.pending
  begun : w'.begun = w.begun
  clock : w'.clock ≤ s'.clock
  met : w'.met = w.met ∨ w'.met = s.store :: w.met
  history : (s'.history = s.history ∧ w'.committed = w.committed) ∨
    ∃ e : Entry σ Req, s'.history = s.history ++ [e] ∧ w'.committed = true ∧ C w ∧ e.session = i ∧
      e.request = u.request ∧ e.before = s.store ∧ e.after = w.pending e.before

theorem execute_traced {i n : ℕ} {s s' : Shared σ κ Req} {u u' : Session σ κ ε ρ Req}
    {p : Program σ κ ε ρ} {C : Trace σ → Prop} {Q : ρ → Trace σ → Prop} {E : ε → Trace σ → Prop}
    {w : Trace σ} (he : execute i n s u p = some (s', u')) (hp : p.Traced C Q E w)
    (hpending : w.pending = u.pending) (hclock : w.clock ≤ s.clock) :
    ∃ p' w', u'.program = some p' ∧ p'.Traced C Q E w' ∧ Traces C i s s' u u' w w' := by
  cases p with
  | pure a | throw e => cases he
  | now k =>
    obtain ⟨rfl, rfl⟩ := Prod.mk.inj (Option.some.inj he)
    exact ⟨_, _, rfl, hp s.clock hclock,
      ⟨rfl, hpending, rfl, Int.le_refl _, .inl rfl, .inl ⟨rfl, rfl⟩⟩⟩
  | read k =>
    obtain ⟨rfl, rfl⟩ := Prod.mk.inj (Option.some.inj he)
    exact ⟨_, w.meet s.store, rfl, hpending ▸ hp s.store,
      ⟨rfl, hpending, rfl, hclock, .inr rfl, .inl ⟨rfl, rfl⟩⟩⟩
  | lock key k =>
    simp only [execute] at he
    split at he
    · obtain ⟨rfl, rfl⟩ := Prod.mk.inj (Option.some.inj he)
      exact ⟨_, w.meet s.store, rfl, hpending ▸ hp s.store,
        ⟨rfl, hpending, rfl, hclock, .inr rfl, .inl ⟨rfl, rfl⟩⟩⟩
    · cases he
  | tryLock key k busy =>
    simp only [execute] at he
    split at he
    · obtain ⟨rfl, rfl⟩ := Prod.mk.inj (Option.some.inj he)
      exact ⟨_, w.meet s.store, rfl, hpending ▸ hp.1 s.store,
        ⟨rfl, hpending, rfl, hclock, .inr rfl, .inl ⟨rfl, rfl⟩⟩⟩
    · obtain ⟨rfl, rfl⟩ := Prod.mk.inj (Option.some.inj he)
      exact ⟨_, _, rfl, hp.2, ⟨rfl, hpending, rfl, hclock, .inl rfl, .inl ⟨rfl, rfl⟩⟩⟩
  | nextval k =>
    obtain ⟨rfl, rfl⟩ := Prod.mk.inj (Option.some.inj he)
    exact ⟨_, _, rfl, hp _, ⟨rfl, hpending, rfl, hclock, .inl rfl, .inl ⟨rfl, rfl⟩⟩⟩
  | choose k =>
    obtain ⟨rfl, rfl⟩ := Prod.mk.inj (Option.some.inj he)
    exact ⟨_, _, rfl, hp n, ⟨rfl, hpending, rfl, hclock, .inl rfl, .inl ⟨rfl, rfl⟩⟩⟩
  | write f next =>
    obtain ⟨rfl, rfl⟩ := Prod.mk.inj (Option.some.inj he)
    exact ⟨_, _, rfl, hp, ⟨rfl, congrArg (f ∘ ·) hpending, rfl, hclock, .inl rfl,
      .inl ⟨rfl, rfl⟩⟩⟩
  | commit next =>
    obtain ⟨rfl, rfl⟩ := Prod.mk.inj (Option.some.inj he)
    exact ⟨_, _, rfl, hp.2, ⟨rfl, rfl, rfl, hclock, .inl rfl,
      .inr ⟨_, rfl, rfl, hp.1, rfl, rfl, rfl, by rw [hpending]⟩⟩⟩
  | rollback next =>
    obtain ⟨rfl, rfl⟩ := Prod.mk.inj (Option.some.inj he)
    exact ⟨_, _, rfl, hp, ⟨rfl, rfl, rfl, hclock, .inl rfl, .inl ⟨rfl, rfl⟩⟩⟩

variable (program c₀)

/-- What the walks through the programs come to in a run. -/
structure TracedRun (C : Req → Trace σ → Prop) (Q : Req → ρ → Trace σ → Prop)
    (E : Req → ε → Trace σ → Prop) (now : List (Action Req)) (c : Config σ κ ε ρ Req) : Prop where
  session : ∀ i u, c.sessions[i]? = some u → ∃ w, Follows program c₀ now i u.request w ∧
    w.pending = u.pending ∧ w.clock ≤ c.shared.clock ∧
    (w.committed = false → c.shared.commitsOf i = []) ∧
    ∀ p, u.program = some p → p.Traced (C u.request) (Q u.request) (E u.request) w
  commit : ∀ e ∈ c.shared.history, ∃ moment c₁ w, moment <+: now ∧
    c₁.shared.history ++ [e] <+: c.shared.history ∧ CommittedAt program c₀ moment w e c₁ ∧
    C e.request w

variable {program c₀} {C : Req → Trace σ → Prop} {Q : Req → ρ → Trace σ → Prop}
  {E : Req → ε → Trace σ → Prop}

theorem TracedRun.commit_later {c c' : Config σ κ ε ρ Req} (h : TracedRun program c₀ C Q E now c)
    (hnow : now <+: now') (hhistory : c.shared.history <+: c'.shared.history) :
    ∀ e ∈ c.shared.history, ∃ moment c₁ w, moment <+: now' ∧
      c₁.shared.history ++ [e] <+: c'.shared.history ∧ CommittedAt program c₀ moment w e c₁ ∧
      C e.request w := by
  intro e he
  obtain ⟨moment, c₁, w, hmoment, hprefix, hcommit, hC⟩ := h.commit e he
  exact ⟨moment, c₁, w, hmoment.trans hnow, hprefix.trans hhistory, hcommit, hC⟩

/-- A session that does not take part in a step stays where it is. -/
private theorem TracedRun.session_later {c c' : Config σ κ ε ρ Req}
    (h : TracedRun program c₀ C Q E now c) (hnow : now <+: now')
    (hclock : c.shared.clock ≤ c'.shared.clock) {i : ℕ}
    (hcommits : c'.shared.commitsOf i = c.shared.commitsOf i) {u : Session σ κ ε ρ Req}
    (hu : c.sessions[i]? = some u) : ∃ w, Follows program c₀ now' i u.request w ∧
      w.pending = u.pending ∧ w.clock ≤ c'.shared.clock ∧
      (w.committed = false → c'.shared.commitsOf i = []) ∧
      ∀ p, u.program = some p → p.Traced (C u.request) (Q u.request) (E u.request) w := by
  obtain ⟨w, hfollows, hpending, hw, hnone, hp⟩ := h.session i u hu
  refine ⟨w, hfollows.later hnow, hpending, Int.le_trans hw hclock, fun hc ↦ ?_, hp⟩
  rw [hcommits]
  exact hnone hc

omit [DecidableEq κ] in
theorem commitsOf_concat {s s' : Shared σ κ Req} {e : Entry σ Req}
    (h : s'.history = s.history ++ [e]) {i : ℕ} (hi : e.session ≠ i) :
    s'.commitsOf i = s.commitsOf i := by
  rw [Shared.commitsOf, h, List.filter_append, List.filter_singleton, decide_eq_false hi]
  exact List.append_nil _

/-- If every program passes the walk, every run is as the walks say. -/
theorem exec_traced {store : σ} {clock : ℤ} {n : ℕ}
    (h : ∀ r t, (program r).Traced (C r) (Q r) (E r) (.start t)) {now : List (Action Req)} :
    ∀ {c : Config σ κ ε ρ Req}, exec program (Config.initial store clock n) now = some c →
      TracedRun program (Config.initial store clock n) C Q E now c := by
  induction now using List.reverseRecOn with
  | nil =>
    intro c hc
    obtain rfl := Option.some.inj hc
    exact ⟨fun i u hu ↦ absurd hu (by simp [Config.initial]), List.forall_mem_nil _⟩
  | append_singleton now a ih =>
    intro c' hc'
    obtain ⟨c, hc, hstep⟩ := exec_concat hc'
    have hrun := ih hc
    have hnow : now <+: now ++ [a] := List.prefix_append _ _
    have hclock := step_clock hstep
    cases a with
    | start r =>
      obtain rfl := Option.some.inj hstep
      refine ⟨fun i u hu ↦ ?_, hrun.commit_later hnow (List.prefix_refl _)⟩
      rcases Nat.lt_or_ge i c.sessions.length with hi | hi
      · rw [List.getElem?_append_left hi] at hu
        exact hrun.session_later hnow hclock rfl hu
      · rw [List.getElem?_append_right hi, List.getElem?_singleton] at hu
        split at hu
        next hzero =>
          obtain rfl := Option.some.inj hu
          obtain rfl : i = c.sessions.length := by omega
          refine ⟨.start c.shared.clock, ⟨now, ⟨List.prefix_refl _, c, hc, rfl, rfl⟩,
            .nil (List.prefix_refl _)⟩, rfl, Int.le_refl _, fun _ ↦ ?_, ?_⟩
          · -- nobody has committed under a number that is not taken yet
            refine List.filter_eq_nil_iff.mpr fun e he ↦ ?_
            obtain ⟨u, hu, -⟩ := (Reaches.of_exec .refl hc).session_of_mem e he
            have hlt := (List.getElem?_eq_some_iff.mp hu).1
            simpa using Nat.ne_of_lt hlt
          · intro p hp
            obtain rfl := Option.some.inj hp
            exact h r _
        next => cases hu
    | run i m =>
      simp only [step, Option.bind_eq_bind, Option.bind_eq_some_iff] at hstep
      obtain ⟨u, hu, p, hp, ⟨s, u'⟩, he, hc'⟩ := hstep
      obtain rfl := Option.some.inj hc'
      obtain ⟨w, hfollows, hpending, hw, hnone, htraced⟩ := hrun.session i u hu
      obtain ⟨p', w', hp', htraced', hadd⟩ := execute_traced he (htraced p hp) hpending hw
      have hi : i < c.sessions.length := (List.getElem?_eq_some_iff.mp hu).1
      have hprefix : c.shared.history <+: s.history := by
        rcases hadd.history with ⟨hhistory, -⟩ | ⟨e, hhistory, -⟩
        · rw [hhistory]
        · rw [hhistory]
          exact List.prefix_append _ _
      -- first the trace of every session, then that of every commit in the log
      refine ⟨fun j u₁ hu₁ ↦ ?_, fun e he ↦ ?_⟩
      · by_cases hj : i = j
        · subst hj
          rw [List.getElem?_set_self hi] at hu₁
          obtain rfl := Option.some.inj hu₁
          rw [hadd.request]
          obtain ⟨start, hstarts, hmet⟩ := hfollows
          refine ⟨w', ⟨start, ⟨hstarts.begun.trans hnow, hadd.begun ▸ hstarts.next⟩, ?_⟩,
            hadd.pending, hadd.clock, fun hc₁ ↦ ?_, fun q hq ↦ ?_⟩
          · rcases hadd.met with hmet' | hmet'
            · rw [hmet']
              exact hmet.later hnow
            · rw [hmet']
              exact .cons hc hnow hmet
          · rcases hadd.history with ⟨hhistory, hcommitted⟩ | ⟨e, -, hcommitted, -⟩
            · rw [Shared.commitsOf, hhistory]
              exact hnone (hcommitted ▸ hc₁)
            · exact absurd (hcommitted.symm.trans hc₁) (by decide)
          · obtain rfl := Option.some.inj (hp'.symm.trans hq)
            exact htraced'
        · rw [List.getElem?_set_ne hj] at hu₁
          -- a commit of session `i` is none of session `j`
          have hcommits : s.commitsOf j = c.shared.commitsOf j := by
            rcases hadd.history with ⟨hhistory, -⟩ | ⟨e, hhistory, -, -, he₁, -⟩
            · rw [Shared.commitsOf, Shared.commitsOf, hhistory]
            · exact commitsOf_concat hhistory (he₁ ▸ hj)
          exact hrun.session_later hnow hclock hcommits hu₁
      · rcases hadd.history with ⟨hhistory, -⟩ | ⟨e₁, hhistory, -, hC, hsession, hrequest,
          hbefore, hafter⟩
        · exact hrun.commit_later hnow hprefix e (hhistory ▸ he)
        · have he' := he
          simp only [hhistory, List.mem_append, List.mem_singleton] at he'
          rcases he' with he' | rfl
          · exact hrun.commit_later hnow hprefix e he'
          · refine ⟨now, c, w, hnow, ?_, ⟨hc, ?_, hbefore, hafter⟩, hrequest ▸ hC⟩
            · rw [hhistory]
            · rw [hsession, hrequest]
              exact hfollows
    | tick t =>
      simp only [step] at hstep
      split at hstep
      · obtain rfl := Option.some.inj hstep
        exact ⟨fun i u hu ↦ hrun.session_later hnow hclock rfl hu,
          hrun.commit_later hnow (List.prefix_refl _)⟩
      · cases hstep
    | crash i =>
      simp only [step, Option.bind_eq_bind, Option.bind_eq_some_iff] at hstep
      obtain ⟨u, hu, hc'⟩ := hstep
      obtain rfl := Option.some.inj hc'
      refine ⟨fun j u₁ hu₁ ↦ ?_, hrun.commit_later hnow (List.prefix_refl _)⟩
      by_cases hj : i = j
      · subst hj
        rw [List.getElem?_set_self (List.getElem?_eq_some_iff.mp hu).1] at hu₁
        obtain rfl := Option.some.inj hu₁
        obtain ⟨w, hfollows, -, hw, hnone, -⟩ := hrun.session i u hu
        -- what has crashed keeps its trace, with nothing left to be written
        exact ⟨w.rollback, hfollows.later hnow, rfl, hw, hnone, fun p hp ↦ absurd hp (by simp)⟩
      · rw [List.getElem?_set_ne hj] at hu₁
        exact hrun.session_later hnow hclock rfl hu₁

/-! ## What lasts

Properties that, once they hold of the store, hold at every later moment.
-/

theorem step_sessions_length {c c' : Config σ κ ε ρ Req} {a : Action Req}
    (h : step program c a = some c') : c.sessions.length ≤ c'.sessions.length := by
  cases a with
  | start r =>
    obtain rfl := Option.some.inj h
    exact List.length_append ▸ Nat.le_add_right _ _
  | run i n =>
    simp only [step, Option.bind_eq_bind, Option.bind_eq_some_iff] at h
    obtain ⟨u, -, p, -, ⟨s, u'⟩, -, hc'⟩ := h
    obtain rfl := Option.some.inj hc'
    exact (List.length_set ..).ge
  | tick t =>
    simp only [step] at h
    split at h
    · obtain rfl := Option.some.inj h
      exact Nat.le_refl _
    · cases h
  | crash i =>
    simp only [step, Option.bind_eq_bind, Option.bind_eq_some_iff] at h
    obtain ⟨u, -, hc'⟩ := h
    obtain rfl := Option.some.inj hc'
    exact (List.length_set ..).ge

/-- Along a run, from one moment to a later one. -/
theorem exec_induction {R : Config σ κ ε ρ Req → Config σ κ ε ρ Req → Prop} (hrefl : ∀ c, R c c)
    (hstep : ∀ c₁ c c' a as, R c₁ c → exec program c₀ as = some c → step program c a = some c' →
      R c₁ c') {first : List (Action Req)} {c₁ : Config σ κ ε ρ Req}
    (hfirst : exec program c₀ first = some c₁) (hle : first <+: now) :
    ∀ {c : Config σ κ ε ρ Req}, exec program c₀ now = some c → R c₁ c := by
  obtain ⟨as, rfl⟩ := hle
  induction as using List.reverseRecOn with
  | nil =>
    intro c hc
    rw [List.append_nil] at hc
    obtain rfl := Option.some.inj (hfirst.symm.trans hc)
    exact hrefl _
  | append_singleton as a ih =>
    intro c' hc'
    rw [← List.append_assoc] at hc'
    obtain ⟨c, hc, ha⟩ := exec_concat hc'
    exact hstep c₁ c c' a _ (ih hc) hc ha

theorem exec_history {first : List (Action Req)} {c₁ : Config σ κ ε ρ Req}
    (hfirst : exec program c₀ first = some c₁) (hle : first <+: now) {c : Config σ κ ε ρ Req}
    (hc : exec program c₀ now = some c) : c₁.shared.history <+: c.shared.history := by
  refine exec_induction (R := fun c c' ↦ c.shared.history <+: c'.shared.history)
    (fun _ ↦ List.prefix_refl _) (fun _ _ _ _ _ ih _ ha ↦ ih.trans ?_) hfirst hle hc
  rcases step_store ha with ⟨-, hhistory⟩ | ⟨e, hhistory, -, -⟩
  · rw [hhistory]
  · rw [hhistory]
    exact List.prefix_append _ _

theorem StartsAt.le {first start : List (Action Req)} {c₁ : Config σ κ ε ρ Req} {i : ℕ} {r : Req}
    {t : ℤ} (hfirst : exec program c₀ first = some c₁) (hle : first <+: now)
    (hi : c₁.sessions.length ≤ i) (h : StartsAt program c₀ start i r t now) : first <+: start := by
  obtain ⟨hbegun, c, hc, hlength, -⟩ := h
  rcases List.prefix_or_prefix_of_prefix hle hbegun with h | h
  · rcases List.prefix_concat_iff.mp h with rfl | h
    · -- at the moment after the start there is one session more
      obtain ⟨c', hc', hstep⟩ := exec_concat hfirst
      obtain rfl := Option.some.inj (hc.symm.trans hc')
      obtain rfl := Option.some.inj hstep
      simp only [List.length_append, List.length_singleton] at hi
      omega
    · exact h
  · have hlt : c.sessions.length + 1 ≤ c₁.sessions.length := by
      have hstarted : exec program c₀ (start ++ [.start r]) =
          some { c with sessions :=
            c.sessions ++ [⟨r, some (program r), id, c.shared.store⟩] } := by
        rw [exec_append, hc]
        rfl
      refine le_trans ?_ (exec_induction (R := fun c c' ↦ c.sessions.length ≤ c'.sessions.length)
        (fun _ ↦ le_rfl) (fun _ _ _ _ _ ih _ ha ↦ ih.trans (step_sessions_length ha)) hstarted h
        hfirst)
      simp
    omega

/-- What a session has met was there at some moment. -/
theorem Follows.exists_moment {i : ℕ} {r : Req} {w : Trace σ}
    (hw : Follows program c₀ now i r w) {s : σ} (hs : s ∈ w.met) :
    ∃ moment c, moment <+: now ∧ exec program c₀ moment = some c ∧ c.shared.store = s := by
  obtain ⟨start, -, hmet⟩ := hw
  obtain ⟨moment, c, -, hm, hc⟩ := hmet.exists_moment hs
  exact ⟨moment, c, hm, hc⟩

/-- A session that starts later meets only what is so from then on. -/
theorem Follows.forall_met {J : σ → Prop} {first : List (Action Req)} {c₁ : Config σ κ ε ρ Req}
    (hfirst : exec program c₀ first = some c₁) (hle : first <+: now) {i : ℕ} {r : Req} {w : Trace σ}
    (hi : c₁.sessions.length ≤ i) (hw : Follows program c₀ now i r w)
    (hJ : ∀ moment c, first <+: moment → moment <+: now → exec program c₀ moment = some c →
      J c.shared.store) : ∀ s ∈ w.met, J s := by
  obtain ⟨start, hstarts, hmet⟩ := hw
  refine hmet.forall fun moment c hm hnow hc ↦ hJ moment c ?_ hnow hc
  exact ((hstarts.le hfirst hle hi).trans (List.prefix_append _ _)).trans hm

/-- It starts at a later time. -/
theorem Follows.le_begun {first : List (Action Req)} {c₁ : Config σ κ ε ρ Req}
    (hfirst : exec program c₀ first = some c₁) (hle : first <+: now) {i : ℕ} {r : Req} {w : Trace σ}
    (hi : c₁.sessions.length ≤ i) (hw : Follows program c₀ now i r w) :
    c₁.shared.clock ≤ w.begun := by
  obtain ⟨start, hstarts, -⟩ := hw
  have hstart := hstarts.le hfirst hle hi
  obtain ⟨c, hc, -, hclock⟩ := hstarts.next
  rw [← hclock]
  exact exec_induction (R := fun c c' ↦ c.shared.clock ≤ c'.shared.clock) (fun _ ↦ Int.le_refl _)
    (fun _ _ _ _ _ ih _ ha ↦ Int.le_trans ih (step_clock ha)) hfirst hstart hc

/-- An invariant of the store that the commits of a kind keep since it held of all they have met, in
a run of such commits. -/
theorem exec_invariant_of {store : σ} {clock : ℤ} {n : ℕ} {J : σ → Prop} {R : σ → σ → Prop}
    {H : Entry σ Req → Prop} (h : ∀ r t, (program r).Traced (C r) (Q r) (E r) (.start t))
    (hR : ∀ moment later c c', moment <+: later → later <+: now →
      exec program (Config.initial store clock n) moment = some c →
      exec program (Config.initial store clock n) later = some c' →
      R c.shared.store c'.shared.store)
    (hH : ∀ moment c, moment <+: now → exec program (Config.initial store clock n) moment = some c →
      ∀ e ∈ c.shared.history, H e)
    (hinit : J store)
    (hJ : ∀ e w, H e → C e.request w → J e.before → R e.before (w.pending e.before) →
      (∀ s' ∈ w.met, J s' ∧ R s' e.before) → J (w.pending e.before)) :
    ∀ moment c, moment <+: now → exec program (Config.initial store clock n) moment = some c →
      J c.shared.store := by
  induction now using List.reverseRecOn with
  | nil =>
    intro moment c hmoment hc
    rw [List.prefix_nil.mp hmoment] at hc
    obtain rfl := Option.some.inj hc
    exact hinit
  | append_singleton now a ih =>
    intro moment c' hmoment hc'
    have hnow : now <+: now ++ [a] := List.prefix_append _ _
    have ih := ih (fun moment later c c' hm hl ↦ hR moment later c c' hm (hl.trans hnow))
      fun moment c hm ↦ hH moment c (hm.trans hnow)
    rcases List.prefix_concat_iff.mp hmoment with rfl | hmoment
    · obtain ⟨c, hc, hstep⟩ := exec_concat hc'
      rcases step_store hstep with ⟨hstore, -⟩ | ⟨e, hhistory, -, hafter⟩
      · rw [hstore]
        exact ih now c (List.prefix_refl _) hc
      · -- the commit was made before this moment, and so were the stores it depends on
        have he : e ∈ c'.shared.history := by
          rw [hhistory]
          simp
        obtain ⟨earlier, c₁, w, hearlier, hprefix, hcommit, hC⟩ := (exec_traced h hc').commit e he
        have hbefore : earlier <+: now := by
          rcases List.prefix_concat_iff.mp hearlier with rfl | hbefore
          · obtain rfl := Option.some.inj (hcommit.exec.symm.trans hc')
            have hle := hprefix.length_le
            simp only [List.length_append, List.length_singleton] at hle
            omega
          · exact hbefore
        have hstore : w.pending e.before = c'.shared.store := by rw [← hafter, hcommit.after]
        have hnext := hR earlier (now ++ [a]) c₁ c' hearlier (List.prefix_refl _) hcommit.exec hc'
        have hinv := ih earlier c₁ hbefore hcommit.exec
        rw [← hcommit.before] at hnext hinv
        rw [← hstore] at hnext ⊢
        refine hJ e w (hH (now ++ [a]) c' (List.prefix_refl _) hc' e he) hC hinv hnext
          fun s hs ↦ ?_
        obtain ⟨moment, c₂, hm, hc₂, rfl⟩ := hcommit.follows.exists_moment hs
        rw [hcommit.before]
        exact ⟨ih moment c₂ (hm.trans hbefore) hc₂,
          hR moment earlier c₂ c₁ hm hearlier hc₂ hcommit.exec⟩
    · exact ih moment c' hmoment hc'

/-- An invariant of the store that all commits keep since it held of all they have met. -/
theorem exec_invariant {store : σ} {clock : ℤ} {n : ℕ} {J : σ → Prop} {R : σ → σ → Prop}
    (h : ∀ r t, (program r).Traced (C r) (Q r) (E r) (.start t))
    (hR : ∀ moment later c c', moment <+: later → later <+: now →
      exec program (Config.initial store clock n) moment = some c →
      exec program (Config.initial store clock n) later = some c' →
      R c.shared.store c'.shared.store)
    (hinit : J store)
    (hJ : ∀ r w s, C r w → J s → R s (w.pending s) → (∀ s' ∈ w.met, J s' ∧ R s' s) →
      J (w.pending s)) :
    ∀ moment c, moment <+: now → exec program (Config.initial store clock n) moment = some c →
      J c.shared.store :=
  exec_invariant_of (H := fun _ ↦ True) h hR (fun _ _ _ _ _ _ ↦ trivial) hinit
    fun e w _ ↦ hJ e.request w e.before

end Runs

end RowLock
