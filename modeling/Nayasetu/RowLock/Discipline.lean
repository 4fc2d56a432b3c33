import Nayasetu.RowLock.Protocol

/-!
# Lock disciplines

The usual way to meet a protocol: every lock key protects a part of the store, and a transaction
changes a protected part only while it holds the key. A sequence number protects itself, because
only the session that drew it ever puts it into the store. On top of this there is a relation that
every commit preserves, such as that some rows never change.

A discipline says what each key protects; `Discipline.toProtocol` turns it into a protocol, and
`Discipline.rely_commit` is what a committing session owes the others.

## What it takes to use one

A discipline has four parts. `Inv` is the invariant of the shared part, which may speak of the
history. `Keep` says of each key what stays as it is while somebody else holds it. `Unused` says
of a number that it occurs nowhere in the store. `Mono` is what every commit preserves, whoever
holds which lock. A commit then has to show that it restores the invariant and that each of the
other three is kept for every other session: this is the whole proof obligation of a transaction,
and it is asked for once, at its commit.
-/

namespace RowLock

variable {σ κ Req : Type}

/-- What locks protect, and what no commit may change. -/
structure Discipline (σ κ Req : Type) where
  /-- The invariant of the shared part. -/
  Inv : Shared σ κ Req → Prop
  /-- What stays as it is while the key is held by somebody else. -/
  Keep : κ → σ → σ → Prop
  /-- The number does not occur in the store. -/
  Unused : ℕ → σ → Prop
  /-- What every commit preserves. -/
  Mono : σ → σ → Prop
  keep_refl : ∀ k s, Keep k s s
  keep_trans : ∀ k s₁ s₂ s₃, Keep k s₁ s₂ → Keep k s₂ s₃ → Keep k s₁ s₃
  mono_refl : ∀ s, Mono s s
  mono_trans : ∀ s₁ s₂ s₃, Mono s₁ s₂ → Mono s₂ s₃ → Mono s₁ s₃
  /-- Numbers that are not drawn yet do not occur. -/
  unused_of_inv : ∀ s n, Inv s → s.minted.length ≤ n → Unused n s.store
  /-- Of the locks, the invariant only says that some have been taken. It survives new numbers and
  later times. -/
  inv_of_same : ∀ s s' : Shared σ κ Req, s'.store = s.store → s'.history = s.history →
    s.minted <+: s'.minted → s.clock ≤ s'.clock → (∀ k, s.Touched k → s'.Touched k) → Inv s → Inv s'

namespace Discipline

variable (D : Discipline σ κ Req)

/-- What session `i` relies on while it pauses. -/
structure Rely (i : ℕ) (s s' : Shared σ κ Req) : Prop where
  /-- Its locks are its own. -/
  holds : ∀ k, s'.holder k = some i ↔ s.holder k = some i
  minted : s.minted <+: s'.minted
  /-- Nobody draws numbers in its name. -/
  drawn : ∀ n : ℕ, s'.minted[n]? = some (some i) ↔ s.minted[n]? = some (some i)
  clock : s.clock ≤ s'.clock
  history : s.history <+: s'.history
  /-- Nobody commits in its name. -/
  commits : s'.commitsOf i = s.commitsOf i
  touched : ∀ k, s.Touched k → s'.Touched k
  keep : ∀ k, s.holder k = some i → D.Keep k s.store s'.store
  unused : ∀ n : ℕ, s.minted[n]? = some (some i) → D.Unused n s.store → D.Unused n s'.store
  mono : D.Mono s.store s'.store

variable {D}

theorem Rely.refl (i : ℕ) (s : Shared σ κ Req) : D.Rely i s s where
  holds _ := Iff.rfl
  minted := List.prefix_refl _
  drawn _ := Iff.rfl
  clock := Int.le_refl _
  history := List.prefix_refl _
  commits := rfl
  touched _ h := h
  keep k _ := D.keep_refl k _
  unused _ _ h := h
  mono := D.mono_refl _

theorem Rely.trans {i : ℕ} {s₁ s₂ s₃ : Shared σ κ Req} (h₁ : D.Rely i s₁ s₂)
    (h₂ : D.Rely i s₂ s₃) : D.Rely i s₁ s₃ where
  holds k := (h₂.holds k).trans (h₁.holds k)
  minted := h₁.minted.trans h₂.minted
  drawn n := (h₂.drawn n).trans (h₁.drawn n)
  clock := Int.le_trans h₁.clock h₂.clock
  history := h₁.history.trans h₂.history
  commits := h₂.commits.trans h₁.commits
  touched k hk := h₂.touched k (h₁.touched k hk)
  keep k hk := D.keep_trans k _ _ _ (h₁.keep k hk) (h₂.keep k ((h₁.holds k).mpr hk))
  unused n hn h := h₂.unused n ((h₁.drawn n).mpr hn) (h₁.unused n hn h)
  mono := D.mono_trans _ _ _ h₁.mono h₂.mono

/-- Effects that leave store, clock and history alone are within every rely relation, as long as
the lock table and the drawn numbers of the others stay the same. -/
private theorem Rely.of_same {j : ℕ} {s s' : Shared σ κ Req} (hstore : s'.store = s.store)
    (hclock : s'.clock = s.clock) (hhistory : s'.history = s.history)
    (hholds : ∀ k, s'.holder k = some j ↔ s.holder k = some j) (hminted : s.minted <+: s'.minted)
    (hdrawn : ∀ n : ℕ, s'.minted[n]? = some (some j) ↔ s.minted[n]? = some (some j))
    (htouched : ∀ k, s.Touched k → s'.Touched k) : D.Rely j s s' where
  holds := hholds
  minted := hminted
  drawn := hdrawn
  clock := Int.le_of_eq hclock.symm
  history := hhistory ▸ List.prefix_refl _
  commits := by rw [Shared.commitsOf, hhistory, ← Shared.commitsOf]
  touched := htouched
  keep k _ := hstore ▸ D.keep_refl k _
  unused n _ h := hstore ▸ h
  mono := hstore ▸ D.mono_refl _

theorem touched_acquire [DecidableEq κ] {s : Shared σ κ Req} {i : ℕ} {key k : κ}
    (h : s.Touched k) : (s.acquire i key).Touched k := by
  refine h.imp_left fun hk ↦ ?_
  simp only [Shared.acquire]
  split
  · exact Option.some_ne_none i
  · exact hk

/-- A lock that is given up stays on the record. -/
private theorem touched_without {s : Shared σ κ Req} {i : ℕ} {k : κ} (h : s.Touched k) :
    s.holderWithout i k ≠ none ∨ s.droppedWith i k = true := by
  rw [Shared.holderWithout, Shared.droppedWith]
  split
  next hk => exact .inr (by simp [hk])
  next => exact h.imp_right fun hk ↦ by simp [hk]

theorem touched_release {s : Shared σ κ Req} {i : ℕ} {k : κ} (h : s.Touched k) :
    (s.release i).Touched k := touched_without h

theorem touched_commit {s : Shared σ κ Req} {i : ℕ} {r : Req} {snap : σ} {w : σ → σ} {k : κ}
    (h : s.Touched k) : (s.commit i r snap w).Touched k := touched_without h

theorem acquire_holder [DecidableEq κ] (s : Shared σ κ Req) (i : ℕ) (key k : κ) :
    (s.acquire i key).holder k = if k = key then some i else s.holder k := rfl

theorem holderWithout_eq_some {s : Shared σ κ Req} {i j : ℕ} (h : j ≠ i) (k : κ) :
    s.holderWithout i k = some j ↔ s.holder k = some j := by
  rw [Shared.holderWithout]
  split
  next hk => rw [hk]; exact ⟨fun h' ↦ absurd h' (by simp),
    fun h' ↦ absurd (Option.some.inj h') h.symm⟩
  next => exact Iff.rfl

private theorem mint_getElem? {s : Shared σ κ Req} {i j : ℕ} (h : j ≠ i) (n : ℕ) :
    (s.mint i).minted[n]? = some (some j) ↔ s.minted[n]? = some (some j) := by
  rw [Shared.mint, List.getElem?_append]
  split
  next => exact Iff.rfl
  next hn =>
    rw [List.getElem?_eq_none (Nat.le_of_not_lt hn), List.getElem?_singleton]
    split
    next => simp only [Option.some.injEq, reduceCtorEq, iff_false]; exact h.symm
    next => simp

private theorem rely_quiet [DecidableEq κ] {i j : ℕ} (hj : j ≠ i) {s s' : Shared σ κ Req}
    (h : Quiet i s s') : D.Rely j s s' := by
  cases h with
  | @acquire key ha =>
    refine .of_same rfl rfl rfl (fun k ↦ ?_) (List.prefix_refl _) (fun _ ↦ Iff.rfl)
      fun _ ↦ touched_acquire
    rw [acquire_holder]
    split
    next hk =>
      subst hk
      constructor
      · exact fun he ↦ absurd (Option.some.inj he).symm hj
      · intro he
        rcases ha with ha | ha
        · exact absurd (ha.symm.trans he) (by simp)
        · exact absurd (Option.some.inj (ha.symm.trans he)).symm hj
    next => exact Iff.rfl
  | mint =>
    exact .of_same rfl rfl rfl (fun _ ↦ Iff.rfl) (List.prefix_append _ _) (mint_getElem? hj)
      fun _ h ↦ h
  | release =>
    exact .of_same rfl rfl rfl (holderWithout_eq_some hj) (List.prefix_refl _) (fun _ ↦ Iff.rfl)
      fun _ ↦ touched_release

variable (D)

def toProtocol [DecidableEq κ] : Protocol σ κ Req where
  Inv := D.Inv
  Rely := D.Rely
  rely_refl := Rely.refl
  rely_trans _ _ _ _ := Rely.trans
  quiet i s s' h hinv := by
    refine ⟨?_, fun j hj ↦ rely_quiet hj h⟩
    cases h with
    | acquire _ =>
      exact D.inv_of_same s _ rfl rfl (List.prefix_refl _) (Int.le_refl _)
        (fun _ ↦ touched_acquire) hinv
    | mint =>
      exact D.inv_of_same s _ rfl rfl (List.prefix_append _ _) (Int.le_refl _) (fun _ h ↦ h) hinv
    | release =>
      exact D.inv_of_same s _ rfl rfl (List.prefix_refl _) (Int.le_refl _)
        (fun _ ↦ touched_release) hinv
  tick s t ht hinv := by
    refine ⟨D.inv_of_same s _ rfl rfl (List.prefix_refl _) ht (fun _ h ↦ h) hinv, fun j ↦ ?_⟩
    exact { Rely.refl j s with clock := ht }

variable {D}

/-- What a committing session owes the others: it changes only what its own keys protect, uses
only numbers it drew itself, and keeps what every commit keeps. -/
theorem rely_commit {i : ℕ} {r : Req} {snap : σ} {w : σ → σ} {s : Shared σ κ Req}
    (hkeep : ∀ k, s.holder k ≠ some i → D.Keep k s.store (w s.store))
    (hunused : ∀ n : ℕ, s.minted[n]? ≠ some (some i) → D.Unused n s.store → D.Unused n (w s.store))
    (hmono : D.Mono s.store (w s.store)) :
    ∀ j, j ≠ i → D.Rely j s (s.commit i r snap w) := by
  intro j hj
  refine
    { holds := holderWithout_eq_some hj
      minted := List.prefix_refl _
      drawn := fun _ ↦ Iff.rfl
      clock := Int.le_refl _
      history := List.prefix_append _ _
      commits := ?_
      touched := fun _ ↦ touched_commit
      keep := fun k hk ↦ hkeep k fun he ↦ hj (Option.some.inj (hk.symm.trans he))
      unused := fun n hn h ↦ hunused n (fun he ↦ hj ?_) h
      mono := hmono }
  · rw [Shared.commitsOf, Shared.commitsOf, Shared.commit, List.filter_append]
    simp [Ne.symm hj]
  · exact Option.some.inj (Option.some.inj (hn.symm.trans he))

variable [DecidableEq κ]

/-! ## A session's own view

Between two of its statements a session relies on the others, and its own locks and numbers only
grow. `Since` is what it knows about an earlier moment of its transaction. -/

/-- What session `i` knows at `s'` about the earlier `s`, when it has not ended its transaction. -/
structure Since (D : Discipline σ κ Req) (i : ℕ) (s s' : Shared σ κ Req) : Prop where
  holds : ∀ k, s.holder k = some i → s'.holder k = some i
  minted : s.minted <+: s'.minted
  clock : s.clock ≤ s'.clock
  history : s.history <+: s'.history
  commits : s'.commitsOf i = s.commitsOf i
  touched : ∀ k, s.Touched k → s'.Touched k
  keep : ∀ k, s.holder k = some i → D.Keep k s.store s'.store
  unused : ∀ n : ℕ, s.minted[n]? = some (some i) → D.Unused n s.store → D.Unused n s'.store
  mono : D.Mono s.store s'.store

section Since

variable {i : ℕ} {s s' s₁ s₂ s₃ : Shared σ κ Req}

omit [DecidableEq κ] in
theorem Since.drawn (h : D.Since i s s') {n : ℕ} (hn : s.minted[n]? = some (some i)) :
    s'.minted[n]? = some (some i) := by
  obtain ⟨l, hl⟩ := h.minted
  rw [← hl, List.getElem?_append_left (List.getElem?_eq_some_iff.mp hn).1]
  exact hn

omit [DecidableEq κ] in
theorem Since.refl (s : Shared σ κ Req) : D.Since i s s where
  holds _ h := h
  minted := List.prefix_refl _
  clock := Int.le_refl _
  history := List.prefix_refl _
  commits := rfl
  touched _ h := h
  keep k _ := D.keep_refl k _
  unused _ _ h := h
  mono := D.mono_refl _

omit [DecidableEq κ] in
theorem Since.trans (h₁ : D.Since i s₁ s₂) (h₂ : D.Since i s₂ s₃) : D.Since i s₁ s₃ where
  holds k hk := h₂.holds k (h₁.holds k hk)
  minted := h₁.minted.trans h₂.minted
  clock := Int.le_trans h₁.clock h₂.clock
  history := h₁.history.trans h₂.history
  commits := h₂.commits.trans h₁.commits
  touched k hk := h₂.touched k (h₁.touched k hk)
  keep k hk := D.keep_trans k _ _ _ (h₁.keep k hk) (h₂.keep k (h₁.holds k hk))
  unused n hn h := h₂.unused n (h₁.drawn hn) (h₁.unused n hn h)
  mono := D.mono_trans _ _ _ h₁.mono h₂.mono

theorem since_of_later (h : D.toProtocol.Later i s s') : D.Since i s s' where
  holds k := (Rely.holds h.rely k).mpr
  minted := Rely.minted h.rely
  clock := Rely.clock h.rely
  history := Rely.history h.rely
  commits := Rely.commits h.rely
  touched := Rely.touched h.rely
  keep := Rely.keep h.rely
  unused := Rely.unused h.rely
  mono := Rely.mono h.rely

private theorem since_acquire (key : κ) : D.Since i s (s.acquire i key) where
  holds k hk := by
    rw [acquire_holder]
    split
    · rfl
    · exact hk
  minted := List.prefix_refl _
  clock := Int.le_refl _
  history := List.prefix_refl _
  commits := rfl
  touched _ := touched_acquire
  keep k _ := D.keep_refl k _
  unused _ _ h := h
  mono := D.mono_refl _

omit [DecidableEq κ] in
private theorem since_mint : D.Since i s (s.mint i) where
  holds _ hk := hk
  minted := List.prefix_append _ _
  clock := Int.le_refl _
  history := List.prefix_refl _
  commits := rfl
  touched _ h := h
  keep k _ := D.keep_refl k _
  unused _ _ h := h
  mono := D.mono_refl _

end Since

/-- The session goes on from view `v` to view `w` without writing. -/
structure Onward (D : Discipline σ κ Req) (i : ℕ) (v w : View σ κ Req) : Prop where
  since : D.Since i v.shared w.shared
  inv : D.Inv w.shared
  pending : w.pending = v.pending

omit [DecidableEq κ] in
theorem Onward.trans {i : ℕ} {u v w : View σ κ Req} (h₁ : D.Onward i u v) (h₂ : D.Onward i v w) :
    D.Onward i u w :=
  ⟨h₁.since.trans h₂.since, h₂.inv, h₂.pending.trans h₁.pending⟩

section Rules

variable {ε α β : Type} {i : ℕ} {r : Req} {v : View σ κ Req} {E : ε → View σ κ Req → Prop}

theorem inv_acquire {s : Shared σ κ Req} {key : κ} (ha : s.Available i key) (h : D.Inv s) :
    D.Inv (s.acquire i key) := (D.toProtocol.quiet i s _ (.acquire ha) h).1

theorem onward_of_later {s : Shared σ κ Req} {snap : σ}
    (hs : D.toProtocol.Later i v.shared s) : D.Onward i v ⟨s, v.pending, snap⟩ :=
  ⟨since_of_later hs, hs.inv, rfl⟩

theorem onward_acquire {s : Shared σ κ Req} {snap : σ} {key : κ}
    (hs : D.toProtocol.Later i v.shared s) (ha : s.Available i key) :
    D.Onward i v ⟨s.acquire i key, v.pending, snap⟩ :=
  ⟨(since_of_later hs).trans (since_acquire key), inv_acquire ha hs.inv, rfl⟩

theorem onward_mint {s : Shared σ κ Req} {snap : σ} (hs : D.toProtocol.Later i v.shared s) :
    D.Onward i v ⟨s.mint i, v.pending, snap⟩ :=
  ⟨(since_of_later hs).trans since_mint, (D.toProtocol.quiet i s _ .mint hs.inv).1, rfl⟩

theorem wp_now {Q : ℤ → View σ κ Req → Prop}
    (h : ∀ w, D.Onward i v w → Q w.shared.clock w) : D.toProtocol.wp i r Q E now v :=
  Protocol.wp_now fun _ hs ↦ h _ (onward_of_later hs)

theorem wp_snapshot {Q : σ → View σ κ Req → Prop}
    (h : ∀ w, D.Onward i v w → w.snapshot = w.shared.store → Q (v.pending w.shared.store) w) :
    D.toProtocol.wp i r Q E snapshot v :=
  Protocol.wp_snapshot fun _ hs ↦ h _ (onward_of_later hs) rfl

theorem wp_lock {key : κ} {Q : σ → View σ κ Req → Prop}
    (h : ∀ w, D.Onward i v w → w.shared.holder key = some i → Q (v.pending w.shared.store) w) :
    D.toProtocol.wp i r Q E (lock key) v :=
  Protocol.wp_lock fun _ hs ha ↦ h _ (onward_acquire hs ha) (if_pos rfl)

/-- The lock is taken, or some session has it. -/
theorem wp_tryLock {key : κ} {Q : Option σ → View σ κ Req → Prop}
    (h : ∀ w, D.Onward i v w → w.shared.holder key = some i →
      Q (some (v.pending w.shared.store)) w)
    (hbusy : ∀ w, D.Onward i v w → w.shared.Touched key → Q none w) :
    D.toProtocol.wp i r Q E (tryLock key) v :=
  Protocol.wp_tryLock (fun _ hs ha ↦ h _ (onward_acquire hs ha) (if_pos rfl))
    fun _ hs ha ↦ hbusy _ (onward_of_later hs) (.inl fun hnone ↦ ha (.inl hnone))

theorem wp_nextval {Q : ℕ → View σ κ Req → Prop}
    (h : ∀ w (n : ℕ), D.Onward i v w → w.shared.minted[n]? = some (some i) →
      D.Unused n w.shared.store → Q n w) :
    D.toProtocol.wp i r Q E nextval v := by
  refine Protocol.wp_nextval fun s hs ↦ h (v.at (s.mint i)) _ (onward_mint hs) ?_ ?_
  · exact List.getElem?_concat_length
  · exact D.unused_of_inv s _ hs.inv le_rfl

/-- The row is missing, or it is read under its lock. -/
theorem wp_selectForUpdate {key : κ} {row : σ → Option β} {Q : Option β → View σ κ Req → Prop}
    (hnone : ∀ w, D.Onward i v w → row (v.pending w.shared.store) = none → Q none w)
    (hsome : ∀ w b, D.Onward i v w → w.shared.holder key = some i →
      row (v.pending w.shared.store) = some b → Q (some b) w) :
    D.toProtocol.wp i r Q E (selectForUpdate key row) v := by
  refine Protocol.wp_selectForUpdate (fun s hs hrow ↦ ?_) fun s s' hs _ hs' ha ↦ ?_
  · exact hnone _ (onward_of_later hs) hrow
  · have honward : D.Onward i v ⟨s'.acquire i key, v.pending, s.store⟩ :=
      ⟨((since_of_later hs).trans (since_of_later hs')).trans (since_acquire key),
        inv_acquire ha hs'.inv, rfl⟩
    cases hrow : row (v.pending s'.store) with
    | none => exact hnone _ honward hrow
    | some b => exact hsome _ b honward (if_pos rfl) hrow

end Rules

end Discipline

end RowLock
