import Nayasetu.RowLock.Tracing

/-!
# What a session has still to meet

A transaction that checks something reads it once and relies on it until it commits. Whether it
may still commit after what it checks has changed depends on whether it has its check behind it. A
session `Awaits` a property of the store if it commits nothing more unless it first meets a store
with the property.

If all sessions of a kind await a property, no session of that kind commits anything from the time
on when the property is gone for good (`awaits_run`).
-/

namespace RowLock

variable {σ κ ε ρ Req : Type} [DecidableEq κ] {program : Req → Program σ κ ε ρ} {J : σ → Prop}

/-- The rest of the session commits nothing unless it first meets a store with the property. -/
def Awaits (J : σ → Prop) (clock : ℤ) (u : Session σ κ ε ρ Req) : Prop :=
  ∀ p, u.program = some p → ∃ w : Trace σ, w.pending = u.pending ∧ w.clock ≤ clock ∧
    (∀ s ∈ w.met, ¬ J s) ∧
      p.Traced (fun v ↦ ∃ s ∈ v.met, J s) (fun _ _ ↦ True) (fun _ _ ↦ True) w

omit [DecidableEq κ] in
theorem Awaits.later {clock clock' : ℤ} {u : Session σ κ ε ρ Req} (h : Awaits J clock u)
    (hclock : clock ≤ clock') : Awaits J clock' u := by
  intro p hp
  obtain ⟨w, hpending, hw, hmet, htraced⟩ := h p hp
  exact ⟨w, hpending, Int.le_trans hw hclock, hmet, htraced⟩

omit [DecidableEq κ] in
/-- A session that has ended awaits everything. -/
theorem awaits_of_ended {clock : ℤ} {u : Session σ κ ε ρ Req}
    (h : ∀ p, u.program = some p → (∃ a, p = .pure a) ∨ ∃ e, p = .throw e) : Awaits J clock u := by
  intro p hp
  refine ⟨⟨u.pending, [], clock, clock, false⟩, rfl, Int.le_refl _, List.forall_mem_nil _, ?_⟩
  rcases h p hp with ⟨a, rfl⟩ | ⟨e, rfl⟩ <;> exact trivial

/-- A statement of a session that awaits the property: it goes on awaiting it if the store has it
not, and does not commit. -/
theorem Awaits.execute {i n : ℕ} {s s' : Shared σ κ Req} {u u' : Session σ κ ε ρ Req}
    {p : Program σ κ ε ρ} (h : Awaits J s.clock u) (hp : u.program = some p)
    (he : RowLock.execute i n s u p = some (s', u')) :
    s'.history = s.history ∧ (¬ J s.store → Awaits J s'.clock u') := by
  obtain ⟨w, hpending, hw, hmet, htraced⟩ := h p hp
  obtain ⟨p', w', hp', htraced', hadd⟩ := execute_traced he htraced hpending hw
  rcases hadd.history with ⟨hhistory, -⟩ | ⟨e, -, -, ⟨s₁, hs₁, hJ⟩, -⟩
  · refine ⟨hhistory, fun hJ q hq ↦ ?_⟩
    obtain rfl := Option.some.inj (hp'.symm.trans hq)
    refine ⟨w', hadd.pending, hadd.clock, ?_, htraced'⟩
    rcases hadd.met with hmet' | hmet'
    · rwa [hmet']
    · rw [hmet']
      exact List.forall_mem_cons.mpr ⟨hJ, hmet⟩
  · exact absurd hJ (hmet s₁ hs₁)

/-- A step of any session, if all sessions of a kind await a property: it commits nothing for this
kind, and they go on awaiting it if the step commits or the store has it not. -/
theorem awaits_step {P : Req → Prop}
    (hstart : ∀ r t, P r → (program r).Traced (fun v ↦ ∃ s ∈ v.met, J s) (fun _ _ ↦ True)
      (fun _ _ ↦ True) (.start t))
    {c c' : Config σ κ ε ρ Req} {a : Action Req} (h : step program c a = some c')
    (hJ : c'.shared.history = c.shared.history → ¬ J c.shared.store)
    (hawaits : ∀ u ∈ c.sessions, P u.request → Awaits J c.shared.clock u) :
    (∀ u ∈ c'.sessions, P u.request → Awaits J c'.shared.clock u) ∧
      ∃ later, c'.shared.history = c.shared.history ++ later ∧ ∀ e ∈ later, ¬ P e.request := by
  have hclock := step_clock h
  have hothers (u : Session σ κ ε ρ Req) (hu : u ∈ c.sessions) (hP : P u.request) :
      Awaits J c'.shared.clock u := (hawaits u hu hP).later hclock
  cases a with
  | start r =>
    obtain rfl := Option.some.inj h
    refine ⟨fun u hu hP ↦ ?_, [], (List.append_nil _).symm, List.forall_mem_nil _⟩
    rcases List.mem_append.mp hu with hu | hu
    · exact hothers u hu hP
    · obtain rfl := List.mem_singleton.mp hu
      intro p hp
      obtain rfl := Option.some.inj hp
      exact ⟨.start c.shared.clock, rfl, Int.le_refl _, List.forall_mem_nil _, hstart r _ hP⟩
  | run i n =>
    simp only [step, Option.bind_eq_bind, Option.bind_eq_some_iff] at h
    obtain ⟨u, hu, p, hp, ⟨s, u'⟩, he, hc'⟩ := h
    obtain rfl := Option.some.inj hc'
    have hmem := List.mem_of_getElem? hu
    obtain ⟨hrequest, hhistory⟩ := execute_history he
    refine ⟨fun v hv hP ↦ ?_, ?_⟩
    · rcases List.mem_or_eq_of_mem_set hv with hv | rfl
      · exact hothers v hv hP
      · rw [hrequest] at hP
        obtain ⟨hsame, hnext⟩ := (hawaits u hmem hP).execute hp he
        exact hnext (hJ hsame)
    · rcases hhistory with hhistory | ⟨e, hhistory, -, he'⟩
      · exact ⟨[], hhistory.trans (List.append_nil _).symm, List.forall_mem_nil _⟩
      · refine ⟨[e], hhistory, List.forall_mem_singleton.mpr fun hP ↦ ?_⟩
        rw [he'] at hP
        obtain ⟨hsame, -⟩ := (hawaits u hmem hP).execute hp he
        exact absurd (hhistory.symm.trans hsame) (by simp)
  | tick t =>
    simp only [step] at h
    split at h
    · obtain rfl := Option.some.inj h
      exact ⟨hothers, [], (List.append_nil _).symm, List.forall_mem_nil _⟩
    · cases h
  | crash i =>
    simp only [step, Option.bind_eq_bind, Option.bind_eq_some_iff] at h
    obtain ⟨u, hu, hc'⟩ := h
    obtain rfl := Option.some.inj hc'
    refine ⟨fun v hv hP ↦ ?_, [], (List.append_nil _).symm, List.forall_mem_nil _⟩
    rcases List.mem_or_eq_of_mem_set hv with hv | rfl
    · exact hothers v hv hP
    · exact awaits_of_ended fun p hp ↦ absurd hp (by simp)

/-- **What has lost its ground commits nothing.** If from some moment on the property does not hold,
and the sessions of a kind await it at that moment, none of that kind commits anything after it. -/
theorem awaits_run {P : Req → Prop}
    (hstart : ∀ r t, P r → (program r).Traced (fun v ↦ ∃ s ∈ v.met, J s) (fun _ _ ↦ True)
      (fun _ _ ↦ True) (.start t))
    {c₀ c₁ : Config σ κ ε ρ Req} {first as : List (Action Req)}
    (hfirst : exec program c₀ first = some c₁)
    (hawaits : ∀ u ∈ c₁.sessions, P u.request → Awaits J c₁.shared.clock u) :
    ∀ {c : Config σ κ ε ρ Req}, exec program c₀ (first ++ as) = some c →
      (∀ moment c', first <+: moment → moment <+: first ++ as →
        exec program c₀ moment = some c' → ¬ J c'.shared.store) →
      (∀ u ∈ c.sessions, P u.request → Awaits J c.shared.clock u) ∧
        ∃ later, c.shared.history = c₁.shared.history ++ later ∧ ∀ e ∈ later, ¬ P e.request := by
  induction as using List.reverseRecOn with
  | nil =>
    intro c hc _
    rw [List.append_nil, hfirst] at hc
    obtain rfl := Option.some.inj hc
    exact ⟨hawaits, [], (List.append_nil _).symm, List.forall_mem_nil _⟩
  | append_singleton as a ih =>
    intro c' hc' hJ
    rw [← List.append_assoc] at hc' hJ
    obtain ⟨c, hc, hstep⟩ := exec_concat hc'
    have hprefix : first ++ as <+: first ++ as ++ [a] := List.prefix_append _ _
    obtain ⟨hawaits', later, hhistory, hlater⟩ :=
      ih hc fun moment c₂ hm hnow ↦ hJ moment c₂ hm (hnow.trans hprefix)
    obtain ⟨hnext, later', hhistory', hlater'⟩ := awaits_step hstart hstep
      (fun _ ↦ hJ _ c (List.prefix_append _ _) hprefix hc) hawaits'
    refine ⟨hnext, later ++ later', ?_, List.forall_mem_append.mpr ⟨hlater, hlater'⟩⟩
    rw [hhistory', hhistory, List.append_assoc]

/-- The step that made a commit of the log. -/
theorem exists_step_of_history {store : σ} {clock : ℤ} {drawn : ℕ} {now : List (Action Req)} :
    ∀ {c : Config σ κ ε ρ Req} {earlier later : List (Entry σ Req)} {e : Entry σ Req},
      exec program (Config.initial store clock drawn) now = some c →
      c.shared.history = earlier ++ e :: later →
      ∃ moment a c₁ c₂, moment ++ [a] <+: now ∧
        exec program (Config.initial store clock drawn) moment = some c₁ ∧
        step program c₁ a = some c₂ ∧ c₂.shared.history = earlier ++ [e] ∧
        c₂.shared.history ≠ c₁.shared.history ∧
        e.before = c₁.shared.store ∧ e.after = c₂.shared.store := by
  induction now using List.reverseRecOn with
  | nil =>
    intro c earlier later e hc hhistory
    obtain rfl := Option.some.inj hc
    exact absurd hhistory (by simp [Config.initial])
  | append_singleton now a ih =>
    intro c' earlier later e hc' hhistory
    obtain ⟨c, hc, hstep⟩ := exec_concat hc'
    have hearlier {later' : List (Entry σ Req)}
        (h : c.shared.history = earlier ++ e :: later') :
        ∃ moment b c₁ c₂, moment ++ [b] <+: now ++ [a] ∧
          exec program (Config.initial store clock drawn) moment = some c₁ ∧
          step program c₁ b = some c₂ ∧ c₂.shared.history = earlier ++ [e] ∧
          c₂.shared.history ≠ c₁.shared.history ∧
          e.before = c₁.shared.store ∧ e.after = c₂.shared.store := by
      obtain ⟨moment, b, c₁, c₂, hmoment, hrest⟩ := ih hc h
      exact ⟨moment, b, c₁, c₂, hmoment.trans (List.prefix_append _ _), hrest⟩
    rcases step_store hstep with ⟨-, hsame⟩ | ⟨e', hhistory', hbefore, hafter⟩
    · exact hearlier (hsame.symm.trans hhistory)
    · rw [hhistory'] at hhistory
      rcases List.eq_nil_or_concat' later with rfl | ⟨later', last, rfl⟩
      · obtain ⟨hsame, he⟩ := List.append_inj' hhistory rfl
        obtain rfl := List.singleton_inj.mp he
        refine ⟨now, a, c, c', List.prefix_refl _, hc, hstep, ?_, ?_, hbefore, hafter⟩
        · rw [hhistory', hsame]
        · rw [hhistory']
          simp
      · rw [← List.cons_append, ← List.append_assoc] at hhistory
        exact hearlier (List.append_inj' hhistory rfl).1

end RowLock
