import Mathlib.Data.List.Basic
import Mathlib.Tactic.Common

/-!
# Regular expressions with look-around

A backtracking matcher for the expressions that patterns of scripting languages are written in:
classes, sequences, greedy repetitions, and assertions on the unit before and the unit after a
place. A matcher lists the places it can end at, the preferred one first.

`Matches` reads the list as a relation between a span and what surrounds it, with one equivalence
for each way an expression is built.

## Places instead of spans

A matcher gets a place, that is, the unit before it and the text behind it, and answers with
places further on. Look-behind needs no more of the past than that one unit, and look-ahead no
more of the text than its head. A repetition tries another round first and stops where it is
second; a round that goes nowhere is not taken once there are enough, which is the rule that lets
the repetition of an empty match come to an end.

The engine takes the first place of the list. Proofs mostly ask whether there is one at all, or
which spans are possible, and for that the order is forgotten.
-/

namespace Texts

/-- A place in a text: the unit before it, if there is one, and the text behind it. -/
abbrev Place (α : Type) := Option α × List α

inductive Regex (α : Type) where
  /-- One unit of a class. -/
  | unit (p : α → Bool)
  | seq (r s : Regex α)
  /-- `r{min,max}`, greedy. -/
  | repeated (r : Regex α) (min max : ℕ)
  /-- `(?<!p)` -/
  | notBehind (p : α → Bool)
  /-- `(?!p)` -/
  | notAhead (p : α → Bool)
  /-- `\b`, for the units of words. -/
  | boundary (p : α → Bool)

namespace Regex

variable {α : Type}

/-- Step at least `min` and at most `max` times, as often as possible first. A step that goes
nowhere is not taken once there are enough. -/
def iterate (step : Place α → List (Place α)) : ℕ → ℕ → Place α → List (Place α)
  | _, 0, place => [place]
  | min + 1, max + 1, place => (step place).flatMap (iterate step min max)
  | 0, max + 1, place =>
    ((step place).filter fun next ↦ decide (next.2.length < place.2.length)).flatMap
      (iterate step 0 max) ++ [place]

/-- The places where a match from `place` can end, in the order in which they are tried. -/
def places : Regex α → Place α → List (Place α)
  | .unit p, place =>
    match place.2 with
    | [] => []
    | u :: text => if p u then [(some u, text)] else []
  | .seq r s, place => (r.places place).flatMap s.places
  | .repeated r min max, place => iterate r.places min max place
  | .notBehind p, place => if place.1.any p then [] else [place]
  | .notAhead p, place => if place.2.head?.any p then [] else [place]
  | .boundary p, place => if place.1.any p = place.2.head?.any p then [] else [place]

/-- `r?` -/
def optional (r : Regex α) : Regex α := repeated r 0 1

/-- The unit before the end of a span. -/
def behind (prev : Option α) (span : List α) : Option α := span.foldl (fun _ u ↦ some u) prev

/-- The expression can match the span between `prev` and `after`. -/
def Matches (r : Regex α) (prev : Option α) (span after : List α) : Prop :=
  (behind prev span, after) ∈ r.places (prev, span ++ after)

/-- The expression matches somewhere in the text. -/
def FoundIn (r : Regex α) (text : List α) : Prop :=
  ∃ before span after, text = before ++ (span ++ after) ∧ r.Matches (behind none before) span after

section

variable {r s : Regex α} {p : α → Bool} {prev : Option α} {before span after text : List α}
  {place : Place α} {min max : ℕ}

theorem iterate_zero {step : Place α → List (Place α)} : iterate step min 0 place = [place] := by
  cases min <;> rfl

theorem iterate_succ {step : Place α → List (Place α)} :
    iterate step (min + 1) (max + 1) place = (step place).flatMap (iterate step min max) := rfl

theorem iterate_zero_succ {step : Place α → List (Place α)} : iterate step 0 (max + 1) place =
    ((step place).filter fun next ↦ decide (next.2.length < place.2.length)).flatMap
      (iterate step 0 max) ++ [place] := rfl

theorem places_unit_cons {u : α} :
    (unit p).places (prev, u :: text) = if p u then [(some u, text)] else [] := rfl

theorem places_seq : (seq r s).places place = (r.places place).flatMap s.places := rfl

theorem places_repeated : (repeated r min max).places place = iterate r.places min max place := rfl

theorem places_notBehind :
    (notBehind p).places place = if place.1.any p then [] else [place] := rfl

theorem places_notAhead :
    (notAhead p).places place = if place.2.head?.any p then [] else [place] := rfl

theorem places_boundary : (boundary p).places place =
    if place.1.any p = place.2.head?.any p then [] else [place] := rfl

@[simp] theorem behind_nil : behind prev [] = prev := rfl

@[simp] theorem behind_cons {u : α} : behind prev (u :: span) = behind (some u) span := rfl

@[simp] theorem behind_append : behind prev (before ++ span) = behind (behind prev before) span :=
  List.foldl_append

/-! ## Every match is a span

A place that is reached from another has the same text but for a span at its front. The span, and
the unit in front of it, are all a match depends on.
-/

/-- Places that lie a span further. -/
def Advances (step : Place α → List (Place α)) : Prop :=
  ∀ place, ∀ next ∈ step place, ∃ span, place.2 = span ++ next.2 ∧ next.1 = behind place.1 span

theorem advances_iterate {step : Place α → List (Place α)} (h : Advances step) :
    Advances (iterate step min max) := by
  induction max generalizing min with
  | zero =>
    intro place next hnext
    rw [iterate_zero, List.mem_singleton] at hnext
    exact ⟨[], by rw [hnext]; rfl, by rw [hnext]; rfl⟩
  | succ max ih =>
    have hthen : ∀ min place middle next, middle ∈ step place → next ∈ iterate step min max middle →
        ∃ span, place.2 = span ++ next.2 ∧ next.1 = behind place.1 span := by
      intro min place middle next hmiddle hnext
      obtain ⟨first, htext, hprev⟩ := h place middle hmiddle
      obtain ⟨rest, htext', hprev'⟩ := ih middle next hnext
      refine ⟨first ++ rest, ?_, ?_⟩
      · rw [htext, htext', List.append_assoc]
      · rw [hprev', hprev, behind_append]
    intro place next hnext
    cases min with
    | zero =>
      rw [iterate_zero_succ, List.mem_append, List.mem_flatMap, List.mem_singleton] at hnext
      rcases hnext with ⟨middle, hmiddle, hnext⟩ | rfl
      · exact hthen 0 place middle next (List.mem_of_mem_filter hmiddle) hnext
      · exact ⟨[], rfl, rfl⟩
    | succ min =>
      rw [iterate_succ, List.mem_flatMap] at hnext
      obtain ⟨middle, hmiddle, hnext⟩ := hnext
      exact hthen min place middle next hmiddle hnext

theorem advances_assertion {c : Prop} [Decidable c] {next : Place α}
    (h : next ∈ (if c then [] else [place])) :
    ∃ span, place.2 = span ++ next.2 ∧ next.1 = behind place.1 span := by
  split at h
  · cases h
  · rw [List.mem_singleton] at h
    exact ⟨[], by rw [h]; rfl, by rw [h]; rfl⟩

theorem advances_places (r : Regex α) : Advances r.places := by
  induction r with
  | unit p =>
    rintro ⟨prev, text⟩ next hnext
    cases text with
    | nil => cases hnext
    | cons u text =>
      rw [places_unit_cons] at hnext
      split at hnext
      · rw [List.mem_singleton] at hnext
        exact ⟨[u], by rw [hnext]; rfl, by rw [hnext]; rfl⟩
      · cases hnext
  | seq r s ihr ihs =>
    intro place next hnext
    rw [places_seq, List.mem_flatMap] at hnext
    obtain ⟨middle, hmiddle, hnext⟩ := hnext
    obtain ⟨first, htext, hprev⟩ := ihr place middle hmiddle
    obtain ⟨rest, htext', hprev'⟩ := ihs middle next hnext
    refine ⟨first ++ rest, ?_, ?_⟩
    · rw [htext, htext', List.append_assoc]
    · rw [hprev', hprev, behind_append]
  | repeated r min max ih => exact advances_iterate ih
  | notBehind p =>
    intro place next hnext
    rw [places_notBehind] at hnext
    exact advances_assertion hnext
  | notAhead p =>
    intro place next hnext
    rw [places_notAhead] at hnext
    exact advances_assertion hnext
  | boundary p =>
    intro place next hnext
    rw [places_boundary] at hnext
    exact advances_assertion hnext

theorem exists_matches_of_mem (h : place ∈ r.places (prev, text)) :
    ∃ span, text = span ++ place.2 ∧ place.1 = behind prev span ∧ r.Matches prev span place.2 := by
  obtain ⟨span, htext, hprev⟩ := advances_places r _ _ h
  refine ⟨span, htext, hprev, ?_⟩
  rw [Matches, ← htext, ← hprev]
  exact h

/-! ## One equivalence for each constructor

How a match of an expression comes of matches of its parts, with what stands before and behind
each part. These are the lemmas by which a concrete pattern is understood.
-/

theorem matches_unit_iff : (unit p).Matches prev span after ↔ ∃ u, span = [u] ∧ p u = true := by
  constructor
  · intro h
    rw [Matches] at h
    generalize htext : span ++ after = text at h
    cases text with
    | nil => cases h
    | cons u text =>
      rw [places_unit_cons] at h
      split at h
      next hp =>
        rw [List.mem_singleton, Prod.mk.injEq] at h
        refine ⟨u, ?_, hp⟩
        rw [← h.2] at htext
        exact List.append_cancel_right (show span ++ after = [u] ++ after from htext)
      · cases h
  · rintro ⟨u, rfl, hp⟩
    rw [Matches, List.singleton_append, places_unit_cons, if_pos hp]
    exact List.mem_singleton_self _

theorem matches_seq_iff : (seq r s).Matches prev span after ↔
    ∃ first rest, span = first ++ rest ∧ r.Matches prev first (rest ++ after) ∧
      s.Matches (behind prev first) rest after := by
  constructor
  · intro h
    rw [Matches, places_seq, List.mem_flatMap] at h
    obtain ⟨⟨middlePrev, middleText⟩, hmiddle, hnext⟩ := h
    obtain ⟨first, htext, hprev, hfirst⟩ := exists_matches_of_mem hmiddle
    obtain ⟨rest, hrest, -, hmatches⟩ := exists_matches_of_mem hnext
    dsimp only at htext hprev hfirst hrest hmatches
    rw [hrest, ← List.append_assoc] at htext
    rw [hrest] at hfirst
    rw [hprev] at hmatches
    exact ⟨first, rest, List.append_cancel_right htext, hfirst, hmatches⟩
  · rintro ⟨first, rest, rfl, hfirst, hrest⟩
    rw [Matches, places_seq, List.mem_flatMap]
    refine ⟨_, by rw [List.append_assoc]; exact hfirst, ?_⟩
    rw [behind_append]
    exact hrest

theorem matches_repeated_zero_iff : (repeated r min 0).Matches prev span after ↔ span = [] := by
  rw [Matches, places_repeated, iterate_zero, List.mem_singleton]
  constructor
  · intro h
    exact List.append_cancel_right (Prod.ext_iff.mp h).2.symm
  · rintro rfl
    rfl

/-- A repetition that has to go on. -/
theorem matches_repeated_succ_iff : (repeated r (min + 1) (max + 1)).Matches prev span after ↔
    ∃ first rest, span = first ++ rest ∧ r.Matches prev first (rest ++ after) ∧
      (repeated r min max).Matches (behind prev first) rest after :=
  matches_seq_iff (s := repeated r min max)

/-- A repetition that may stop. -/
theorem matches_repeated_zero_succ_iff : (repeated r 0 (max + 1)).Matches prev span after ↔
    span = [] ∨ ∃ first rest, span = first ++ rest ∧ first ≠ [] ∧
      r.Matches prev first (rest ++ after) ∧
        (repeated r 0 max).Matches (behind prev first) rest after := by
  rw [Matches, places_repeated, iterate_zero_succ, List.mem_append, List.mem_flatMap,
    List.mem_singleton, or_comm]
  refine or_congr ⟨fun h ↦ ?_, ?_⟩ ⟨?_, ?_⟩
  · exact List.append_cancel_right (Prod.ext_iff.mp h).2.symm
  · rintro rfl
    rfl
  · rintro ⟨⟨middlePrev, middleText⟩, hmiddle, hnext⟩
    obtain ⟨hmiddle, hshorter⟩ := List.mem_filter.mp hmiddle
    obtain ⟨first, htext, hprev, hfirst⟩ := exists_matches_of_mem hmiddle
    have hnext' : (behind prev span, after) ∈ (repeated r 0 max).places (middlePrev, middleText) :=
      hnext
    obtain ⟨rest, hrest, -, hmatches⟩ := exists_matches_of_mem hnext'
    dsimp only at htext hprev hfirst hrest hmatches
    have hne : first ≠ [] := by
      rintro rfl
      rw [htext] at hshorter
      simp at hshorter
    rw [hrest, ← List.append_assoc] at htext
    rw [hrest] at hfirst
    rw [hprev] at hmatches
    exact ⟨first, rest, List.append_cancel_right htext, hne, hfirst, hmatches⟩
  · rintro ⟨first, rest, rfl, hne, hfirst, hrest⟩
    refine ⟨(behind prev first, rest ++ after), List.mem_filter.mpr ⟨?_, ?_⟩, ?_⟩
    · rw [List.append_assoc]
      exact hfirst
    · have := List.length_pos_of_ne_nil hne
      simp only [List.length_append, decide_eq_true_eq]
      omega
    · rw [behind_append]
      exact hrest

theorem matches_optional_iff : r.optional.Matches prev span after ↔
    span = [] ∨ (span ≠ [] ∧ r.Matches prev span after) := by
  rw [optional, matches_repeated_zero_succ_iff]
  simp only [matches_repeated_zero_iff]
  constructor
  · rintro (h | ⟨first, rest, rfl, hne, hfirst, rfl⟩)
    · exact .inl h
    · rw [List.append_nil]
      exact .inr ⟨hne, hfirst⟩
  · rintro (h | ⟨hne, h⟩)
    · exact .inl h
    · exact .inr ⟨span, [], (List.append_nil _).symm, hne, h, rfl⟩

theorem matches_repeated_unit_iff (hle : min ≤ max) :
    (repeated (unit p) min max).Matches prev span after ↔
      min ≤ span.length ∧ span.length ≤ max ∧ ∀ u ∈ span, p u = true := by
  induction max generalizing min prev span with
  | zero =>
    rw [matches_repeated_zero_iff, ← List.length_eq_zero_iff]
    constructor
    · intro h
      refine ⟨by omega, by omega, fun u hu ↦ ?_⟩
      rw [List.length_eq_zero_iff.mp h] at hu
      cases hu
    · omega
  | succ max ih =>
    -- Both rules say that the first unit is of the class and that the rest goes on.
    have hcons : ∀ {min u} {rest : List α}, min ≤ max →
        ((unit p).Matches prev [u] (rest ++ after) ∧
            (repeated (unit p) min max).Matches (some u) rest after ↔
          min + 1 ≤ (u :: rest).length ∧ (u :: rest).length ≤ max + 1 ∧
            ∀ v ∈ u :: rest, p v = true) := by
      intro min u rest hle
      rw [ih hle, matches_unit_iff, List.forall_mem_cons, List.length_cons,
        Nat.add_le_add_iff_right, Nat.add_le_add_iff_right]
      simp only [List.cons.injEq, and_true, exists_eq_left']
      exact ⟨fun ⟨hu, hmin, hmax, hrest⟩ ↦ ⟨hmin, hmax, hu, hrest⟩,
        fun ⟨hmin, hmax, hu, hrest⟩ ↦ ⟨hu, hmin, hmax, hrest⟩⟩
    cases min with
    | zero =>
      rw [matches_repeated_zero_succ_iff]
      constructor
      · rintro (rfl | ⟨first, rest, rfl, -, hfirst, hrest⟩)
        · exact ⟨Nat.le_refl 0, Nat.zero_le _, fun u hu ↦ absurd hu List.not_mem_nil⟩
        · obtain ⟨u, rfl, -⟩ := matches_unit_iff.mp hfirst
          obtain ⟨-, hmax, hclass⟩ := (hcons (Nat.zero_le _)).mp ⟨hfirst, hrest⟩
          exact ⟨Nat.zero_le _, hmax, hclass⟩
      · rintro ⟨-, hmax, hclass⟩
        cases span with
        | nil => exact .inl rfl
        | cons u rest =>
          obtain ⟨hfirst, hrest⟩ := (hcons (Nat.zero_le _)).mpr ⟨by simp, hmax, hclass⟩
          exact .inr ⟨[u], rest, rfl, List.cons_ne_nil _ _, hfirst, hrest⟩
    | succ min =>
      rw [matches_repeated_succ_iff]
      constructor
      · rintro ⟨first, rest, rfl, hfirst, hrest⟩
        obtain ⟨u, rfl, -⟩ := matches_unit_iff.mp hfirst
        exact (hcons (Nat.le_of_succ_le_succ hle)).mp ⟨hfirst, hrest⟩
      · intro h
        cases span with
        | nil => exact absurd h.1 (Nat.not_succ_le_zero _)
        | cons u rest =>
          obtain ⟨hfirst, hrest⟩ := (hcons (Nat.le_of_succ_le_succ hle)).mpr h
          exact ⟨[u], rest, rfl, hfirst, hrest⟩

theorem mem_assertion_iff {c : Prop} [Decidable c] :
    (behind prev span, after) ∈ (if c then [] else [(prev, span ++ after)]) ↔ span = [] ∧ ¬ c := by
  split
  next hc => simp [hc]
  next hc =>
    rw [List.mem_singleton]
    constructor
    · intro h
      exact ⟨List.append_cancel_right (Prod.ext_iff.mp h).2.symm, hc⟩
    · rintro ⟨rfl, -⟩
      rfl

theorem matches_notBehind_iff : (notBehind p).Matches prev span after ↔
    span = [] ∧ prev.any p = false := by
  rw [Matches, places_notBehind, mem_assertion_iff, Bool.not_eq_true]

theorem matches_notAhead_iff : (notAhead p).Matches prev span after ↔
    span = [] ∧ after.head?.any p = false := by
  rw [Matches, places_notAhead, mem_assertion_iff, Bool.not_eq_true]
  refine and_congr_right ?_
  rintro rfl
  rfl

theorem matches_boundary_iff : (boundary p).Matches prev span after ↔
    span = [] ∧ prev.any p ≠ after.head?.any p := by
  rw [Matches, places_boundary, mem_assertion_iff]
  refine and_congr_right ?_
  rintro rfl
  rfl

/-- A match does not look further than one unit behind its end. -/
theorem matches_congr {after' : List α} (hafter : after.head? = after'.head?)
    (h : r.Matches prev span after) : r.Matches prev span after' := by
  have happend : ∀ {rest : List α} {a a' : List α}, a.head? = a'.head? →
      (rest ++ a).head? = (rest ++ a').head? := by
    intro rest a a' ha
    rw [List.head?_append, List.head?_append, ha]
  induction r generalizing prev span after after' with
  | unit p => exact matches_unit_iff.mpr (matches_unit_iff.mp h)
  | seq r s ihr ihs =>
    obtain ⟨first, rest, rfl, hfirst, hrest⟩ := matches_seq_iff.mp h
    exact matches_seq_iff.mpr ⟨first, rest, rfl, ihr (happend hafter) hfirst, ihs hafter hrest⟩
  | repeated r min max ih =>
    induction max generalizing min prev span with
    | zero => exact matches_repeated_zero_iff.mpr (matches_repeated_zero_iff.mp h)
    | succ max ihmax =>
      cases min with
      | zero =>
        refine matches_repeated_zero_succ_iff.mpr ?_
        rcases matches_repeated_zero_succ_iff.mp h with rfl | ⟨first, rest, rfl, hne, hfirst, hrest⟩
        · exact .inl rfl
        · exact .inr ⟨first, rest, rfl, hne, ih (happend hafter) hfirst, ihmax _ hrest⟩
      | succ min =>
        obtain ⟨first, rest, rfl, hfirst, hrest⟩ := matches_repeated_succ_iff.mp h
        exact matches_repeated_succ_iff.mpr
          ⟨first, rest, rfl, ih (happend hafter) hfirst, ihmax _ hrest⟩
  | notBehind p => exact matches_notBehind_iff.mpr (matches_notBehind_iff.mp h)
  | notAhead p =>
    rw [matches_notAhead_iff] at h ⊢
    rwa [← hafter]
  | boundary p =>
    rw [matches_boundary_iff] at h ⊢
    rwa [← hafter]

end

end Regex

end Texts
