import Nayasetu.Texts.Replacement

/-!
# Maximal runs

The runs of units of a class that do not go on to either side, and what becomes of them when spans
that stand apart from the class are replaced: a run is in one of the spans, or it is still there,
between the same two units.

A run is given with everything before it and behind it, and is maximal because neither side has a
unit of the class next to it. Texts are told apart by their runs where a pattern is about digits:
which numbers are in a text is a question about its runs, and a replacement answers it for the
text after from the text before (`Apart.maximalRun_rendered`) and the other way round
(`Apart.maximalRun_original`).
-/

namespace Texts

open Regex

variable {κ α : Type}

/-- A run of units of a class, with what stands before and behind it. -/
structure MaximalRun (p : α → Bool) (text before run after : List α) : Prop where
  text_eq : text = before ++ (run ++ after)
  ne_nil : run ≠ []
  forall_mem : ∀ u ∈ run, p u = true
  before_any : before.getLast?.any p = false
  after_any : after.head?.any p = false

namespace MaximalRun

variable {p : α → Bool} {text before run after digits rest : List α} {u : α}

theorem head_any (h : MaximalRun p text before run after) : run.head?.any p = true := by
  obtain ⟨u, run', rfl⟩ := List.exists_cons_of_ne_nil h.ne_nil
  exact h.forall_mem u List.mem_cons_self

theorem getLast_any (h : MaximalRun p text before run after) : run.getLast?.any p = true := by
  obtain ⟨run', u, rfl⟩ := (List.eq_nil_or_concat run).resolve_left h.ne_nil
  rw [List.concat_eq_append, List.getLast?_concat]
  exact h.forall_mem u (by simp)

theorem getLast?_any_of_append (h : (digits ++ rest).getLast?.any p = false) :
    rest.getLast?.any p = false := by
  rcases List.eq_nil_or_concat rest with rfl | ⟨rest, u, rfl⟩
  · rfl
  · rw [List.concat_eq_append, ← List.append_assoc, List.getLast?_concat] at h
    rwa [List.concat_eq_append, List.getLast?_concat]

/-- A unit of another class is not in a run. -/
theorem of_cons (h : MaximalRun p (u :: rest) before run after) (hu : p u = false) :
    ∃ before', MaximalRun p rest before' run after := by
  obtain ⟨htext, hne, hrun, hbefore, hafter⟩ := h
  cases before with
  | nil =>
    obtain ⟨v, run', rfl⟩ := List.exists_cons_of_ne_nil hne
    rw [(List.cons.inj htext).1, hrun v List.mem_cons_self] at hu
    cases hu
  | cons v before =>
    refine ⟨before, (List.cons.inj htext).2, hne, hrun, ?_, hafter⟩
    cases before with
    | nil => rfl
    | cons w before => rwa [List.getLast?_cons_cons] at hbefore

/-- A run at the start is the first one, or it is behind the first one. -/
theorem of_append (h : MaximalRun p (digits ++ rest) before run after)
    (hdigits : ∀ u ∈ digits, p u = true) (hrest : rest.head?.any p = false) :
    run = digits ∨ ∃ before', MaximalRun p rest before' run after := by
  obtain ⟨htext, hne, hrun, hbefore, hafter⟩ := h
  rcases List.append_eq_append_iff.mp htext with ⟨before', rfl, hrest'⟩ | ⟨tail, rfl, htail⟩
  · exact .inr ⟨before', hrest', hne, hrun, getLast?_any_of_append hbefore, hafter⟩
  · rcases List.eq_nil_or_concat before with rfl | ⟨before', u, rfl⟩
    · refine .inl ?_
      rcases List.append_eq_append_iff.mp htail with ⟨more, rfl, hmore⟩ | ⟨more, rfl, hmore⟩
      · cases more with
        | nil => rw [List.nil_append, List.append_nil]
        | cons v more =>
          rw [hmore, List.cons_append, List.head?_cons, Option.any_some,
            hdigits v (by simp)] at hafter
          cases hafter
      · cases more with
        | nil => rw [List.nil_append, List.append_nil]
        | cons v more =>
          rw [hmore, List.cons_append, List.head?_cons, Option.any_some,
            hrun v (List.mem_append_right _ List.mem_cons_self)] at hrest
          cases hrest
    · rw [List.concat_eq_append, List.getLast?_concat, Option.any_some,
        hdigits u (by simp)] at hbefore
      cases hbefore

/-- A text of units of the class is its only run. -/
theorem eq_of_forall (h : MaximalRun p digits before run after)
    (hdigits : ∀ u ∈ digits, p u = true) : run = digits := by
  rw [← List.append_nil digits] at h
  rcases h.of_append hdigits rfl with h | ⟨before', h⟩
  · exact h
  · have hnil := h.text_eq.symm
    rw [List.append_eq_nil_iff, List.append_eq_nil_iff] at hnil
    exact absurd hnil.2.1 h.ne_nil

end MaximalRun

section Replaced

variable {inner : α → Bool} {pieces : List (Piece κ α)} {before run after : List α}

theorem behind_none (text : List α) : behind none text = text.getLast? := by
  rcases List.eq_nil_or_concat text with rfl | ⟨text, u, rfl⟩
  · rfl
  · rw [List.concat_eq_append, behind_append, List.getLast?_concat]
    rfl

theorem Apart.maximalRun_rendered (marker : κ → List α) (h : Apart inner none pieces)
    (hrun : MaximalRun inner (original pieces) before run after) :
    (∃ before' after', MaximalRun inner (rendered marker pieces) before' run after' ∧
      before'.getLast? = before.getLast? ∧ after'.head? = after.head?) ∨
    ∃ first c x y rest, pieces = first ++ .replaced c (x ++ (run ++ y)) :: rest ∧
      before = original first ++ x ∧ after = y ++ original rest ∧
      MaximalRun inner (x ++ (run ++ y)) x run y := by
  obtain ⟨htext, hne, hmem, hbefore, hafter⟩ := hrun
  rcases h.kept_or_replaced hne hmem htext with ⟨first, rest, rfl, rfl, rfl⟩ |
    ⟨first, c, x, y, rest, rfl, rfl, rfl⟩
  · have hlast : (rendered marker first).getLast? = (original first).getLast? := by
      obtain ⟨u, run', rfl⟩ := List.exists_cons_of_ne_nil hne
      rw [← behind_none, ← behind_none]
      exact h.behind_rendered (hmem u List.mem_cons_self)
    have hhead : (rendered marker rest).head? = (original rest).head? := by
      obtain ⟨run', u, rfl⟩ := (List.eq_nil_or_concat run).resolve_left hne
      rw [List.concat_eq_append, List.map_append, List.append_assoc, ← List.append_assoc] at h
      exact h.head_rendered (hmem u (by simp))
    refine .inl ⟨rendered marker first, rendered marker rest, ⟨?_, hne, hmem, ?_, ?_⟩, hlast, hhead⟩
    · rw [rendered_append, rendered_append, rendered_map_kept]
    · rwa [hlast]
    · rwa [hhead]
  · refine .inr ⟨first, c, x, y, rest, rfl, rfl, rfl, rfl, hne, hmem,
      MaximalRun.getLast?_any_of_append hbefore, ?_⟩
    cases y with
    | nil => rfl
    | cons u y => exact hafter

/-- A run in the text after was there before. -/
theorem Apart.maximalRun_original {marker : κ → List α} (h : Apart inner none pieces)
    (hmarker : ∀ c, marker c ≠ [])
    (hfree : ∀ c, ∀ u ∈ marker c, inner u = false)
    (hrun : MaximalRun inner (rendered marker pieces) before run after) :
    ∃ before' after', MaximalRun inner (original pieces) before' run after' ∧
      before'.getLast? = before.getLast? ∧ after'.head? = after.head? := by
  have hspan : ∀ u ∈ run, ∀ c, u ∉ marker c := by
    intro u hu c hmem
    have hinner := hrun.forall_mem u hu
    rw [hfree c u hmem] at hinner
    cases hinner
  obtain ⟨first, rest, rfl, hlast, hhead⟩ :=
    h.exists_of_rendered_eq hmarker hspan hrun.head_any hrun.getLast_any hrun.text_eq
  rw [behind_none, behind_none] at hlast
  refine ⟨original first, original rest, ⟨?_, hrun.ne_nil, hrun.forall_mem, ?_, ?_⟩, hlast, hhead⟩
  · rw [original_append, original_append, original_map_kept]
  · rw [hlast]
    exact hrun.before_any
  · rw [hhead]
    exact hrun.after_any

end Replaced

end Texts
