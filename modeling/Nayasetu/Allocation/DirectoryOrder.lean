import Mathlib.Data.String.Basic
import Nayasetu.Collections.OrderedMap

/-!
# The order of a directory

Providers that were shown less often come first; ties are broken by a digest of the request and
the provider. The counts are numbers, and each stands for all counts that are read as it. The
digest is a parameter, a hexadecimal text for each pair of texts.

The comparison is the one of the source: first the counts, then the keys by `localeCompare`, which
on hexadecimal texts of one case is the order of the texts. Past 2 ^ 53 not every count is a
number of its own, and neighbouring counts are equal for the comparison.
-/

namespace Nayasetu

open Collections

/-- A provider to be shown, and how often it has been, as a number. -/
structure DirectoryCandidate where
  providerId : ℕ
  surfacedCount : ℤ
  deriving DecidableEq, Repr

/-- `localeCompare` of hexadecimal texts. -/
def localeCompare (left right : String) : ℤ :=
  if left < right then -1 else if left = right then 0 else 1

theorem localeCompare_nonpos_iff (left right : String) : localeCompare left right ≤ 0 ↔
    left ≤ right := by
  rw [localeCompare]
  rcases lt_trichotomy left right with h | rfl | h
  · rw [if_pos h]
    exact iff_of_true (by decide) h.le
  · rw [if_neg (lt_irrefl left), if_pos rfl]
    exact iff_of_true le_rfl le_rfl
  · rw [if_neg h.not_gt, if_neg h.ne']
    exact iff_of_false (by decide) h.not_ge

section Order

variable (seededKey : String → String → String) (seed : String) (providerText : ℕ → String)

/-- The comparison of the sort. -/
def compareCandidates (left right : DirectoryCandidate) : ℤ :=
  if left.surfacedCount - right.surfacedCount ≠ 0 then left.surfacedCount - right.surfacedCount
  else localeCompare (seededKey seed (providerText left.providerId))
    (seededKey seed (providerText right.providerId))

/-- `orderDirectoryCandidates`. -/
def orderDirectoryCandidates (candidates : List DirectoryCandidate) : List DirectoryCandidate :=
  sortBy (compareCandidates seededKey seed providerText) candidates

theorem perm_orderDirectoryCandidates (candidates : List DirectoryCandidate) :
    (orderDirectoryCandidates seededKey seed providerText candidates).Perm candidates :=
  sortBy_perm _ _

theorem compareCandidates_nonpos_iff (left right : DirectoryCandidate) :
    compareCandidates seededKey seed providerText left right ≤ 0 ↔
      left.surfacedCount < right.surfacedCount ∨ (left.surfacedCount = right.surfacedCount ∧
        seededKey seed (providerText left.providerId) ≤ seededKey seed
          (providerText right.providerId)) := by
  rw [compareCandidates]
  by_cases h : left.surfacedCount = right.surfacedCount
  · rw [if_neg (by omega), localeCompare_nonpos_iff]
    simp [h]
  · rw [if_pos (by omega)]
    constructor
    · exact fun hle ↦ .inl (by omega)
    · rintro (hlt | ⟨he, -⟩)
      · omega
      · exact absurd he h

theorem pairwise_orderDirectoryCandidates (candidates : List DirectoryCandidate) :
    (orderDirectoryCandidates seededKey seed providerText candidates).Pairwise fun left right ↦
      compareCandidates seededKey seed providerText left right ≤ 0 := by
  refine pairwise_sortBy (fun left right ↦ ?_) (fun a b c hab hbc ↦ ?_) _
  · rw [compareCandidates_nonpos_iff, compareCandidates_nonpos_iff]
    rcases lt_trichotomy left.surfacedCount right.surfacedCount with h | h | h
    · exact .inl (.inl h)
    · exact (le_total _ _).imp (fun hle ↦ .inr ⟨h, hle⟩) fun hle ↦ .inr ⟨h.symm, hle⟩
    · exact .inr (.inl h)
  · rw [compareCandidates_nonpos_iff] at hab hbc ⊢
    rcases hab with hab | ⟨hab, hkab⟩ <;> rcases hbc with hbc | ⟨hbc, hkbc⟩
    · exact .inl (hab.trans hbc)
    · exact .inl (hab.trans_eq hbc)
    · exact .inl (hab.trans_lt hbc)
    · exact .inr ⟨hab.trans hbc, hkab.trans hkbc⟩

end Order

/-! ## Places in a directory

Of two candidates that differ in the comparison the smaller one stands before the other, wherever
they were read.
-/

def Before {α : Type} (a b : α) (l : List α) : Prop := [a, b].Sublist l

theorem before_or_before {α : Type} {a b : α} (hne : a ≠ b) {l : List α} (ha : a ∈ l) (hb : b ∈ l) :
    Before a b l ∨ Before b a l := by
  induction l with
  | nil => exact absurd ha List.not_mem_nil
  | cons c l ih =>
    rcases List.mem_cons.mp ha with rfl | ha'
    · have hb' := (List.mem_cons.mp hb).resolve_left (Ne.symm hne)
      exact .inl ((List.singleton_sublist.mpr hb').cons_cons a)
    · rcases List.mem_cons.mp hb with rfl | hb'
      · exact .inr ((List.singleton_sublist.mpr ha').cons_cons b)
      · exact (ih ha' hb').imp (·.cons c) (·.cons c)

theorem not_before_of_before {α : Type} {a b : α} {l : List α} (hnodup : l.Nodup)
    (h : Before a b l) : ¬ Before b a l := by
  induction l with
  | nil => exact fun h' ↦ by cases h'
  | cons c l ih =>
    rw [List.nodup_cons] at hnodup
    intro h'
    cases h with
    | cons _ h =>
      cases h' with
      | cons _ h' => exact ih hnodup.2 h h'
      | cons_cons _ h' => exact hnodup.1 (h.subset (by simp))
    | cons_cons _ h =>
      cases h' with
      | cons _ h' => exact hnodup.1 (h'.subset (by simp))
      | cons_cons _ h' => exact hnodup.1 (List.singleton_sublist.mp h)

end Nayasetu
