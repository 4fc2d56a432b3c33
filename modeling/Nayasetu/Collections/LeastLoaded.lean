import Mathlib.Algebra.BigOperators.Group.Finset.Basic
import Mathlib.Algebra.Order.Group.Int
import Mathlib.Data.Finset.Erase

/-!
# Assignments to the least loaded

Tasks are assigned one after another, each to a member with a free place that has no more to do than
any other member with a free place. Loads and capacities are arbitrary to begin with.

Two laws hold for the runs. Whoever has been assigned something is at most one ahead of everybody
with a free place (`Assignments.balanced`). And nobody with a free place waits for longer than it
takes the others to fill up to one more than it has itself (`Assignments.mem_take`): the places
they still have up to there, `deficit`, go down by one with every assignment that passes it by.

Neither law asks what the loads were at the start. Where some members begin far behind, they are
assigned everything until they have caught up, and the first law speaks only of those who have
been assigned something since. Nor does it matter which of several least loaded members is taken:
a run is a relation between loads (`Assignments`), and the laws hold of every tie-break.
-/

namespace Collections

variable {ι : Type} [DecidableEq ι]

/-- The member has a free place, and no member with a free place has less to do. -/
structure IsLeastLoaded (members : Finset ι) (capacity load : ι → ℤ) (j : ι) : Prop where
  mem : j ∈ members
  free : load j < capacity j
  least : ∀ i ∈ members, load i < capacity i → load j ≤ load i

/-- Assignments one after another, from loads to loads. -/
inductive Assignments (members : Finset ι) (capacity : ι → ℤ) :
    (ι → ℤ) → List ι → (ι → ℤ) → Prop where
  | nil {load : ι → ℤ} : Assignments members capacity load [] load
  | concat {load load' : ι → ℤ} {assigned : List ι} {j : ι}
    (h : Assignments members capacity load assigned load')
    (hj : IsLeastLoaded members capacity load' j) :
    Assignments members capacity load (assigned ++ [j]) (Function.update load' j (load' j + 1))

/-- How much the others can still take before they have more than one ahead of `i`. -/
def deficit (members : Finset ι) (capacity load : ι → ℤ) (i : ι) : ℕ :=
  ∑ j ∈ members.erase i, (min (capacity j) (load i + 1) - load j).toNat

section Laws

variable {members : Finset ι} {capacity load load' : ι → ℤ} {assigned : List ι} {i j : ι}

/-- Whoever is passed by keeps its free place. -/
theorem free_of_update (h : Function.update load j (load j + 1) i < capacity i) :
    load i < capacity i := by
  rcases eq_or_ne i j with rfl | hne
  · rw [Function.update_self] at h
    exact (Int.lt_succ _).trans h
  · rwa [Function.update_of_ne hne] at h

/-- **Balance.** Whoever has been assigned something is at most one ahead of everybody with a free
place. -/
theorem Assignments.balanced (h : Assignments members capacity load assigned load')
    (hi : i ∈ members) (hfree : load' i < capacity i) (hj : j ∈ assigned) :
    load' j ≤ load' i + 1 := by
  induction h generalizing i j with
  | nil => exact absurd hj List.not_mem_nil
  | @concat load' assigned chosen _ hchosen ih =>
    have hfree' := free_of_update hfree
    -- Before this assignment the bound held, and the chosen one was not ahead of anybody.
    have hbefore : ∀ k ∈ assigned, load' k ≤ load' i + 1 := fun k hk ↦ ih hi hfree' hk
    have hleast := hchosen.least i hi hfree'
    have hgrows : load' i ≤ Function.update load' chosen (load' chosen + 1) i := by
      rcases eq_or_ne i chosen with rfl | hne
      · rw [Function.update_self]
        exact (Int.lt_succ _).le
      · rw [Function.update_of_ne hne]
    rcases eq_or_ne j chosen with rfl | hne
    · rw [Function.update_self]
      omega
    · rw [Function.update_of_ne hne]
      have hold : j ∈ assigned := by simpa [hne] using hj
      have := hbefore j hold
      omega

/-- An assignment that passes `i` by takes one of the places in its way. -/
theorem deficit_update (hi : i ∈ members) (hfree : load i < capacity i) (hne : j ≠ i)
    (hj : IsLeastLoaded members capacity load j) :
    deficit members capacity (Function.update load j (load j + 1)) i + 1 =
      deficit members capacity load i := by
  have hmem : j ∈ members.erase i := Finset.mem_erase.mpr ⟨hne, hj.mem⟩
  have hleast := hj.least i hi hfree
  have hplace := hj.free
  rw [deficit, deficit, ← Finset.add_sum_erase _ _ hmem, ← Finset.add_sum_erase _ _ hmem,
    Function.update_self, Function.update_of_ne hne.symm]
  have hothers : ∑ k ∈ (members.erase i).erase j, (min (capacity k) (load i + 1) -
      Function.update load j (load j + 1) k).toNat =
      ∑ k ∈ (members.erase i).erase j, (min (capacity k) (load i + 1) - load k).toNat := by
    refine Finset.sum_congr rfl fun k hk ↦ ?_
    rw [Function.update_of_ne (Finset.ne_of_mem_erase hk)]
  rw [hothers]
  omega

/-- As long as `i` is passed by, the places in its way get fewer. -/
theorem Assignments.waits (h : Assignments members capacity load assigned load') (hi : i ∈ members)
    (hfree : load i < capacity i) :
    i ∈ assigned.take (deficit members capacity load i + 1) ∨ (load' i = load i ∧
      assigned.length + deficit members capacity load' i = deficit members capacity load i) := by
  induction h with
  | nil => exact .inr ⟨rfl, Nat.zero_add _⟩
  | @concat load' assigned chosen _ hchosen ih =>
    rcases ih with hmem | ⟨hload, hlength⟩
    · refine .inl (List.IsPrefix.subset ?_ hmem)
      exact (List.prefix_append assigned [chosen]).take _
    · rcases eq_or_ne chosen i with rfl | hne
      · -- It is the turn of `i`, and the whole run is short enough.
        refine .inl ?_
        rw [List.take_of_length_le]
        · exact List.mem_append_right _ List.mem_cons_self
        · rw [List.length_append, List.length_singleton]
          omega
      · have hstep := deficit_update hi (hload ▸ hfree) hne hchosen
        refine .inr ⟨(Function.update_of_ne hne.symm _ _).trans hload, ?_⟩
        rw [List.length_append, List.length_singleton]
        omega

/-- **No starvation.** A member with a free place is assigned something as soon as the others are up
to one ahead of it. -/
theorem Assignments.mem_take (h : Assignments members capacity load assigned load')
    (hi : i ∈ members) (hfree : load i < capacity i)
    (hlong : deficit members capacity load i < assigned.length) :
    i ∈ assigned.take (deficit members capacity load i + 1) := by
  refine (h.waits hi hfree).resolve_right ?_
  rintro ⟨-, hlength⟩
  omega

end Laws

end Collections
