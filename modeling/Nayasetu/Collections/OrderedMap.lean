import Mathlib.Data.List.MinMax
import Mathlib.Data.List.Nodup
import Mathlib.Data.List.Sort
import Mathlib.Tactic.Common

/-!
# Insertion-ordered maps, stable sorting and grouping

The collections of a scripting language and of SQL, with the lemmas that connect them. A map keeps
its keys in the order they were first inserted; sorting with a comparator is stable.

The same question is asked in two ways by programs and by queries: which element of each group is
the newest? A program folds over the elements and keeps the newest one it has seen in a map
(`OrderedMap.keepGreatest`); a query sorts by descending rank and keeps the first row of each group
(`distinctOn`). Both have exactly the members described by `IsLatest`.

## Two ways to the newest element

The fold replaces an entry only by one of greater rank, and keeps the place of the key in the map
when it does. So the order of the values is that of the first elements of the groups, which is not
the order of the elements kept. The query has an order of its own. For a decision that goes by
membership alone the difference is immaterial, and `mem_keepGreatest_iff` and `mem_distinctOn_iff`
are the two lemmas by which proofs about the one and the other meet.

Ranks are integers, and for both lemmas they have to be distinct. Otherwise the fold keeps the
first of the greatest elements of a group, and which one a query keeps is up to the database.
-/

namespace Collections

variable {α κ ν : Type}

/-! ## Maps

A map is a list of entries without two of one key. Lookup goes through the list, so every fact
about it is one about `List.lookup` and distinct keys.
-/

/-- A map with the keys in insertion order. -/
structure OrderedMap (κ ν : Type) where
  /-- The entries, oldest key first. -/
  entries : List (κ × ν)
  /-- No key occurs twice. -/
  nodup : (entries.map Prod.fst).Nodup

namespace OrderedMap

variable [DecidableEq κ]

/-- The map without entries. -/
def empty : OrderedMap κ ν := ⟨[], List.nodup_nil⟩

/-- The value at `k`. -/
def get (m : OrderedMap κ ν) (k : κ) : Option ν := m.entries.lookup k

/-- The values, oldest key first. -/
def values (m : OrderedMap κ ν) : List ν := m.entries.map Prod.snd

/-- Replace the value at `k`, or add the key at the end. -/
def set (m : OrderedMap κ ν) (k : κ) (v : ν) : OrderedMap κ ν :=
  if hk : k ∈ m.entries.map Prod.fst then
    { entries := m.entries.map fun e ↦ if e.1 = k then (k, v) else e
      nodup := by
        have hkeys : (m.entries.map fun e ↦ if e.1 = k then (k, v) else e).map Prod.fst
            = m.entries.map Prod.fst := by
          rw [List.map_map]
          refine List.map_congr_left fun e _ ↦ ?_
          by_cases he : e.1 = k <;> simp [he]
        exact hkeys ▸ m.nodup }
  else
    { entries := m.entries ++ [(k, v)]
      nodup := by
        rw [List.map_append, List.map_singleton]
        exact List.nodup_append.mpr ⟨m.nodup, List.nodup_singleton _, by
          rintro a ha b hb rfl
          exact hk ((List.mem_singleton.mp hb : a = k) ▸ ha)⟩ }

/-- The map of a list of pairs; a later pair replaces an earlier one with the same key. -/
def ofList (l : List (κ × ν)) : OrderedMap κ ν := l.foldl (fun m e ↦ m.set e.1 e.2) empty

omit [DecidableEq κ] in
@[simp] theorem get_empty [DecidableEq κ] (k : κ) : (empty : OrderedMap κ ν).get k = none := rfl

private theorem lookup_eq_some_iff {l : List (κ × ν)} (h : (l.map Prod.fst).Nodup) {k : κ} {v : ν} :
    l.lookup k = some v ↔ (k, v) ∈ l := by
  induction l with
  | nil => simp
  | cons e l ih =>
    obtain ⟨k', v'⟩ := e
    rw [List.map_cons, List.nodup_cons] at h
    rw [List.lookup_cons, List.mem_cons, Prod.mk.injEq]
    by_cases hk : k = k'
    · subst hk
      have hv : (k, v) ∉ l := fun hm ↦ h.1 (List.mem_map.mpr ⟨_, hm, rfl⟩)
      simp [hv, eq_comm]
    · have hk' : (k == k') = false := by simpa using hk
      simp only [hk', hk, false_and, false_or]
      exact ih h.2

theorem get_eq_some_iff (m : OrderedMap κ ν) {k : κ} {v : ν} :
    m.get k = some v ↔ (k, v) ∈ m.entries := lookup_eq_some_iff m.nodup

theorem mem_values_iff (m : OrderedMap κ ν) {v : ν} : v ∈ m.values ↔ ∃ k, m.get k = some v := by
  simp only [values, List.mem_map, get_eq_some_iff, Prod.exists, exists_eq_right]

theorem get_set (m : OrderedMap κ ν) (k : κ) (v : ν) (k' : κ) :
    (m.set k v).get k' = if k' = k then some v else m.get k' := by
  have hmem : ∀ v', (k', v') ∈ (m.set k v).entries ↔
      (k' = k ∧ v' = v) ∨ (k' ≠ k ∧ (k', v') ∈ m.entries) := by
    intro v'
    rw [set]
    split
    next hk =>
      simp only [List.mem_map]
      constructor
      · rintro ⟨e, he, heq⟩
        by_cases hek : e.1 = k
        · simp only [hek, if_pos, Prod.mk.injEq] at heq
          exact .inl ⟨heq.1.symm, heq.2.symm⟩
        · rw [if_neg hek] at heq
          subst heq
          exact .inr ⟨hek, he⟩
      · rintro (⟨rfl, rfl⟩ | ⟨hne, he⟩)
        · obtain ⟨e, he, hek⟩ := List.mem_map.mp hk
          exact ⟨e, he, by simp [hek]⟩
        · exact ⟨(k', v'), he, by simp [hne]⟩
    next hk =>
      simp only [List.mem_append, List.mem_singleton, Prod.mk.injEq]
      constructor
      · rintro (he | h)
        · refine .inr ⟨?_, he⟩
          rintro rfl
          exact hk (List.mem_map_of_mem he)
        · exact .inl h
      · rintro (h | ⟨_, he⟩)
        · exact .inr h
        · exact .inl he
  refine Option.ext fun v' ↦ ?_
  rw [get_eq_some_iff, hmem v']
  by_cases hkk : k' = k
  · simp [hkk, eq_comm]
  · simp [hkk, get_eq_some_iff]

private theorem get_foldl_set {l : List (κ × ν)} (h : (l.map Prod.fst).Nodup) :
    ∀ (m : OrderedMap κ ν) (k : κ),
      (l.foldl (fun m e ↦ m.set e.1 e.2) m).get k = (l.lookup k).or (m.get k) := by
  induction l with
  | nil => intro m k; rfl
  | cons e l ih =>
    obtain ⟨k', v'⟩ := e
    rw [List.map_cons, List.nodup_cons] at h
    intro m k
    rw [List.foldl_cons, ih h.2, get_set, List.lookup_cons]
    by_cases hk : k = k'
    · subst hk
      have hnone : l.lookup k = none := by
        rw [List.lookup_eq_none_iff]
        intro e he
        have : e.1 ≠ k := fun heq ↦ h.1 (List.mem_map.mpr ⟨e, he, heq⟩)
        simpa using this.symm
      simp [hnone]
    · have hk' : (k == k') = false := by simpa using hk
      simp [hk, hk']

theorem get_ofList {l : List (κ × ν)} (h : (l.map Prod.fst).Nodup) (k : κ) :
    (ofList l).get k = l.lookup k := by
  rw [ofList, get_foldl_set h]
  simp

theorem get_ofList_eq_some_iff {l : List (κ × ν)} (h : (l.map Prod.fst).Nodup) {k : κ} {v : ν} :
    (ofList l).get k = some v ↔ (k, v) ∈ l := by
  rw [get_ofList h, lookup_eq_some_iff h]

end OrderedMap

/-! ## Sorting

The comparator answers with an integer, as comparators of scripting languages do. That it is total
and transitive is asked for where the result is to be sorted, not by the definition.
-/

/-- Stable sorting with a comparator: `cmp a b ≤ 0` puts `a` before `b`. -/
def sortBy (cmp : α → α → ℤ) (l : List α) : List α :=
  l.insertionSort fun a b ↦ cmp a b ≤ 0

@[simp] theorem mem_sortBy {cmp : α → α → ℤ} {l : List α} {a : α} : a ∈ sortBy cmp l ↔ a ∈ l :=
  List.mem_insertionSort _

theorem sortBy_perm (cmp : α → α → ℤ) (l : List α) : (sortBy cmp l).Perm l :=
  List.perm_insertionSort _ l

theorem pairwise_sortBy {cmp : α → α → ℤ} (htotal : ∀ a b, cmp a b ≤ 0 ∨ cmp b a ≤ 0)
    (htrans : ∀ a b c, cmp a b ≤ 0 → cmp b c ≤ 0 → cmp a c ≤ 0) (l : List α) :
    (sortBy cmp l).Pairwise fun a b ↦ cmp a b ≤ 0 := by
  have : Std.Total fun a b ↦ cmp a b ≤ 0 := ⟨htotal⟩
  have : IsTrans α fun a b ↦ cmp a b ≤ 0 := ⟨htrans⟩
  exact List.pairwise_insertionSort _ l

theorem head?_sortBy {cmp : α → α → ℤ} (htotal : ∀ a b, cmp a b ≤ 0 ∨ cmp b a ≤ 0)
    (htrans : ∀ a b c, cmp a b ≤ 0 → cmp b c ≤ 0 → cmp a c ≤ 0) {l : List α} {a : α}
    (h : (sortBy cmp l).head? = some a) : a ∈ l ∧ ∀ b ∈ l, cmp a b ≤ 0 := by
  have hsorted := pairwise_sortBy htotal htrans l
  have hmem : a ∈ sortBy cmp l := List.mem_of_mem_head? h
  refine ⟨mem_sortBy.mp hmem, fun b hb ↦ ?_⟩
  obtain ⟨t, ht⟩ : ∃ t, sortBy cmp l = a :: t := by
    cases hl : sortBy cmp l with
    | nil => simp [hl] at h
    | cons c t => rw [hl, List.head?_cons, Option.some.injEq] at h; exact ⟨t, by rw [h]⟩
  have hb' : b ∈ a :: t := ht ▸ mem_sortBy.mpr hb
  rw [ht, List.pairwise_cons] at hsorted
  rcases List.mem_cons.mp hb' with rfl | hb'
  · rcases htotal b b with h | h <;> exact h
  · exact hsorted.1 b hb'

theorem head?_sortBy_eq_none {cmp : α → α → ℤ} {l : List α} :
    (sortBy cmp l).head? = none ↔ l = [] := by
  rw [List.head?_eq_none_iff]
  constructor
  · intro h
    refine List.eq_nil_iff_forall_not_mem.mpr fun a ha ↦ ?_
    have : a ∈ sortBy cmp l := mem_sortBy.mpr ha
    rw [h] at this
    exact List.not_mem_nil this
  · rintro rfl
    rfl

/-! ## The newest element of each group -/

section Latest

variable (key : α → κ) (rank : α → ℤ)

/-- `a` has the greatest rank of its group in `l`. -/
structure IsLatest (l : List α) (a : α) : Prop where
  mem : a ∈ l
  greatest : ∀ b ∈ l, key b = key a → rank b ≤ rank a

variable {key rank}

/-- Distinct ranks: there is only one such element in a group. -/
theorem IsLatest.eq {l : List α} (hl : (l.map rank).Nodup) {a b : α} (ha : IsLatest key rank l a)
    (hb : IsLatest key rank l b) (h : key a = key b) : a = b := by
  have hrank : rank a = rank b :=
    Int.le_antisymm (hb.greatest a ha.mem h) (ha.greatest b hb.mem h.symm)
  exact List.inj_on_of_nodup_map hl ha.mem hb.mem hrank

variable [DecidableEq κ]

variable (key rank)

def firstOfEach : List α → List α
  | [] => []
  | a :: l => a :: (firstOfEach l).filter fun b ↦ key b ≠ key a

/-- `DISTINCT ON (key) … ORDER BY key, rank DESC`. -/
def distinctOn (l : List α) : List α :=
  firstOfEach key (sortBy (fun a b ↦ rank b - rank a) l)

variable {key rank}

private theorem mem_firstOfEach_iff {l : List α}
    (h : l.Pairwise fun a b ↦ rank b < rank a) {a : α} :
    a ∈ firstOfEach key l ↔ IsLatest key rank l a := by
  induction l with
  | nil => exact ⟨fun h ↦ absurd h List.not_mem_nil, fun h ↦ h.mem⟩
  | cons c l ih =>
    rw [List.pairwise_cons] at h
    rw [firstOfEach, List.mem_cons, List.mem_filter, ih h.2]
    constructor
    · rintro (rfl | ⟨ha, hne⟩)
      · refine ⟨List.mem_cons_self, fun b hb _ ↦ ?_⟩
        rcases List.mem_cons.mp hb with rfl | hb
        · exact Int.le_refl _
        · exact Int.le_of_lt (h.1 b hb)
      · refine ⟨List.mem_cons_of_mem _ ha.mem, fun b hb hkey ↦ ?_⟩
        rcases List.mem_cons.mp hb with rfl | hb
        · simp [hkey] at hne
        · exact ha.greatest b hb hkey
    · intro ha
      by_cases hac : a = c
      · exact .inl hac
      have hmem : a ∈ l := (List.mem_cons.mp ha.mem).resolve_left hac
      refine .inr ⟨⟨hmem, fun b hb ↦ ha.greatest b (List.mem_cons_of_mem _ hb)⟩, ?_⟩
      rw [decide_eq_true_iff]
      intro hkey
      have := ha.greatest c List.mem_cons_self hkey.symm
      exact absurd (h.1 a hmem) (not_lt.mpr this)

theorem mem_distinctOn_iff {l : List α} (h : (l.map rank).Nodup) {a : α} :
    a ∈ distinctOn key rank l ↔ IsLatest key rank l a := by
  set cmp : α → α → ℤ := fun a b ↦ rank b - rank a
  have hperm : (sortBy cmp l).Perm l := sortBy_perm _ _
  have hnodup : ((sortBy cmp l).map rank).Nodup := (hperm.map rank).nodup_iff.mpr h
  have hle : (sortBy cmp l).Pairwise fun a b ↦ cmp a b ≤ 0 :=
    pairwise_sortBy (fun a b ↦ by simp only [cmp]; omega) (fun a b c ↦ by simp only [cmp]; omega) l
  have hlt : (sortBy cmp l).Pairwise fun a b ↦ rank b < rank a := by
    refine (hle.and (List.pairwise_map.mp hnodup)).imp fun {a b} hab ↦ ?_
    have h₁ : rank b - rank a ≤ 0 := hab.1
    have h₂ : rank a ≠ rank b := hab.2
    omega
  rw [distinctOn, mem_firstOfEach_iff hlt]
  exact ⟨fun h ↦ ⟨hperm.mem_iff.mp h.mem, fun b hb ↦ h.greatest b (hperm.mem_iff.mpr hb)⟩,
    fun h ↦ ⟨hperm.mem_iff.mpr h.mem, fun b hb ↦ h.greatest b (hperm.mem_iff.mp hb)⟩⟩

variable (key rank)

/-- Keep `a` unless the map already has an element of at least its rank in its group. -/
def OrderedMap.keepGreater (m : OrderedMap κ α) (a : α) : OrderedMap κ α :=
  match m.get (key a) with
  | none => m.set (key a) a
  | some b => if rank b < rank a then m.set (key a) a else m

/-- Fold over the elements, keeping the one of greatest rank in each group. -/
def OrderedMap.keepGreatest (l : List α) : OrderedMap κ α :=
  l.foldl (OrderedMap.keepGreater key rank) .empty

variable {key rank}

omit [DecidableEq κ] in
theorem isLatest_append_singleton {l : List α} {a c : α} :
    IsLatest key rank (l ++ [c]) a ↔
      (IsLatest key rank l a ∧ (key c = key a → rank c ≤ rank a)) ∨
      (a = c ∧ ∀ b ∈ l, key b = key c → rank b ≤ rank c) := by
  constructor
  · intro h
    rcases List.mem_append.mp h.mem with ha | ha
    · exact .inl ⟨⟨ha, fun b hb ↦ h.greatest b (by simp [hb])⟩, h.greatest c (by simp)⟩
    · obtain rfl := List.mem_singleton.mp ha
      exact .inr ⟨rfl, fun b hb ↦ h.greatest b (by simp [hb])⟩
  · rintro (⟨h, hc⟩ | ⟨rfl, h⟩)
    · refine ⟨by simp [h.mem], fun b hb ↦ ?_⟩
      rcases List.mem_append.mp hb with hb | hb
      · exact h.greatest b hb
      · exact List.mem_singleton.mp hb ▸ hc
    · refine ⟨by simp, fun b hb hk ↦ ?_⟩
      rcases List.mem_append.mp hb with hb | hb
      · exact h b hb hk
      · exact (List.mem_singleton.mp hb) ▸ Int.le_refl _

variable (key rank) in
/-- Every group has an element of greatest rank. -/
theorem exists_isLatest {l : List α} {b : α} (hb : b ∈ l) :
    ∃ a, IsLatest key rank l a ∧ key a = key b := by
  set g := l.filter fun a ↦ key a = key b
  have hbg : b ∈ g := List.mem_filter.mpr ⟨hb, by simp⟩
  obtain ⟨a, ha⟩ : ∃ a, g.argmax rank = some a := by
    rcases h : g.argmax rank with _ | a
    · rw [List.argmax_eq_none.mp h] at hbg
      exact absurd hbg List.not_mem_nil
    · exact ⟨a, rfl⟩
  have hag : a ∈ l ∧ key a = key b := by simpa [g] using List.argmax_mem (Option.mem_def.mpr ha)
  refine ⟨a, ⟨hag.1, fun c hc hk ↦ ?_⟩, hag.2⟩
  exact List.le_of_mem_argmax (List.mem_filter.mpr ⟨hc, by simpa using hk.trans hag.2⟩)
    (Option.mem_def.mpr ha)

private theorem keepGreater_spec {m : OrderedMap κ α} {l : List α} {c : α}
    (hrank : ∀ b ∈ l, rank b ≠ rank c)
    (hm : ∀ k a, m.get k = some a ↔ IsLatest key rank l a ∧ key a = k) (k : κ) (a : α) :
    (m.keepGreater key rank c).get k = some a ↔ IsLatest key rank (l ++ [c]) a ∧ key a = k := by
  rw [isLatest_append_singleton, OrderedMap.keepGreater]
  cases hget : m.get (key c) with
  | none =>
    -- Nothing of this group has been seen, so `c` is its newest element.
    have hnew : ∀ b ∈ l, key b ≠ key c := by
      intro b hb hk
      obtain ⟨d, hd, hdk⟩ := exists_isLatest key rank hb
      have := (hm (key c) d).mpr ⟨hd, hdk.trans hk⟩
      rw [hget] at this
      exact Option.some_ne_none _ this.symm
    rw [OrderedMap.get_set]
    by_cases hk : k = key c
    · subst hk
      rw [if_pos rfl, Option.some.injEq]
      constructor
      · rintro rfl
        exact ⟨.inr ⟨rfl, fun b hb h ↦ absurd h (hnew b hb)⟩, rfl⟩
      · rintro ⟨⟨h, _⟩ | ⟨h, _⟩, hk⟩
        · exact absurd hk (hnew a h.mem)
        · exact h.symm
    · rw [if_neg hk, hm]
      constructor
      · rintro ⟨h, hak⟩
        exact ⟨.inl ⟨h, fun he ↦ absurd (hak.symm.trans he.symm) hk⟩, hak⟩
      · rintro ⟨⟨h, _⟩ | ⟨rfl, _⟩, hak⟩
        · exact ⟨h, hak⟩
        · exact absurd hak.symm hk
  | some b =>
    obtain ⟨hb, hbc⟩ := (hm _ _).mp hget
    by_cases hlt : rank b < rank c
    · -- `c` replaces `b`.
      simp only [hlt, if_true]
      rw [OrderedMap.get_set]
      by_cases hk : k = key c
      · subst hk
        rw [if_pos rfl, Option.some.injEq]
        constructor
        · rintro rfl
          refine ⟨.inr ⟨rfl, fun d hd hdk ↦ ?_⟩, rfl⟩
          exact Int.le_of_lt (Int.lt_of_le_of_lt (hb.greatest d hd (hdk.trans hbc.symm)) hlt)
        · rintro ⟨⟨h, hle⟩ | ⟨h, _⟩, hak⟩
          · have h₁ := hle hak.symm
            have h₂ := hb.greatest a h.mem (hak.trans hbc.symm)
            omega
          · exact h.symm
      · rw [if_neg hk, hm]
        constructor
        · rintro ⟨h, hak⟩
          exact ⟨.inl ⟨h, fun he ↦ absurd (hak.symm.trans he.symm) hk⟩, hak⟩
        · rintro ⟨⟨h, _⟩ | ⟨rfl, _⟩, hak⟩
          · exact ⟨h, hak⟩
          · exact absurd hak.symm hk
    · -- `b` stays.
      simp only [hlt, if_false]
      have hne : rank b ≠ rank c := hrank b hb.mem
      rw [hm]
      constructor
      · rintro ⟨h, hak⟩
        refine ⟨.inl ⟨h, fun he ↦ ?_⟩, hak⟩
        have := h.greatest b hb.mem (hbc.trans he)
        omega
      · rintro ⟨⟨h, _⟩ | ⟨rfl, h⟩, hak⟩
        · exact ⟨h, hak⟩
        · have := h b hb.mem hbc
          omega

private theorem foldl_keepGreater_spec (l' : List α) : ∀ {m : OrderedMap κ α} {l : List α},
    ((l ++ l').map rank).Nodup →
    (∀ k a, m.get k = some a ↔ IsLatest key rank l a ∧ key a = k) → ∀ k a,
      (l'.foldl (OrderedMap.keepGreater key rank) m).get k = some a ↔
        IsLatest key rank (l ++ l') a ∧ key a = k := by
  induction l' with
  | nil => intro m l _ hm; simpa using hm
  | cons c l' ih =>
    intro m l hnodup hm
    have happend : l ++ c :: l' = (l ++ [c]) ++ l' := by simp
    rw [happend] at hnodup ⊢
    refine ih hnodup (keepGreater_spec (fun b hb heq ↦ ?_) hm)
    rw [List.map_append, List.map_append, List.append_assoc, List.nodup_append] at hnodup
    exact hnodup.2.2 (rank b) (List.mem_map_of_mem hb) (rank c) (by simp) heq

theorem mem_keepGreatest_iff {l : List α} (h : (l.map rank).Nodup) {a : α} :
    a ∈ (OrderedMap.keepGreatest key rank l).values ↔ IsLatest key rank l a := by
  have hempty (k : κ) (a : α) : OrderedMap.empty.get k = some a ↔
      IsLatest key rank [] a ∧ key a = k := by
    simpa using fun hm : IsLatest key rank [] a ↦ absurd hm.mem List.not_mem_nil
  have hspec := foldl_keepGreater_spec l (by simpa using h) hempty
  rw [OrderedMap.mem_values_iff]
  constructor
  · rintro ⟨k, hk⟩
    exact ((hspec k a).mp hk).1
  · exact fun ha ↦ ⟨key a, (hspec _ _).mpr ⟨ha, rfl⟩⟩

end Latest

end Collections
