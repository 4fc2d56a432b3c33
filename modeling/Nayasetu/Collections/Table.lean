import Mathlib.Data.List.Nodup
import Mathlib.Tactic.Common

/-!
# Tables

A table is a list of rows with a key. Rows are looked up by key, replaced in place and appended.

Rows with one key are replaced together, which is what an `UPDATE` by primary key comes to as long
as the keys are distinct. The lemmas say of each column and of each count what a replacement does
to it, in two halves: what becomes of the row itself, and that the others stay as they are.

Distinct keys are a hypothesis wherever they are needed, not a part of the type. A table of a
database keeps them as an invariant over a run, and the lemmas about `Nodup` are the steps of that
invariant.
-/

namespace Collections

variable {α κ : Type} [DecidableEq κ] {key : α → κ}

/-- The first row with key `k`. -/
def lookupBy (key : α → κ) (k : κ) (l : List α) : Option α := l.find? fun a ↦ key a = k

/-- Put `row` in the place of every row with its key. -/
def replaceBy (key : α → κ) (row : α) (l : List α) : List α :=
  l.map fun a ↦ if key a = key row then row else a

theorem lookupBy_mem {k : κ} {l : List α} {a : α} (h : lookupBy key k l = some a) :
    a ∈ l ∧ key a = k :=
  ⟨List.mem_of_find?_eq_some h, by simpa using List.find?_some h⟩

theorem lookupBy_eq_none_iff {k : κ} {l : List α} :
    lookupBy key k l = none ↔ ∀ a ∈ l, key a ≠ k := by
  simp [lookupBy]

theorem lookupBy_eq_some_iff {k : κ} {l : List α} (h : (l.map key).Nodup) {a : α} :
    lookupBy key k l = some a ↔ a ∈ l ∧ key a = k := by
  refine ⟨lookupBy_mem, fun ⟨hmem, hkey⟩ ↦ ?_⟩
  cases hl : lookupBy key k l with
  | none => exact absurd hkey (lookupBy_eq_none_iff.mp hl a hmem)
  | some b =>
    obtain ⟨hb, hbk⟩ := lookupBy_mem hl
    rw [List.inj_on_of_nodup_map h hb hmem (hbk.trans hkey.symm)]

theorem column_eq_of_lookupBy {ι : Type} {l : List α} (h : (l.map key).Nodup) {k : κ} {row : α}
    (hrow : lookupBy key k l = some row) (column : α → ι) :
    ∀ a ∈ l, key a = k → column a = column row := by
  intro a ha hk
  rw [Option.some.inj (((lookupBy_eq_some_iff h).mpr ⟨ha, hk⟩).symm.trans hrow)]

@[simp] theorem lookupBy_nil (k : κ) : lookupBy key k [] = none := rfl

theorem lookupBy_cons (k : κ) (a : α) (l : List α) :
    lookupBy key k (a :: l) = if key a = k then some a else lookupBy key k l := by
  rw [lookupBy, List.find?_cons]
  by_cases h : key a = k <;> simp [h, lookupBy]

theorem lookupBy_replaceBy (k : κ) (row : α) (l : List α) :
    lookupBy key k (replaceBy key row l) =
      if k = key row then (lookupBy key k l).map fun _ ↦ row else lookupBy key k l := by
  induction l with
  | nil => rw [replaceBy, List.map_nil, lookupBy_nil, Option.map_none, ite_self]
  | cons a l ih =>
    have hcons : replaceBy key row (a :: l) =
        (if key a = key row then row else a) :: replaceBy key row l := rfl
    rw [hcons, lookupBy_cons, lookupBy_cons, ih]
    by_cases ha : key a = key row
    · rw [if_pos ha, ha]
      by_cases hk : k = key row
      · simp [hk]
      · simp [hk, Ne.symm hk]
    · rw [if_neg ha]
      by_cases hk : k = key row
      · simp [hk, ha]
      · simp [hk]

theorem map_key_replaceBy (row : α) (l : List α) : (replaceBy key row l).map key = l.map key := by
  rw [replaceBy, List.map_map]
  refine List.map_congr_left fun a _ ↦ ?_
  by_cases h : key a = key row <;> simp [h]

theorem mem_replaceBy {row a : α} {l : List α} (h : a ∈ replaceBy key row l) :
    a = row ∨ (a ∈ l ∧ key a ≠ key row) := by
  obtain ⟨b, hb, rfl⟩ := List.mem_map.mp h
  by_cases hk : key b = key row
  · exact .inl (if_pos hk)
  · rw [if_neg hk]
    exact .inr ⟨hb, hk⟩

theorem mem_replaceBy_of_ne {row a : α} {l : List α} (h : a ∈ l) (hk : key a ≠ key row) :
    a ∈ replaceBy key row l := List.mem_map.mpr ⟨a, h, if_neg hk⟩

theorem lookupBy_append_singleton (k : κ) (l : List α) (row : α) :
    lookupBy key k (l ++ [row]) =
      (lookupBy key k l).or (if key row = k then some row else none) := by
  rw [lookupBy, List.find?_append, List.find?_singleton]
  by_cases h : key row = k <;> simp [h, lookupBy]

theorem exists_key_of_mem_replaceBy {row a : α} {l : List α} (h : a ∈ replaceBy key row l) :
    ∃ b ∈ l, key b = key a := by
  have hkey : key a ∈ (replaceBy key row l).map key := List.mem_map_of_mem h
  rw [map_key_replaceBy] at hkey
  exact List.mem_map.mp hkey

theorem replaceBy_of_not_mem {row : α} {l : List α} (h : ∀ a ∈ l, key a ≠ key row) :
    replaceBy key row l = l :=
  (List.map_congr_left fun a ha ↦ if_neg (h a ha)).trans (List.map_id' l)

/-- The later of two replacements counts. -/
theorem replaceBy_replaceBy {row row' : α} (h : key row' = key row) (l : List α) :
    replaceBy key row (replaceBy key row' l) = replaceBy key row l := by
  rw [replaceBy, replaceBy, replaceBy, List.map_map]
  refine List.map_congr_left fun a _ ↦ ?_
  by_cases ha : key a = key row <;> simp [h, ha]

/-- A condition that a replacement does not change may be imposed before or after it. -/
theorem filter_replaceBy {f : α → Bool} {row : α} {l : List α}
    (h : ∀ a ∈ l, key a = key row → f a = f row) :
    (replaceBy key row l).filter f = replaceBy key row (l.filter f) := by
  rw [replaceBy, replaceBy, List.filter_map]
  refine congrArg _ (List.filter_congr fun a ha ↦ ?_)
  by_cases hk : key a = key row
  · rw [Function.comp_apply, if_pos hk, h a ha hk]
  · rw [Function.comp_apply, if_neg hk]

/-- A replacement stays within its group. -/
theorem filter_group_replaceBy {ι : Type} [DecidableEq ι] {group : α → ι} {row : α} {l : List α}
    (h : ∀ a ∈ l, key a = key row → group a = group row) (i : ι) :
    (replaceBy key row l).filter (group · = i) =
      if i = group row then replaceBy key row (l.filter (group · = i))
      else l.filter (group · = i) := by
  rw [filter_replaceBy fun a ha hk ↦ by rw [h a ha hk]]
  split
  next => rfl
  next hi =>
    refine replaceBy_of_not_mem fun a ha hk ↦ hi ?_
    obtain ⟨hmem, hgroup⟩ := List.mem_filter.mp ha
    rw [← h a hmem hk, of_decide_eq_true hgroup]

theorem countP_replaceBy {l : List α} (hnodup : (l.map key).Nodup) {old row : α}
    (hold : lookupBy key (key row) l = some old) (p : α → Bool) :
    (replaceBy key row l).countP p + (if p old then 1 else 0) =
      l.countP p + (if p row then 1 else 0) := by
  induction l with
  | nil => exact absurd hold (by simp)
  | cons a l ih =>
    rw [List.map_cons, List.nodup_cons] at hnodup
    rw [lookupBy_cons] at hold
    have hcons : replaceBy key row (a :: l) =
        (if key a = key row then row else a) :: replaceBy key row l := rfl
    rw [hcons, List.countP_cons, List.countP_cons]
    by_cases ha : key a = key row
    · rw [if_pos ha] at hold
      obtain rfl := Option.some.inj hold
      have hrest : replaceBy key row l = l :=
        replaceBy_of_not_mem fun b hb he ↦ hnodup.1 (List.mem_map.mpr ⟨b, hb, he.trans ha.symm⟩)
      rw [if_pos ha, hrest]
      omega
    · rw [if_neg ha] at hold
      have := ih hnodup.2 hold
      rw [if_neg ha]
      omega

theorem countP_of_agree {l : List α} (hnodup : (l.map key).Nodup) {k : κ} {row : α}
    (hrow : lookupBy key k l = some row) {p q : α → Bool}
    (hagree : ∀ a ∈ l, key a ≠ k → q a = p a) :
    l.countP q + (if p row then 1 else 0) = l.countP p + (if q row then 1 else 0) := by
  induction l with
  | nil => exact absurd hrow (by simp)
  | cons a l ih =>
    rw [List.map_cons, List.nodup_cons] at hnodup
    rw [lookupBy_cons] at hrow
    rw [List.countP_cons, List.countP_cons]
    by_cases ha : key a = k
    · rw [if_pos ha] at hrow
      obtain rfl := Option.some.inj hrow
      have hrest : l.countP q = l.countP p := List.countP_congr fun b hb ↦ by
        have hne : key b ≠ k := fun he ↦ hnodup.1 (List.mem_map.mpr ⟨b, hb, he.trans ha.symm⟩)
        rw [hagree b (List.mem_cons_of_mem a hb) hne]
      omega
    · rw [if_neg ha] at hrow
      have := ih hnodup.2 hrow fun b hb ↦ hagree b (List.mem_cons_of_mem a hb)
      rw [hagree a List.mem_cons_self ha]
      omega

omit [DecidableEq κ] in
theorem nodup_map_append {l : List α} {row : α} (h : (l.map key).Nodup)
    (hrow : ∀ a ∈ l, key a ≠ key row) : ((l ++ [row]).map key).Nodup := by
  rw [List.map_append, List.nodup_append]
  refine ⟨h, List.nodup_singleton _, fun k hk k' hk' ↦ ?_⟩
  obtain ⟨a, ha, rfl⟩ := List.mem_map.mp hk
  obtain rfl := List.mem_singleton.mp hk'
  exact hrow a ha

theorem nodup_map_replaceBy {l : List α} (h : (l.map key).Nodup) (row : α) :
    ((replaceBy key row l).map key).Nodup := by
  rwa [map_key_replaceBy]

/-! ## Replacements that change the key

A row whose key is not its identity may be given another one, if no other row has it.
-/

/-- Put `row` in the place of every row with key `k`. -/
def replaceAt (key : α → κ) (k : κ) (row : α) (l : List α) : List α :=
  l.map fun a ↦ if key a = k then row else a

theorem replaceAt_key (row : α) (l : List α) : replaceAt key (key row) row l =
    replaceBy key row l :=
  rfl

/-- Other keys than the old one and the new one are not concerned. -/
theorem lookupBy_replaceAt_of_ne {k k' : κ} {row : α} (hold : k' ≠ k) (hnew : k' ≠ key row)
    (l : List α) : lookupBy key k' (replaceAt key k row l) = lookupBy key k' l := by
  induction l with
  | nil => rfl
  | cons a l ih =>
    have hcons : replaceAt key k row (a :: l) =
        (if key a = k then row else a) :: replaceAt key k row l := rfl
    rw [hcons, lookupBy_cons, lookupBy_cons, ih]
    by_cases ha : key a = k
    · rw [if_pos ha, if_neg hnew.symm, if_neg (ha ▸ hold.symm)]
    · rw [if_neg ha]

theorem nodup_map_replaceAt {k : κ} {row : α} {l : List α} (h : (l.map key).Nodup)
    (hfree : ∀ a ∈ l, key a ≠ k → key a ≠ key row) : ((replaceAt key k row l).map key).Nodup := by
  rw [replaceAt, List.map_map]
  refine List.Nodup.map_on (fun a ha b hb hab ↦ ?_) (List.Nodup.of_map key h)
  simp only [Function.comp_apply] at hab
  by_cases hak : key a = k <;> by_cases hbk : key b = k
  · exact List.inj_on_of_nodup_map h ha hb (hak.trans hbk.symm)
  · rw [if_pos hak, if_neg hbk] at hab
    exact absurd hab.symm (hfree b hb hbk)
  · rw [if_neg hak, if_pos hbk] at hab
    exact absurd hab (hfree a ha hak)
  · rw [if_neg hak, if_neg hbk] at hab
    exact List.inj_on_of_nodup_map h ha hb hab

/-- A change of the other columns. -/
theorem lookupBy_map {f : α → α} (hf : ∀ a, key (f a) = key a) (k : κ) (l : List α) :
    lookupBy key k (l.map f) = (lookupBy key k l).map f := by
  rw [lookupBy, lookupBy, List.find?_map]
  refine congrArg _ (congrArg (List.find? · l) (funext fun a ↦ ?_))
  rw [Function.comp_apply, hf]

omit [DecidableEq κ] in
theorem map_key_map {f : α → α} (hf : ∀ a, key (f a) = key a) (l : List α) :
    (l.map f).map key = l.map key := by
  rw [List.map_map]
  exact List.map_congr_left fun a _ ↦ hf a

/-! ## Tables that only grow

`Extends` relates an earlier table to a later one, key by key: every row is still there, changed
no more than a given relation on rows allows. It is a preorder if that relation is.
-/

/-- Every row is still there, changed as `R` allows. -/
def Extends (key : α → κ) (R : α → α → Prop) (l l' : List α) : Prop :=
  ∀ k a, lookupBy key k l = some a → ∃ a', lookupBy key k l' = some a' ∧ R a a'

namespace Extends

variable {R : α → α → Prop}

theorem refl (hR : ∀ a, R a a) (l : List α) : Extends key R l l := fun _ a h ↦ ⟨a, h, hR a⟩

theorem trans (hR : ∀ a b c, R a b → R b c → R a c) {l₁ l₂ l₃ : List α}
    (h₁ : Extends key R l₁ l₂) (h₂ : Extends key R l₂ l₃) : Extends key R l₁ l₃ := by
  intro k a ha
  obtain ⟨b, hb, hab⟩ := h₁ k a ha
  obtain ⟨c, hc, hbc⟩ := h₂ k b hb
  exact ⟨c, hc, hR a b c hab hbc⟩

theorem append (hR : ∀ a, R a a) (l : List α) (row : α) : Extends key R l (l ++ [row]) := by
  intro k a ha
  exact ⟨a, by rw [lookupBy_append_singleton, ha, Option.some_or], hR a⟩

theorem replaceBy (hR : ∀ a, R a a) {l : List α} {row : α}
    (h : ∀ a, lookupBy key (key row) l = some a → R a row) :
    Extends key R l (replaceBy key row l) := by
  intro k a ha
  rw [lookupBy_replaceBy]
  by_cases hk : k = key row
  · rw [if_pos hk, ha]
    exact ⟨row, rfl, h a (hk ▸ ha)⟩
  · exact ⟨a, by rw [if_neg hk, ha], hR a⟩

theorem map {f : α → α} (hf : ∀ a, key (f a) = key a) {l : List α}
    (h : ∀ a ∈ l, R a (f a)) : Extends key R l (l.map f) := by
  intro k a ha
  refine ⟨f a, ?_, h a (lookupBy_mem ha).1⟩
  rw [lookupBy_map hf, ha, Option.map_some]

end Extends

end Collections
