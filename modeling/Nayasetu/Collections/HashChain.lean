import Mathlib.Data.List.Induction
import Mathlib.Tactic.Common

/-!
# Hash chains

Entries, each with a hash, form a chain from a hash `g` when the hash of each is the digest of the
entry and of the hash before it. The last hash of a chain fixes the chain, as far as digests fix
what they are taken of: `Chained.eq_of_headHash_eq`.

The chain is a property of a list of entries with their hashes, not a way of building one: it is
checked from the front (`Chained`), and `chained_iff` says what it means for the entries one by
one. A chain grows at its end by an entry whose hash is over the last hash so far
(`chained_concat`).

Nothing is assumed about the digest. That it does not collide is a hypothesis of
`Chained.eq_of_headHash_eq` about the digests of the two chains at hand, and so is that none of
them is the hash the chains start from: whoever uses the theorem says which collisions it rules
out. The proof goes along both chains from the back.
-/

namespace Collections

variable {H E : Type}

section Chain

variable (hashOf : E → H) (digest : H → E → H)

/-- The hash at the end of a chain from `g`. -/
def headHash (g : H) (l : List E) : H := l.foldl (fun _ e ↦ hashOf e) g

/-- The entries form a chain from `g`. -/
def Chained (g : H) : List E → Prop
  | [] => True
  | e :: l => hashOf e = digest g e ∧ Chained (hashOf e) l

/-- The entries of a chain, each with the hash before it. -/
def links (g : H) : List E → List (H × E)
  | [] => []
  | e :: l => (g, e) :: links (hashOf e) l

end Chain

section Lemmas

variable {hashOf : E → H} {digest : H → E → H}

@[simp] theorem headHash_nil (g : H) : headHash hashOf g [] = g := rfl

@[simp] theorem headHash_cons (g : H) (e : E) (l : List E) :
    headHash hashOf g (e :: l) = headHash hashOf (hashOf e) l := rfl

@[simp] theorem headHash_concat (g : H) (l : List E) (e : E) :
    headHash hashOf g (l ++ [e]) = hashOf e := by
  rw [headHash, List.foldl_append, List.foldl_cons, List.foldl_nil]

theorem chained_concat {g : H} {l : List E} {e : E} :
    Chained hashOf digest g (l ++ [e]) ↔
      Chained hashOf digest g l ∧ hashOf e = digest (headHash hashOf g l) e := by
  induction l generalizing g with
  | nil => rw [List.nil_append, Chained, Chained, Chained, headHash_nil, and_true, true_and]
  | cons a l ih => rw [List.cons_append, Chained, Chained, headHash_cons, ih, and_assoc]

theorem links_concat {g : H} {l : List E} {e : E} :
    links hashOf g (l ++ [e]) = links hashOf g l ++ [(headHash hashOf g l, e)] := by
  induction l generalizing g with
  | nil => rfl
  | cons a l ih => rw [List.cons_append, links, links, headHash_cons, ih, List.cons_append]

theorem chained_iff {g : H} {l : List E} :
    Chained hashOf digest g l ↔ ∀ p ∈ links hashOf g l, hashOf p.2 = digest p.1 p.2 := by
  induction l generalizing g with
  | nil => exact ⟨fun _ ↦ List.forall_mem_nil _, fun _ ↦ trivial⟩
  | cons e l ih => rw [Chained, links, List.forall_mem_cons, ih]

theorem map_snd_links {g : H} {l : List E} : (links hashOf g l).map Prod.snd = l := by
  induction l generalizing g with
  | nil => rfl
  | cons e l ih => rw [links, List.map_cons, ih]

/-- The hash before an entry is the first one or that of an entry. -/
theorem fst_of_mem_links {g : H} {l : List E} {p : H × E} (h : p ∈ links hashOf g l) :
    p.1 = g ∨ ∃ e ∈ l, p.1 = hashOf e := by
  induction l generalizing g with
  | nil => exact absurd h List.not_mem_nil
  | cons e l ih =>
    rcases List.mem_cons.mp h with rfl | h
    · exact .inl rfl
    · rcases ih h with hfirst | ⟨e', he', hhash⟩
      · exact .inr ⟨e, List.mem_cons_self, hfirst⟩
      · exact .inr ⟨e', List.mem_cons_of_mem _ he', hhash⟩

/-- Another view of the entries and their hashes. -/
theorem links_map {H' E' : Type} {hashOf' : E' → H'} (f : E → E') (k : H → H')
    (h : ∀ e, hashOf' (f e) = k (hashOf e)) (g : H) (l : List E) :
    links hashOf' (k g) (l.map f) = (links hashOf g l).map fun p ↦ (k p.1, f p.2) := by
  induction l generalizing g with
  | nil => rfl
  | cons e l ih => rw [List.map_cons, links, links, List.map_cons, h, ih]

theorem headHash_eq_getLast {g : H} {l : List E} (h : l ≠ []) :
    headHash hashOf g l = hashOf (l.getLast h) := by
  conv_lhs => rw [← List.dropLast_concat_getLast h]
  exact headHash_concat _ _ _

/-- The hash before a new entry, where the first entry has none. -/
theorem headHash_some {f : E → H} {l : List E} :
    headHash (fun e ↦ some (f e)) none l = l.getLast?.map f := by
  induction l using List.reverseRecOn with
  | nil => rfl
  | append_singleton l e _ => rw [headHash_concat, List.getLast?_concat, Option.map_some]

/-- The last hash of a chain fixes the chain: two chains from `g` with the same last hash agree on
whatever a digest fixes, provided that no digest is `g`. -/
theorem Chained.eq_of_headHash_eq {C : Type} {content : E → C} {g : H} {l l' : List E}
    (hl : Chained hashOf digest g l) (hl' : Chained hashOf digest g l')
    (hfresh : ∀ p ∈ links hashOf g l ++ links hashOf g l', digest p.1 p.2 ≠ g)
    (hdigest : ∀ p ∈ links hashOf g l, ∀ q ∈ links hashOf g l',
      digest p.1 p.2 = digest q.1 q.2 → p.1 = q.1 ∧ content p.2 = content q.2)
    (h : headHash hashOf g l = headHash hashOf g l') : l.map content = l'.map content := by
  -- backwards along both chains: equal hashes have equal contents and equal hashes before them
  induction l using List.reverseRecOn generalizing l' with
  | nil =>
    induction l' using List.reverseRecOn with
    | nil => rfl
    | append_singleton l' e' _ =>
      rw [headHash_nil, headHash_concat, (chained_concat.mp hl').2] at h
      refine absurd h.symm (hfresh (headHash hashOf g l', e') ?_)
      rw [links_concat]
      exact List.mem_append_right _ (List.mem_append_right _ (List.mem_singleton.mpr rfl))
  | append_singleton l e ih =>
    induction l' using List.reverseRecOn with
    | nil =>
      rw [headHash_nil, headHash_concat, (chained_concat.mp hl).2] at h
      refine absurd h (hfresh (headHash hashOf g l, e) ?_)
      rw [links_concat]
      exact List.mem_append_left _ (List.mem_append_right _ (List.mem_singleton.mpr rfl))
    | append_singleton l' e' _ =>
      obtain ⟨hl, he⟩ := chained_concat.mp hl
      obtain ⟨hl', he'⟩ := chained_concat.mp hl'
      rw [headHash_concat, headHash_concat, he, he'] at h
      rw [links_concat, links_concat] at hdigest hfresh
      have hlast := hdigest (headHash hashOf g l, e)
        (List.mem_append_right _ (List.mem_singleton.mpr rfl)) (headHash hashOf g l', e')
        (List.mem_append_right _ (List.mem_singleton.mpr rfl)) h
      have hfresh' : ∀ p ∈ links hashOf g l ++ links hashOf g l', digest p.1 p.2 ≠ g := by
        intro p hp
        refine hfresh p ?_
        rcases List.mem_append.mp hp with hp | hp
        · exact List.mem_append_left _ (List.mem_append_left _ hp)
        · exact List.mem_append_right _ (List.mem_append_left _ hp)
      rw [List.map_append, List.map_append, List.map_singleton, List.map_singleton, hlast.2,
        ih hl hl' hfresh' (fun p hp q hq ↦ hdigest p (List.mem_append_left _ hp) q
          (List.mem_append_left _ hq)) hlast.1]

end Lemmas

end Collections
