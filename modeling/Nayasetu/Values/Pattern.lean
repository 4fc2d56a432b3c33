import Mathlib.Computability.RegularExpressions

/-!
# Patterns on characters

The regular expressions that schemas put on texts: classes of characters and bounded repetitions of
them. Both say what their texts look like: how long they are and which characters they have.

The expressions are those of Mathlib, which denote sets of texts, and a text is checked against
the set as a whole. For patterns that are anchored at both ends this is what the engine does, too;
expressions that look around, or are searched for inside of a text, are a matter of their own.
-/

namespace Values

open RegularExpression

/-- One of some characters. -/
def oneOf (cs : List Char) : RegularExpression Char := cs.foldr (fun c p ↦ char c + p) 0

/-- At most `n` times: `p{0,n}`. -/
def atMost (n : ℕ) (p : RegularExpression Char) : RegularExpression Char := (1 + p) ^ n

/-- The text matches from its first character to its last. -/
def Matches (p : RegularExpression Char) (text : String) : Prop := p.rmatch text.toList = true

instance (p : RegularExpression Char) (text : String) : Decidable (Matches p text) :=
  inferInstanceAs (Decidable (_ = true))

section Rules

variable {p q : RegularExpression Char} {text : String} {cs l : List Char} {n : ℕ}

theorem matches_iff : Matches p text ↔ text.toList ∈ p.matches' := rmatch_iff_matches' p text.toList

theorem mem_mul_iff : l ∈ (p * q).matches' ↔ ∃ a ∈ p.matches', ∃ b ∈ q.matches', a ++ b = l := by
  rw [matches'_mul, Language.mem_mul]

theorem mem_char_iff {c : Char} : l ∈ (char c).matches' ↔ l = [c] := Iff.rfl

theorem mem_oneOf_iff : l ∈ (oneOf cs).matches' ↔ ∃ c ∈ cs, l = [c] := by
  induction cs with
  | nil => simp [oneOf]
  | cons c cs ih =>
    rw [oneOf, List.foldr_cons, matches'_add, Language.mem_add, List.exists_mem_cons_iff]
    exact or_congr mem_char_iff ih

/-- So many characters of the class. -/
theorem mem_oneOf_pow_iff :
    l ∈ (oneOf cs ^ n).matches' ↔ l.length = n ∧ ∀ c ∈ l, c ∈ cs := by
  induction n generalizing l with
  | zero =>
    rw [matches'_pow, pow_zero, Language.mem_one, List.length_eq_zero_iff]
    exact ⟨fun h ↦ ⟨h, by simp [h]⟩, And.left⟩
  | succ n ih =>
    rw [matches'_pow, pow_succ', Language.mem_mul, ← matches'_pow]
    constructor
    · rintro ⟨a, ha, b, hb, rfl⟩
      obtain ⟨c, hc, rfl⟩ := mem_oneOf_iff.mp ha
      obtain ⟨rfl, hall⟩ := ih.mp hb
      exact ⟨rfl, List.forall_mem_cons.mpr ⟨hc, hall⟩⟩
    · rintro ⟨hlength, hall⟩
      obtain ⟨c, l, rfl⟩ := List.exists_cons_of_length_eq_add_one hlength
      obtain ⟨hc, hall⟩ := List.forall_mem_cons.mp hall
      exact ⟨[c], mem_oneOf_iff.mpr ⟨c, hc, rfl⟩, l, ih.mpr ⟨Nat.succ.inj hlength, hall⟩, rfl⟩

/-- No more than so many characters of the class. -/
theorem mem_atMost_oneOf_iff :
    l ∈ (atMost n (oneOf cs)).matches' ↔ l.length ≤ n ∧ ∀ c ∈ l, c ∈ cs := by
  rw [atMost]
  induction n generalizing l with
  | zero =>
    rw [matches'_pow, pow_zero, Language.mem_one, Nat.le_zero, List.length_eq_zero_iff]
    exact ⟨fun h ↦ ⟨h, by simp [h]⟩, And.left⟩
  | succ n ih =>
    rw [matches'_pow, pow_succ', Language.mem_mul, ← matches'_pow]
    constructor
    · rintro ⟨a, ha, b, hb, rfl⟩
      obtain ⟨hlength, hall⟩ := ih.mp hb
      rcases ha with rfl | ha
      · exact ⟨Nat.le_succ_of_le hlength, hall⟩
      · obtain ⟨c, hc, rfl⟩ := mem_oneOf_iff.mp ha
        exact ⟨Nat.succ_le_succ hlength, List.forall_mem_cons.mpr ⟨hc, hall⟩⟩
    · rintro ⟨hlength, hall⟩
      cases l with
      | nil => exact ⟨[], .inl rfl, [], ih.mpr ⟨Nat.zero_le n, hall⟩, rfl⟩
      | cons c l =>
        obtain ⟨hc, hall⟩ := List.forall_mem_cons.mp hall
        exact ⟨[c], .inr (mem_oneOf_iff.mpr ⟨c, hc, rfl⟩), l,
          ih.mpr ⟨Nat.le_of_succ_le_succ hlength, hall⟩, rfl⟩

end Rules

end Values
