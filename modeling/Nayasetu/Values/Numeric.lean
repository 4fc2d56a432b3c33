import Mathlib.Algebra.Order.Group.Int
import Mathlib.Data.Nat.Log
import Mathlib.Data.Nat.Digits.Defs
import Mathlib.Tactic.Common
import Mathlib.Tactic.Linarith
import Mathlib.Tactic.NormNum
import Mathlib.Tactic.Ring

/-!
# Decimal numbers

The arbitrary-precision decimals of SQL, and what becomes of them in a language whose only numbers
are IEEE 754 doubles. A decimal keeps its scale, the number of digits after the point, so that
`1.0` and `1` are different representations with different texts.

A double is kept as a mantissa and a binary exponent. `Numeric.toDouble` rounds to nearest, ties to
even; `Numeric.toDouble_ofInt` says that integers below `2 ^ 53` come through unchanged.

Comparisons are by value, so `1.0` and `1` compare as equal although their texts differ. A pattern
on the text of a number is a statement about its representation: `isPositiveIntegerText` takes `1`
and refuses `1.0`.
-/

namespace Values

/-- The decimal `unscaled / 10 ^ scale`. -/
structure Numeric where
  /-- All digits, without the point. -/
  unscaled : ℤ
  /-- The number of digits after the point. -/
  scale : ℕ
  deriving DecidableEq, Repr

namespace Numeric

/-- The integer `n`. -/
def ofInt (n : ℤ) : Numeric := ⟨n, 0⟩

/-- Compare values, not representations. -/
def le (a b : Numeric) : Bool := a.unscaled * 10 ^ b.scale ≤ b.unscaled * 10 ^ a.scale

/-- The digits of the absolute value, at least one of them before the point. -/
def digits (a : Numeric) : List Char :=
  let ds := Nat.toDigits 10 a.unscaled.natAbs
  List.replicate (a.scale + 1 - ds.length) '0' ++ ds

/-- The text SQL prints: every digit of the scale, and a point only if there is one. -/
def text (a : Numeric) : List Char :=
  let whole := a.digits.take (a.digits.length - a.scale)
  let fraction := a.digits.drop (a.digits.length - a.scale)
  (if a.unscaled < 0 then ['-'] else []) ++ whole ++ (if a.scale = 0 then [] else '.' :: fraction)

/-- The text matches `^[1-9][0-9]*$`. -/
def isPositiveIntegerText (cs : List Char) : Bool :=
  match cs with
  | [] => false
  | c :: cs => decide ('1' ≤ c ∧ c ≤ '9') && cs.all fun d ↦ decide ('0' ≤ d ∧ d ≤ '9')

theorem isPositiveIntegerText_text {a : Numeric} (h : isPositiveIntegerText a.text = true) :
    0 < a.unscaled ∧ a.scale = 0 := by
  have hall : ∀ d ∈ a.text, '0' ≤ d ∧ d ≤ '9' := by
    intro d hd
    cases ht : a.text with
    | nil => simp [ht] at hd
    | cons c cs =>
      rw [ht] at h hd
      simp only [isPositiveIntegerText, Bool.and_eq_true, decide_eq_true_iff, List.all_eq_true] at h
      rcases List.mem_cons.mp hd with rfl | hd
      · exact ⟨Char.le_trans (by decide) h.1.1, h.1.2⟩
      · exact h.2 d hd
  have hscale : a.scale = 0 := by
    by_contra hs
    have hdot : '.' ∈ a.text := by simp [text, hs]
    exact absurd (hall _ hdot).1 (by decide)
  refine ⟨?_, hscale⟩
  rcases lt_trichotomy a.unscaled 0 with hneg | hzero | hpos
  · have hminus : '-' ∈ a.text := by simp [text, hneg]
    exact absurd (hall _ hminus).1 (by decide)
  · have htext : a.text = ['0'] := by
      simp [text, digits, hzero, hscale, Nat.toDigits, Nat.toDigitsCore, Nat.digitChar]
    rw [htext] at h
    exact absurd h (by decide)
  · exact hpos

/-- The first digit of a positive number is not zero. -/
theorem toDigits_eq_cons {n : ℕ} (h : 0 < n) :
    ∃ c cs, Nat.toDigits 10 n = c :: cs ∧ '1' ≤ c ∧ c ≤ '9' := by
  induction n using Nat.strongRecOn with
  | ind n ih =>
    by_cases hn : n < 10
    · rw [Nat.toDigits_of_lt_base hn]
      refine ⟨n.digitChar, [], rfl, ?_⟩
      have hdigits : ∀ m : Fin 10, 0 < m.val → '1' ≤ m.val.digitChar ∧ m.val.digitChar ≤ '9' := by
        decide
      exact hdigits ⟨n, hn⟩ h
    · obtain ⟨c, cs, hcs, hc⟩ := ih (n / 10) (by omega) (by omega)
      rw [Nat.toDigits_of_base_le (by decide) (by omega), hcs]
      exact ⟨c, _, rfl, hc⟩

theorem isPositiveIntegerText_text_iff {a : Numeric} :
    isPositiveIntegerText a.text = true ↔ 0 < a.unscaled ∧ a.scale = 0 := by
  refine ⟨isPositiveIntegerText_text, fun ⟨hpos, hscale⟩ ↦ ?_⟩
  obtain ⟨c, cs, hcs, hc⟩ := toDigits_eq_cons (Int.natAbs_pos.mpr hpos.ne')
  have htext : a.text = c :: cs := by
    rw [text, digits, hscale, hcs, if_neg (not_lt.mpr hpos.le)]
    simp
  rw [htext, isPositiveIntegerText, Bool.and_eq_true, decide_eq_true_iff, List.all_eq_true]
  refine ⟨hc, fun d hd ↦ ?_⟩
  have hdigit : d.isDigit = true :=
    Nat.isDigit_of_mem_toDigits (by decide) (by decide) (hcs ▸ List.mem_cons_of_mem c hd)
  rw [Char.isDigit, Bool.and_eq_true, decide_eq_true_iff, decide_eq_true_iff] at hdigit
  exact decide_eq_true hdigit

/-! ## Rounding to doubles

The driver hands a number of a document to the program as a double. A quotient is scaled so that
its integer part has 53 binary digits, and what is left over decides where it is rounded to.
-/

/-- `mantissa * 2 ^ exponent`, or an overflow. -/
inductive Double where
  /-- A finite value. -/
  | finite (mantissa : ℤ) (exponent : ℤ)
  /-- Too large to be finite. -/
  | infinite (negative : Bool)
  deriving DecidableEq, Repr

/-- The value, if it is an integer. -/
def Double.toInt? : Double → Option ℤ
  | .finite m e =>
    if 0 ≤ e then some (m * 2 ^ e.toNat)
    else if m % 2 ^ (-e).toNat = 0 then some (m / 2 ^ (-e).toNat)
    else none
  | .infinite _ => none

/-- `num / den` rounded to an integer, ties to even. -/
def divRound (num den : ℕ) : ℕ :=
  let q := num / den
  let r := num % den
  if 2 * r < den then q else if den < 2 * r then q + 1 else q + q % 2

/-- `⌊log₂ (num / den)⌋`. -/
def log2Div (num den : ℕ) : ℤ :=
  if den ≤ num then Nat.log2 (num / den)
  else
    let k := Nat.log2 (den / num)
    if den ≤ num * 2 ^ k then -k else -(k + 1)

/-- The nearest double. The exponent leaves 53 bits, fewer for subnormal values; the largest finite
double is `(2 ^ 53 - 1) * 2 ^ 971`. -/
def toDouble (a : Numeric) : Double :=
  let num := a.unscaled.natAbs
  let den := 10 ^ a.scale
  let e := max (log2Div num den - 52) (-1074)
  let m := if 0 ≤ e then divRound num (den * 2 ^ e.toNat) else divRound (num * 2 ^ (-e).toNat) den
  if 971 < e ∨ (e = 971 ∧ m = 2 ^ 53) then .infinite (a.unscaled < 0)
  else .finite (if a.unscaled < 0 then -m else m) e

theorem divRound_one (n : ℕ) : divRound n 1 = n := by
  simp [divRound, Nat.mod_one]

/-- Positive integers below `2 ^ 53` are doubles. -/
theorem toDouble_ofInt {n : ℤ} (hpos : 0 < n) (hlt : n < 2 ^ 53) :
    (ofInt n).toDouble.toInt? = some n := by
  obtain ⟨m, rfl⟩ := Int.eq_ofNat_of_zero_le hpos.le
  have hm : m ≠ 0 := by rintro rfl; simp at hpos
  have hm53 : m < 2 ^ 53 := by exact_mod_cast hlt
  have hlog : Nat.log2 m < 53 := (Nat.log2_lt hm).mpr hm53
  obtain ⟨k, hk⟩ : ∃ k : ℕ, Nat.log2 m + k = 52 := ⟨52 - Nat.log2 m, by omega⟩
  have he : max (log2Div m 1 - 52) (-1074) = -(k : ℤ) := by
    rw [log2Div, if_pos (Nat.one_le_iff_ne_zero.mpr hm), Nat.div_one]
    omega
  have hnonneg : ¬ ((m : ℤ) < 0) := by omega
  simp only [toDouble, ofInt, Int.natAbs_natCast, pow_zero, he, neg_neg, Int.toNat_natCast,
    divRound_one, if_neg hnonneg]
  rw [if_neg (c := 971 < -(k : ℤ) ∨ _) (by omega)]
  rcases Nat.eq_zero_or_pos k with rfl | hkpos
  · simp [Double.toInt?, divRound_one]
  · have hk0 : ¬ (0 ≤ -(k : ℤ)) := by omega
    rw [if_neg hk0, Double.toInt?, if_neg hk0]
    have hpow : ((2 : ℤ) ^ k) ≠ 0 := by positivity
    have hcast : ((m * 2 ^ k : ℕ) : ℤ) = (m : ℤ) * 2 ^ k := by push_cast; ring
    simp only [neg_neg, Int.toNat_natCast, hcast, Int.mul_emod_left, if_true]
    rw [Int.mul_ediv_cancel _ hpow]

end Numeric

end Values
