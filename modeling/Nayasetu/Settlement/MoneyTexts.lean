import Mathlib.Algebra.Ring.Nat
import Nayasetu.Settlement.QuoteMoney
import Nayasetu.Values.Decimal
import Nayasetu.Values.Numeric
import Nayasetu.Values.Pattern

/-!
# Texts of amounts

The pattern of the schema and the pattern of the table, as they are written, and the texts that
have them: exactly one for each amount below `10 ^ 12`, to the hundredth. Everything about amounts
of money in texts comes down to `exists_moneyText` and `minorUnits_moneyText`.
-/

namespace Nayasetu

open Values RegularExpression

/-! ## The two patterns

They differ in how they write a digit and the point; both match the same texts.
-/

def leadingDigits : List Char := ['1', '2', '3', '4', '5', '6', '7', '8', '9']

/-- `MONEY_AMOUNT_PATTERN`: `^(?:0|[1-9]\d{0,11})\.\d{2}$`. -/
def moneyAmountRegex : RegularExpression Char :=
  (char '0' + oneOf leadingDigits * atMost 11 (oneOf decimalDigits)) * char '.' *
    oneOf decimalDigits ^ 2

/-- The pattern of `payment_quote_breakdown_check`: `^(0|[1-9][0-9]{0,11})[.][0-9]{2}$`. -/
def breakdownRegex : RegularExpression Char :=
  (char '0' + oneOf leadingDigits * atMost 11 (oneOf decimalDigits)) * oneOf ['.'] *
    oneOf decimalDigits ^ 2

/-- The text of an amount in minor units. -/
def moneyText (m : ℕ) : String :=
  String.ofList (Nat.toDigits 10 (m / 100) ++ '.' :: zeroPadded 2 (m % 100))

/-- `0|[1-9]\d{0,11}` are the texts of the numbers below `10 ^ 12`. -/
theorem mem_whole_iff {l : List Char} :
    l ∈ (char '0' + oneOf leadingDigits * atMost 11 (oneOf decimalDigits)).matches' ↔
      ∃ n < 10 ^ 12, l = Nat.toDigits 10 n := by
  rw [matches'_add, Language.mem_add, mem_char_iff, mem_mul_iff]
  constructor
  · rintro (rfl | ⟨a, ha, b, hb, rfl⟩)
    · exact ⟨0, by decide, rfl⟩
    · obtain ⟨c, hc, rfl⟩ := mem_oneOf_iff.mp ha
      obtain ⟨hlength, hall⟩ := mem_atMost_oneOf_iff.mp hb
      have hlead : ∀ d ∈ leadingDigits, d ∈ decimalDigits ∧ d ≠ '0' := forall_of_all (by decide)
      obtain ⟨n, -, hn⟩ := exists_toDigits (hlead c hc).1 (hlead c hc).2 hall
      refine ⟨n, ?_, hn⟩
      rw [← Nat.length_toDigits_le_iff (by decide) (by decide), ← hn, List.length_cons]
      exact Nat.succ_le_succ hlength
  · rintro ⟨n, hn, rfl⟩
    rcases Nat.eq_zero_or_pos n with rfl | hpos
    · exact .inl rfl
    · obtain ⟨c, cs, hcs, hc⟩ := Numeric.toDigits_eq_cons hpos
      rw [← Nat.length_toDigits_le_iff (by decide) (by decide), hcs, List.length_cons] at hn
      have hdigits : ∀ d ∈ c :: cs, d ∈ decimalDigits := fun d hd ↦
        mem_decimalDigits_of_mem_toDigits (hcs ▸ hd)
      have hlead : ∀ d ∈ decimalDigits, '1' ≤ d → d ∈ leadingDigits := forall_of_all (by decide)
      refine .inr ⟨[c], mem_oneOf_iff.mpr ⟨c, hlead c (hdigits c List.mem_cons_self) hc.1, rfl⟩, cs,
        mem_atMost_oneOf_iff.mpr ⟨Nat.le_of_succ_le_succ hn, ?_⟩, hcs.symm⟩
      exact fun d hd ↦ hdigits d (List.mem_cons_of_mem c hd)

/-- `\d{2}` are the texts of the numbers below a hundred. -/
theorem mem_fraction_iff {l : List Char} :
    l ∈ (oneOf decimalDigits ^ 2).matches' ↔ ∃ n < 100, l = zeroPadded 2 n := by
  rw [mem_oneOf_pow_iff]
  constructor
  · rintro ⟨hlength, hall⟩
    obtain ⟨n, hn, hl⟩ := exists_zeroPadded hall
    rw [hlength] at hn hl
    exact ⟨n, hn, hl⟩
  · rintro ⟨n, -, rfl⟩
    exact ⟨length_zeroPadded 2 n, fun d hd ↦ mem_decimalDigits_of_mem_zeroPadded hd⟩

theorem mem_point_iff {l : List Char} : l ∈ (oneOf ['.']).matches' ↔ l = ['.'] := by
  simp [mem_oneOf_iff]

/-- The texts with a pattern of three parts are the texts of amounts. -/
theorem mem_money_iff {point : RegularExpression Char}
    (hpoint : ∀ l, l ∈ point.matches' ↔ l = ['.'])
    {l : List Char} :
    l ∈ ((char '0' + oneOf leadingDigits * atMost 11 (oneOf decimalDigits)) * point *
      oneOf decimalDigits ^ 2).matches' ↔ ∃ m < 10 ^ 14, l = (moneyText m).toList := by
  rw [mem_mul_iff]
  constructor
  · rintro ⟨a, ha, fraction, hfraction, rfl⟩
    obtain ⟨whole, hwhole, p, hp, rfl⟩ := mem_mul_iff.mp ha
    obtain ⟨n, hn, rfl⟩ := mem_whole_iff.mp hwhole
    obtain ⟨k, hk, rfl⟩ := mem_fraction_iff.mp hfraction
    rw [(hpoint p).mp hp]
    have hdiv : (100 * n + k) / 100 = n := by omega
    have hmod : (100 * n + k) % 100 = k := by omega
    refine ⟨100 * n + k, by omega, ?_⟩
    rw [moneyText, hdiv, hmod, String.toList_ofList, List.append_assoc, List.singleton_append]
  · rintro ⟨m, hm, rfl⟩
    rw [moneyText, String.toList_ofList]
    refine ⟨Nat.toDigits 10 (m / 100) ++ ['.'], mem_mul_iff.mpr ⟨_, ?_, _, (hpoint _).mpr rfl, rfl⟩,
      _, mem_fraction_iff.mpr ⟨m % 100, Nat.mod_lt m (by decide), rfl⟩, by simp⟩
    exact mem_whole_iff.mpr ⟨m / 100, by omega, rfl⟩

theorem matches_moneyAmountRegex_iff {text : String} :
    Matches moneyAmountRegex text ↔ ∃ m < 10 ^ 14, text = moneyText m := by
  rw [matches_iff, moneyAmountRegex, mem_money_iff fun l ↦ mem_char_iff]
  simp only [String.toList_inj]

theorem matches_breakdownRegex_iff {text : String} :
    Matches breakdownRegex text ↔ ∃ m < 10 ^ 14, text = moneyText m := by
  rw [matches_iff, breakdownRegex, mem_money_iff fun l ↦ mem_point_iff]
  simp only [String.toList_inj]

/-! ## The test and the value

The definitions of the route do not use a pattern but look at the two halves of the text. They
accept what the pattern matches, and read the number it stands for.
-/

theorem isDecimalDigit_iff {c : Char} : isDecimalDigit c = true ↔ c ∈ decimalDigits := by
  constructor
  · intro h
    obtain ⟨hlow, hhigh⟩ : '0' ≤ c ∧ c ≤ '9' := by simpa [isDecimalDigit] using h
    have hlow' : 48 ≤ c.toNat := hlow
    have hhigh' : c.toNat ≤ 57 := hhigh
    rw [← Char.ofNat_toNat c]
    interval_cases c.toNat <;> decide
  · intro h
    have hall : ∀ d ∈ decimalDigits, isDecimalDigit d = true := forall_of_all (by decide)
    exact hall c h

theorem isWholeAmount_cons_iff {c : Char} {cs : List Char} : isWholeAmount (c :: cs) = true ↔
    c :: cs = ['0'] ∨ (c ∈ leadingDigits ∧ cs.length ≤ 11 ∧ ∀ d ∈ cs, d ∈ decimalDigits) := by
  have hlead : c ∈ leadingDigits ↔ c ≠ '0' ∧ c ∈ decimalDigits := by
    have hforward : ∀ d ∈ leadingDigits, d ≠ '0' ∧ d ∈ decimalDigits := forall_of_all (by decide)
    have hbackward : ∀ d ∈ decimalDigits, d ≠ '0' → d ∈ leadingDigits := forall_of_all (by decide)
    exact ⟨hforward c, fun h ↦ hbackward c h.2 h.1⟩
  rw [isWholeAmount.eq_def]
  split
  next h => cases h
  next h => exact iff_of_true rfl (.inl h)
  next hzero h =>
    cases h
    have hne : c :: cs ≠ ['0'] := fun h ↦ hzero (List.cons.inj h).1 (List.cons.inj h).2
    rw [or_iff_right hne]
    simp [hlead, isDecimalDigit_iff, and_assoc, and_comm, and_left_comm]

theorem isWholeAmount_iff {l : List Char} :
    isWholeAmount l = true ↔ ∃ n < 10 ^ 12, l = Nat.toDigits 10 n := by
  rw [← mem_whole_iff, matches'_add, Language.mem_add, mem_char_iff, mem_mul_iff]
  cases l with
  | nil => simp [isWholeAmount, mem_oneOf_iff]
  | cons c cs =>
    rw [isWholeAmount_cons_iff]
    refine or_congr Iff.rfl ?_
    simp [mem_oneOf_iff, mem_atMost_oneOf_iff]

theorem splitAtPoint_moneyText {m : ℕ} :
    splitAtPoint (moneyText m) = (Nat.toDigits 10 (m / 100), zeroPadded 2 (m % 100)) := by
  have hpoint : ∀ d ∈ Nat.toDigits 10 (m / 100), decide (d ≠ '.') = true := by
    have hall : ∀ d ∈ decimalDigits, decide (d ≠ '.') = true := forall_of_all (by decide)
    exact fun d hd ↦ hall d (mem_decimalDigits_of_mem_toDigits hd)
  rw [splitAtPoint, moneyText, String.toList_ofList, List.takeWhile_append_of_pos hpoint]
  simp

theorem eq_splitAtPoint {text : String} (h : '.' ∈ text.toList) :
    text.toList = (splitAtPoint text).1 ++ '.' :: (splitAtPoint text).2 := by
  simp only [splitAtPoint]
  generalize text.toList = l at h
  induction l with
  | nil => exact absurd h List.not_mem_nil
  | cons c l ih =>
    by_cases hc : c = '.'
    · simp [hc]
    · have hmem : '.' ∈ l := (List.mem_cons.mp h).resolve_left (Ne.symm hc)
      simpa [hc] using ih hmem

/-- The texts the route takes for amounts. -/
theorem moneyAmountPattern_iff {text : String} :
    MoneyAmountPattern text ↔ ∃ m < 10 ^ 14, text = moneyText m := by
  constructor
  · rintro ⟨hwhole, hpoint, hlength, hdigits⟩
    obtain ⟨n, hn, hwhole⟩ := isWholeAmount_iff.mp hwhole
    obtain ⟨k, hk, hfraction⟩ := exists_zeroPadded fun d hd ↦
      isDecimalDigit_iff.mp (List.all_eq_true.mp hdigits d hd)
    rw [hlength] at hk hfraction
    have hdiv : (100 * n + k) / 100 = n := by omega
    have hmod : (100 * n + k) % 100 = k := by omega
    refine ⟨100 * n + k, by omega, ?_⟩
    rw [← String.toList_inj, moneyText, String.toList_ofList, hdiv, hmod, ← hwhole, ← hfraction]
    exact eq_splitAtPoint hpoint
  · rintro ⟨m, hm, rfl⟩
    rw [MoneyAmountPattern, splitAtPoint_moneyText]
    refine ⟨isWholeAmount_iff.mpr ⟨m / 100, by omega, rfl⟩, ?_, length_zeroPadded 2 (m % 100), ?_⟩
    · rw [moneyText, String.toList_ofList]
      exact List.mem_append_right _ List.mem_cons_self
    · rw [List.all_eq_true]
      exact fun d hd ↦ isDecimalDigit_iff.mpr (mem_decimalDigits_of_mem_zeroPadded hd)

theorem moneyAmountPattern_iff_matches {text : String} :
    MoneyAmountPattern text ↔ Matches moneyAmountRegex text := by
  rw [moneyAmountPattern_iff, matches_moneyAmountRegex_iff]

/-- The value of the text of an amount is the amount. -/
theorem minorUnits_moneyText {m : ℕ} : minorUnits (moneyText m) = m := by
  have hwhole : digitsValue (Nat.toDigits 10 (m / 100)) = m / 100 := Nat.ofDigitChars_ten_toDigits
  have hfraction : digitsValue (zeroPadded 2 (m % 100)) = m % 100 :=
    ofDigitChars_zeroPadded (Nat.mod_lt m (by decide))
  rw [minorUnits, splitAtPoint_moneyText, hwhole, hfraction]
  omega

end Nayasetu
