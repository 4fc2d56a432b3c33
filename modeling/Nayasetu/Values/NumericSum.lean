import Mathlib.Algebra.Field.Rat
import Mathlib.Tactic.FieldSimp
import Nayasetu.Values.Framing
import Nayasetu.Values.Numeric

/-!
# Reading and adding decimals

A decimal column without precision holds every decimal up to a fixed number of digits. Texts of
decimals are read digit by digit, and sums keep the larger scale, so that they are exact.

A sum has the larger of the two scales and the exact value of the sum, so no digit is ever lost,
however many terms there are, as long as the column can hold it (`Fits`). `ofText` is the input
function of the type: it reads what `Numeric.text` writes as the same decimal, with its scale.
-/

namespace Values

/-! ## Lengths of texts -/

theorem length_utf8_ofList_le (cs : List Char) :
    (utf8 (String.ofList cs)).length ≤ 4 * cs.length := by
  have hlength (text : String) : (utf8 text).length = text.utf8ByteSize := by
    rw [utf8, Array.length_toList, String.toUTF8_eq_toByteArray, ← String.size_toByteArray]
    rfl
  rw [hlength]
  induction cs with
  | nil => exact le_rfl
  | cons c cs ih =>
    have hcons : String.ofList (c :: cs) = String.singleton c ++ String.ofList cs := by
      rw [String.singleton_eq_ofList, ← String.ofList_append, List.singleton_append]
    rw [hcons, String.utf8ByteSize_append, String.utf8ByteSize_singleton, List.length_cons]
    have := c.utf8Size_le_four
    omega

namespace Numeric

/-- The number that a decimal denotes. -/
def value (a : Numeric) : ℚ := a.unscaled / 10 ^ a.scale

/-- What a `numeric` column holds: 131072 digits before the point and 16383 behind it. -/
def Fits (a : Numeric) : Prop :=
  a.scale ≤ 16383 ∧ (Nat.toDigits 10 a.unscaled.natAbs).length ≤ 131072 + a.scale

instance (a : Numeric) : Decidable a.Fits := inferInstanceAs (Decidable (_ ∧ _))

/-- The sum, with the larger scale. -/
def add (a b : Numeric) : Numeric where
  unscaled := a.unscaled * 10 ^ (max a.scale b.scale - a.scale) +
    b.unscaled * 10 ^ (max a.scale b.scale - b.scale)
  scale := max a.scale b.scale

/-- The number that decimal digits denote. -/
def ofDigits (digits : List Char) : ℕ :=
  digits.foldl (fun n c ↦ 10 * n + (c.toNat - '0'.toNat)) 0

/-- The decimal a text of digits denotes, with a sign and a point where the text has them. -/
def ofText (text : List Char) : Numeric :=
  let unsigned := text.dropWhile (· = '-')
  let whole := unsigned.takeWhile (· ≠ '.')
  let fraction := unsigned.drop (whole.length + 1)
  let magnitude : ℤ := ofDigits (whole ++ fraction)
  ⟨if text.head? = some '-' then -magnitude else magnitude, fraction.length⟩

@[simp] theorem value_zero : (ofInt 0).value = 0 := by
  rw [value, ofInt, Int.cast_zero, zero_div]

/-- Sums are exact. -/
@[simp] theorem value_add (a b : Numeric) : (a.add b).value = a.value + b.value := by
  have hscale (n m : ℕ) : (10 : ℚ) ^ max n m = 10 ^ (max n m - n) * 10 ^ n := by
    rw [← pow_add, Nat.sub_add_cancel (le_max_left n m)]
  have ha : a.value = a.unscaled * 10 ^ (max a.scale b.scale - a.scale) / 10 ^ max
      a.scale b.scale := by
    rw [value, hscale a.scale b.scale]
    field_simp
  have hb : b.value = b.unscaled * 10 ^ (max a.scale b.scale - b.scale) / 10 ^ max
      a.scale b.scale := by
    rw [value, max_comm a.scale, hscale b.scale a.scale]
    field_simp
  rw [ha, hb, ← add_div, value, add]
  push_cast
  rfl

theorem ofDigits_digits (a : Numeric) : ofDigits a.digits = a.unscaled.natAbs := by
  have hzeros (n : ℕ) :
      (List.replicate n '0').foldl (fun n c ↦ 10 * n + (c.toNat - '0'.toNat)) 0 = 0 := by
    induction n with
    | zero => rfl
    | succ n ih => rw [List.replicate_succ, List.foldl_cons]; exact ih
  rw [ofDigits, digits, List.foldl_append, hzeros]
  exact Nat.ofDigitChars_ten_toDigits

/-- A digit is neither a point nor a sign. -/
theorem ne_of_mem_digits {a : Numeric} {c : Char} (h : c ∈ a.digits) : c ≠ '.' ∧ c ≠ '-' := by
  have hdigit : c.isDigit = true := by
    rcases List.mem_append.mp h with h | h
    · rw [List.eq_of_mem_replicate h]
      rfl
    · exact Nat.isDigit_of_mem_toDigits (by decide) (by decide) h
  constructor <;> rintro rfl <;> cases hdigit

theorem length_digits (a : Numeric) : a.scale + 1 ≤ a.digits.length := by
  rw [digits, List.length_append, List.length_replicate]
  omega

theorem ofText_text (a : Numeric) : ofText a.text = a := by
  let whole := a.digits.take (a.digits.length - a.scale)
  let fraction := a.digits.drop (a.digits.length - a.scale)
  have hlength := a.length_digits
  have hwhole : ∀ c ∈ whole, c ≠ '.' ∧ c ≠ '-' := fun c hc ↦
    ne_of_mem_digits (List.mem_of_mem_take hc)
  obtain ⟨c, cs, hcons⟩ := List.exists_cons_of_length_pos
    (by rw [List.length_take]; omega : 0 < whole.length)
  have hc : c ≠ '.' ∧ c ≠ '-' := hwhole c (hcons ▸ List.mem_cons_self)
  have hfraction : fraction.length = a.scale := by
    rw [List.length_drop]
    omega
  have htext : a.text = (if a.unscaled < 0 then ['-'] else []) ++
      (whole ++ (if a.scale = 0 then [] else '.' :: fraction)) := List.append_assoc _ _ _
  have hunsigned : a.text.dropWhile (· = '-') =
      whole ++ (if a.scale = 0 then [] else '.' :: fraction) := by
    rw [htext, hcons]
    split <;> simp [hc.2]
  have htake : (whole ++ (if a.scale = 0 then [] else '.' :: fraction)).takeWhile (· ≠ '.') =
      whole := by
    rw [List.takeWhile_append_of_pos fun c hc ↦ decide_eq_true (hwhole c hc).1]
    split <;> simp
  have hdrop : (whole ++ (if a.scale = 0 then [] else '.' :: fraction)).drop (whole.length + 1) =
      fraction := by
    split
    next hzero =>
      rw [List.append_nil, List.drop_eq_nil_of_le (Nat.le_succ _),
        List.length_eq_zero_iff.mp (hfraction.trans hzero)]
    next => simp
  have hsign : a.text.head? = some '-' ↔ a.unscaled < 0 := by
    rw [htext, hcons]
    split
    next h => simp [h]
    next h => simpa [h] using hc.2
  have hmagnitude : (ofDigits (whole ++ fraction) : ℤ) = a.unscaled.natAbs := by
    rw [List.take_append_drop, ofDigits_digits]
  have hunscaled : (if a.unscaled < 0 then -(a.unscaled.natAbs : ℤ) else a.unscaled.natAbs) =
      a.unscaled := by
    split <;> omega
  simp only [ofText, hunsigned, htake, hdrop, hsign, hmagnitude, hfraction, hunscaled]

theorem length_text_le {a : Numeric} (h : a.Fits) : a.text.length ≤ 147457 := by
  obtain ⟨hscale, hdigits⟩ := h
  have hlength : a.digits.length ≤ 131072 + a.scale := by
    rw [digits, List.length_append, List.length_replicate]
    omega
  have hsign : (if a.unscaled < 0 then ['-'] else []).length ≤ 1 := by
    split <;> decide
  rw [text, List.length_append, List.length_append, List.length_take]
  have hfraction :
    (if a.scale = 0 then [] else '.' :: a.digits.drop (a.digits.length - a.scale)).length ≤
      a.digits.length - (a.digits.length - a.scale) + 1 := by
    split
    · exact Nat.zero_le _
    · rw [List.length_cons, List.length_drop]
  omega

end Numeric

example : Numeric.ofText "-12.50".toList = ⟨-1250, 2⟩ := by decide

end Values
