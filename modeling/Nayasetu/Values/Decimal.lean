import Mathlib.Algebra.Order.Group.Int
import Mathlib.Data.List.Basic
import Mathlib.Data.List.Induction
import Mathlib.Tactic.Common
import Mathlib.Tactic.IntervalCases

/-!
# Decimal texts

The texts of natural numbers and integers, and the fixed-width texts of dates and times. Different
numbers have different texts.

These are the facts behind every claim that a text determines what was printed: that digits are
never mistaken for a sign or a separator, that a number of fixed width is filled up with zeros to
that width and to no more, and that fields of known widths can be cut out of a text again
(`fieldsText_inj`).
-/

namespace Values

/-! ## Digits -/

theorem digitChar_inj {m n : ℕ} (hm : m < 10) (hn : n < 10) (h : m.digitChar = n.digitChar) :
    m = n := by
  rw [← Nat.toNat_digitChar_sub_48_of_lt_ten hm, h, Nat.toNat_digitChar_sub_48_of_lt_ten hn]

theorem isDigit_digitChar {n : ℕ} (h : n < 10) : n.digitChar.isDigit = true := by
  interval_cases n <;> rfl

def decimalDigits : List Char := ['0', '1', '2', '3', '4', '5', '6', '7', '8', '9']

theorem forall_of_all {l : List Char} {P : Char → Prop} [DecidablePred P]
    (h : l.all (fun c ↦ decide (P c)) = true) : ∀ c ∈ l, P c :=
  fun c hc ↦ of_decide_eq_true (List.all_eq_true.mp h c hc)

theorem exists_digitChar {c : Char} (h : c ∈ decimalDigits) : ∃ n < 10, c = n.digitChar := by
  have hall : ∀ c ∈ decimalDigits, ∃ n < 10, c = n.digitChar := forall_of_all (by decide)
  exact hall c h

theorem digitChar_mem {n : ℕ} (h : n < 10) : n.digitChar ∈ decimalDigits := by
  interval_cases n <;> decide

theorem mem_decimalDigits_of_mem_toDigits {n : ℕ} {c : Char} (h : c ∈ Nat.toDigits 10 n) :
    c ∈ decimalDigits := by
  induction n using Nat.strongRecOn with
  | ind n ih =>
    rcases Nat.lt_or_ge n 10 with hn | hn
    · rw [Nat.toDigits_of_lt_base hn, List.mem_singleton] at h
      rw [h]
      exact digitChar_mem hn
    · rw [Nat.toDigits_of_base_le (by decide) hn, List.mem_append, List.mem_singleton] at h
      rcases h with h | rfl
      · exact ih (n / 10) (by omega) h
      · exact digitChar_mem (Nat.mod_lt n (by decide))

/-- Digits that do not begin with a zero are the text of a positive number. -/
theorem exists_toDigits {c : Char} {cs : List Char} (hc : c ∈ decimalDigits) (hzero : c ≠ '0')
    (hcs : ∀ d ∈ cs, d ∈ decimalDigits) : ∃ n, 0 < n ∧ c :: cs = Nat.toDigits 10 n := by
  induction cs using List.reverseRecOn with
  | nil =>
    obtain ⟨n, hn, rfl⟩ := exists_digitChar hc
    refine ⟨n, Nat.pos_of_ne_zero ?_, (Nat.toDigits_of_lt_base hn).symm⟩
    rintro rfl
    exact hzero rfl
  | append_singleton cs d ih =>
    obtain ⟨n, hpos, hn⟩ := ih fun d hd ↦ hcs d (List.mem_append_left _ hd)
    obtain ⟨m, hm, rfl⟩ := exists_digitChar (hcs d (List.mem_append_right _ List.mem_cons_self))
    refine ⟨10 * n + m, by omega, ?_⟩
    rw [← Nat.toDigits_append_toDigits (by decide) hpos hm, ← hn, Nat.toDigits_of_lt_base hm]
    rfl

theorem toDigits_inj {m n : ℕ} (h : Nat.toDigits 10 m = Nat.toDigits 10 n) : m = n := by
  rw [← Nat.ofDigitChars_ten_toDigits (n := m), h, Nat.ofDigitChars_ten_toDigits]

def intText (n : ℤ) : List Char :=
  if n < 0 then '-' :: Nat.toDigits 10 n.natAbs else Nat.toDigits 10 n.natAbs

theorem minus_not_mem_toDigits {n : ℕ} : '-' ∉ Nat.toDigits 10 n := fun h ↦
  absurd (Nat.isDigit_of_mem_toDigits (by decide) (by decide) h) (by decide)

theorem intText_inj {m n : ℤ} (h : intText m = intText n) : m = n := by
  rw [intText, intText] at h
  split at h <;> split at h
  · have := toDigits_inj (List.cons.inj h).2
    omega
  · exact absurd (h ▸ List.mem_cons_self) minus_not_mem_toDigits
  · exact absurd (h.symm ▸ List.mem_cons_self) minus_not_mem_toDigits
  · have := toDigits_inj h
    omega

/-! ## Fixed widths -/

/-- The last `width` digits of `n`. -/
def zeroPadded : ℕ → ℕ → List Char
  | 0, _ => []
  | width + 1, n => zeroPadded width (n / 10) ++ [(n % 10).digitChar]

@[simp] theorem length_zeroPadded (width n : ℕ) : (zeroPadded width n).length = width := by
  induction width generalizing n with
  | zero => rfl
  | succ width ih => rw [zeroPadded, List.length_append, ih, List.length_singleton]

theorem zeroPadded_inj {width m n : ℕ} (hm : m < 10 ^ width) (hn : n < 10 ^ width)
    (h : zeroPadded width m = zeroPadded width n) : m = n := by
  induction width generalizing m n with
  | zero => omega
  | succ width ih =>
    rw [zeroPadded, zeroPadded] at h
    obtain ⟨hinit, hlast⟩ := List.append_inj h (by simp)
    rw [pow_succ] at hm hn
    have hquot := ih (Nat.div_lt_of_lt_mul (by omega)) (Nat.div_lt_of_lt_mul (by omega)) hinit
    have hrem := digitChar_inj (Nat.mod_lt m (by decide)) (Nat.mod_lt n (by decide))
      (List.singleton_inj.mp hlast)
    omega

/-- As many digits as the width are the text of a number that fits it. -/
theorem exists_zeroPadded {cs : List Char} (h : ∀ d ∈ cs, d ∈ decimalDigits) :
    ∃ n < 10 ^ cs.length, cs = zeroPadded cs.length n := by
  induction cs using List.reverseRecOn with
  | nil => exact ⟨0, by decide, rfl⟩
  | append_singleton cs d ih =>
    obtain ⟨n, hn, hcs⟩ := ih fun d hd ↦ h d (List.mem_append_left _ hd)
    obtain ⟨m, hm, rfl⟩ := exists_digitChar (h d (List.mem_append_right _ List.mem_cons_self))
    rw [List.length_append, List.length_singleton, pow_succ]
    refine ⟨10 * n + m, by omega, ?_⟩
    have hquot : (10 * n + m) / 10 = n := by omega
    have hrem : (10 * n + m) % 10 = m := by omega
    rw [zeroPadded, hquot, hrem, ← hcs]

theorem ofDigitChars_zeroPadded {width n : ℕ} (h : n < 10 ^ width) :
    Nat.ofDigitChars 10 (zeroPadded width n) 0 = n := by
  induction width generalizing n with
  | zero =>
    rw [zeroPadded, Nat.ofDigitChars_nil]
    omega
  | succ width ih =>
    rw [pow_succ] at h
    rw [zeroPadded, Nat.ofDigitChars_append, ih (Nat.div_lt_of_lt_mul (by omega)),
      Nat.ofDigitChars_cons_digitChar_of_lt_ten (Nat.mod_lt n (by decide)), Nat.ofDigitChars_nil]
    omega

theorem mem_decimalDigits_of_mem_zeroPadded {width n : ℕ} {c : Char} (h : c ∈ zeroPadded width n) :
    c ∈ decimalDigits := by
  induction width generalizing n with
  | zero => exact absurd h List.not_mem_nil
  | succ width ih =>
    rcases List.mem_append.mp h with hinit | hlast
    · exact ih hinit
    · rw [List.mem_singleton.mp hlast]
      exact digitChar_mem (Nat.mod_lt n (by decide))

theorem isDigit_of_mem_zeroPadded {width n : ℕ} {c : Char} (h : c ∈ zeroPadded width n) :
    c.isDigit = true := by
  induction width generalizing n with
  | zero => exact absurd h List.not_mem_nil
  | succ width ih =>
    rcases List.mem_append.mp h with hinit | hlast
    · exact ih hinit
    · rw [List.mem_singleton.mp hlast]
      exact isDigit_digitChar (Nat.mod_lt n (by decide))

/-! ## Separated fields -/

/-- A field of fixed width with the character before it. -/
structure Field where
  separator : Char
  width : ℕ
  value : ℕ
  deriving DecidableEq

def fieldsText (fields : List Field) : List Char :=
  fields.flatMap fun field ↦ field.separator :: zeroPadded field.width field.value

theorem length_fieldsText {fields fields' : List Field}
    (h : fields.map (·.width) = fields'.map (·.width)) :
    (fieldsText fields).length = (fieldsText fields').length := by
  have hlength (l : List Field) : (fieldsText l).length = ((l.map (·.width)).map (· + 1)).sum := by
    simp [fieldsText, List.length_flatMap, Function.comp_def]
  rw [hlength, hlength, h]

/-- Fields that fit their widths can be read back. -/
theorem fieldsText_inj {fields fields' : List Field}
    (hwidths : fields.map (·.width) = fields'.map (·.width))
    (hfit : ∀ field ∈ fields, field.value < 10 ^ field.width)
    (hfit' : ∀ field ∈ fields', field.value < 10 ^ field.width)
    (h : fieldsText fields = fieldsText fields') :
    fields.map (·.value) = fields'.map (·.value) := by
  induction fields generalizing fields' with
  | nil =>
    rw [List.map_nil, eq_comm, List.map_eq_nil_iff] at hwidths
    rw [hwidths]
  | cons field fields ih =>
    cases fields' with
    | nil => exact absurd hwidths (by simp)
    | cons field' fields' =>
      have hwidth : field.width = field'.width := (List.cons.inj hwidths).1
      obtain ⟨hfirst, hrest⟩ := List.append_inj h (by simp [hwidth])
      have hpadded := (List.cons.inj hfirst).2
      have hfit₁ := hfit field List.mem_cons_self
      rw [hwidth] at hpadded hfit₁
      have hvalue := zeroPadded_inj hfit₁ (hfit' field' List.mem_cons_self) hpadded
      rw [List.map_cons, List.map_cons, hvalue, ih (List.cons.inj hwidths).2
        (fun f hf ↦ hfit f (List.mem_cons_of_mem _ hf))
        (fun f hf ↦ hfit' f (List.mem_cons_of_mem _ hf)) hrest]

end Values
