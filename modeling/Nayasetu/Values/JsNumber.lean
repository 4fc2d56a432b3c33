import Mathlib.Algebra.Field.Rat
import Mathlib.Algebra.Order.Field.Rat
import Mathlib.Tactic.FieldSimp
import Mathlib.Tactic.Positivity
import Nayasetu.Values.CodeUnits
import Nayasetu.Values.Decimal
import Nayasetu.Values.Numeric

/-!
# Numbers and their texts

The numbers of JavaScript with the conversions from and to strings. A finite number is the rational
it stands for; no code here can tell the two zeros apart.

Rounding is to the nearest double, ties to even. Integers of at most `2 ^ 53` in absolute value are
exact (`round_intCast`), and larger ones do not come out smaller than the power of two below them
(`round_natCast_ge`). An integer prints as the shortest decimal that rounds to it, and is read back
from it (`toNumber_numberText`).

## Why integers are enough

The programs read numbers out of texts they have not written, and a text may denote any rational,
an infinity or no number at all. What they write themselves are integers. So reading is modelled
for every text, rounding for every rational, and printing for integers only.

The round trip goes through the significant digits. A large integer prints as the shortest string
of digits that still rounds to it, with zeros or an exponent behind; reading collects the digits
again, and since the decimal they denote rounds to the number that was printed, it does not matter
that it need not be that number.
-/

namespace Values

inductive JsNumber where
  | nan
  | infinite (negative : Bool)
  | finite (value : ℚ)
  deriving DecidableEq, Repr

namespace JsNumber

/-- The double nearest to `num / den`, unless that is too large. Its exponent leaves 53 bits, fewer
for subnormal numbers; the largest double is `(2 ^ 53 - 1) * 2 ^ 971`. -/
def roundMagnitude (num den : ℕ) : Option ℚ :=
  let e := max (Numeric.log2Div num den - 52) (-1074)
  let m := if 0 ≤ e then Numeric.divRound num (den * 2 ^ e.toNat)
    else Numeric.divRound (num * 2 ^ (-e).toNat) den
  if 971 < e ∨ (e = 971 ∧ m = 2 ^ 53) then none else some (m * 2 ^ e)

/-- The nearest double. -/
def round (x : ℚ) : JsNumber :=
  match roundMagnitude x.num.natAbs x.den with
  | none => .infinite (decide (x < 0))
  | some v => .finite (if x < 0 then -v else v)

/-- `a < b`. -/
def lt : JsNumber → JsNumber → Bool
  | .nan, _ | _, .nan => false
  | .infinite a, .infinite b => a && !b
  | .infinite negative, .finite _ => negative
  | .finite _, .infinite negative => !negative
  | .finite a, .finite b => decide (a < b)

/-- `a <= b`. -/
def le : JsNumber → JsNumber → Bool
  | .nan, _ | _, .nan => false
  | .infinite a, .infinite b => a || !b
  | .infinite negative, .finite _ => negative
  | .finite _, .infinite negative => !negative
  | .finite a, .finite b => decide (a ≤ b)

/-- `a - b`. -/
def sub : JsNumber → JsNumber → JsNumber
  | .nan, _ | _, .nan => .nan
  | .infinite a, .infinite b => if a = b then .nan else .infinite a
  | .infinite negative, .finite _ => .infinite negative
  | .finite _, .infinite negative => .infinite !negative
  | .finite a, .finite b => round (a - b)

/-- `Number.isFinite(a)`. -/
def isFinite : JsNumber → Bool
  | .finite _ => true
  | _ => false

/-! ## Texts

`Number(text)`: white space is trimmed, nothing at all is zero, a prefix names the base sixteen,
eight or two, and everything else has to be a decimal literal or `Infinity`.
-/

def digitUnitValue (u : UInt16) : ℕ :=
  if isDigitUnit u then u.toNat - 48
  else if 65 ≤ u ∧ u ≤ 70 then u.toNat - 55
  else if 97 ≤ u ∧ u ≤ 102 then u.toNat - 87
  else 16

def digitsNumber (base : ℕ) (digits : JsString) : ℕ :=
  digits.foldl (fun n u ↦ base * n + digitUnitValue u) 0

/-- What stands behind `0x`, `0o` and `0b`. -/
def radixNumber (base : ℕ) (digits : JsString) : JsNumber :=
  if digits ≠ [] ∧ digits.all (fun u ↦ decide (digitUnitValue u < base)) then round
    (digitsNumber base digits)
  else .nan

/-- A sign, if there is one: whether it is `-`, and the rest. -/
def takeSign : JsString → Bool × JsString
  | [] => (false, [])
  | u :: text => if u = 45 then (true, text) else if u =
      43 then (false, text) else (false, u :: text)

/-- The exponent behind the digits of a decimal. -/
def exponentPart : JsString → Option ℤ
  | [] => some 0
  | u :: text =>
    let (negative, digits) := takeSign text
    if (u = 101 ∨ u = 69) ∧ digits ≠ [] ∧ digits.all isDigitUnit then
      some (if negative then -(digitsNumber 10 digits : ℤ) else digitsNumber 10 digits)
    else none

/-- `StrUnsignedDecimalLiteral`, other than `Infinity`: digits, a point and an exponent. -/
def decimalLiteral (text : JsString) : Option ℚ :=
  let whole := text.takeWhile isDigitUnit
  let rest := text.dropWhile isDigitUnit
  let pointed := rest.head? = some 46
  let fraction := if pointed then rest.tail.takeWhile isDigitUnit else []
  let exponent := if pointed then rest.tail.dropWhile isDigitUnit else rest
  if whole ++ fraction = [] then none
  else (exponentPart exponent).map fun e : ℤ ↦
    (digitsNumber 10 (whole ++ fraction) : ℚ) * 10 ^ (e - (fraction.length : ℤ))

/-- `Number(text)`. -/
def toNumber (text : JsString) : JsNumber :=
  let literal := trim text
  if literal = [] then .finite 0
  else if literal.take 2 ∈ [units "0x", units "0X"] then radixNumber 16 (literal.drop 2)
  else if literal.take 2 ∈ [units "0o", units "0O"] then radixNumber 8 (literal.drop 2)
  else if literal.take 2 ∈ [units "0b", units "0B"] then radixNumber 2 (literal.drop 2)
  else
    let (negative, unsigned) := takeSign literal
    if unsigned = units "Infinity" then .infinite negative
    else match decimalLiteral unsigned with
      | none => .nan
      | some q => round (if negative then -q else q)

/-- The decimal digits of a natural number. -/
def digitUnits (n : ℕ) : JsString := (Nat.toDigits 10 n).map fun c ↦ UInt16.ofNat c.toNat

/-- The nearer multiple of `unit` that rounds to `n`; of two that are as near, the even one. -/
def nearestMultiple (n unit : ℕ) : Option ℕ :=
  let low := n / unit * unit
  let high := low + unit
  let lowFits := roundMagnitude low 1 = some (n : ℚ)
  let highFits := roundMagnitude high 1 = some (n : ℚ)
  if lowFits ∧
    (¬ highFits ∨ n - low < high - n ∨ (n - low = high - n ∧ n / unit % 2 = 0)) then some low
  else if highFits then some high
  else none

/-- The decimal with the fewest digits that rounds to `n`. -/
def shortestDecimal (n : ℕ) : ℕ :=
  let length := (Nat.toDigits 10 n).length
  ((List.range length).findSome? fun i ↦ nearestMultiple n (10 ^ (length - (i + 1)))).getD n

/-- The text of a natural number, with an exponent if it has more than 21 digits. -/
def naturalText (n : ℕ) : JsString :=
  let digits := digitUnits (shortestDecimal n)
  if digits.length ≤ 21 then digits
  else
    let significant := (digits.reverse.dropWhile (· = 48)).reverse
    significant.take 1 ++ (if significant.length = 1 then [] else 46 :: significant.drop 1) ++
      101 :: 43 :: digitUnits (digits.length - 1)

def numberText (n : ℤ) : JsString :=
  if n < 0 then 45 :: naturalText n.natAbs else naturalText n.natAbs

/-! ## Rounding integers

What comparisons of rounded integers say about the integers. A bound below `2 ^ 53` can be checked
before the rounding or behind it.
-/

/-- Integers up to `2 ^ 53` are doubles. -/
theorem roundMagnitude_of_le {n : ℕ} (h : n ≤ 2 ^ 53) : roundMagnitude n 1 = some (n : ℚ) := by
  rcases Nat.eq_zero_or_pos n with rfl | hpos
  · norm_num [roundMagnitude, Numeric.log2Div, Numeric.divRound]
  have hlog : Numeric.log2Div n 1 = Nat.log2 n := by
    rw [Numeric.log2Div, if_pos (Nat.succ_le_of_lt hpos), Nat.div_one]
  rcases h.lt_or_eq with hlt | rfl
  · have hlog53 : Nat.log2 n < 53 := (Nat.log2_lt hpos.ne').mpr hlt
    obtain ⟨k, hk⟩ : ∃ k : ℕ, Nat.log2 n + k = 52 := ⟨52 - Nat.log2 n, by omega⟩
    have he : max (Numeric.log2Div n 1 - 52) (-1074) = -(k : ℤ) := by
      rw [hlog]
      omega
    simp only [roundMagnitude, he, neg_neg, Int.toNat_natCast, Numeric.divRound_one]
    rw [if_neg (by omega)]
    rcases Nat.eq_zero_or_pos k with rfl | hkpos
    · simp [Numeric.divRound_one]
    · rw [if_neg (by omega)]
      push_cast
      rw [mul_assoc, zpow_neg, zpow_natCast, mul_inv_cancel₀ (by positivity), mul_one]
  · have he : max (Numeric.log2Div (2 ^ 53) 1 - 52) (-1074) = 1 := by
      rw [hlog, Nat.log2_two_pow]
      rfl
    simp only [roundMagnitude, he]
    norm_num [Numeric.divRound]

/-- Larger integers do not fall below the power of two under them. -/
theorem pow_log2_le_of_roundMagnitude {n : ℕ} {v : ℚ} (h : 2 ^ 53 ≤ n)
    (hv : roundMagnitude n 1 = some v) : (2 : ℚ) ^ Nat.log2 n ≤ v := by
  have hpos : 1 ≤ n := (Nat.one_le_two_pow).trans h
  have hlog : 53 ≤ Nat.log2 n := (Nat.le_log2 (by omega)).mpr h
  obtain ⟨k, hk⟩ : ∃ k : ℕ, Nat.log2 n = k + 52 := ⟨Nat.log2 n - 52, by omega⟩
  have he : max (Numeric.log2Div n 1 - 52) (-1074) = (k : ℤ) := by
    rw [Numeric.log2Div, if_pos hpos, Nat.div_one]
    omega
  simp only [roundMagnitude, he, Int.natCast_nonneg, if_true, Int.toNat_natCast, one_mul] at hv
  split at hv
  · cases hv
  · cases hv
    have hle : 2 ^ (k + 52) ≤ n := hk ▸ Nat.log2_self_le (by omega)
    have hquot : 2 ^ 52 ≤ n / 2 ^ k := by
      rw [Nat.le_div_iff_mul_le (by positivity), ← pow_add, add_comm]
      exact hle
    have hround : n / 2 ^ k ≤ Numeric.divRound n (2 ^ k) := by
      rw [Numeric.divRound]
      split
      · exact le_rfl
      · split <;> omega
    have hm : ((2 : ℕ) ^ 52 : ℚ) ≤ (Numeric.divRound n (2 ^ k) : ℚ) := by
      exact_mod_cast hquot.trans hround
    rw [hk, pow_add, mul_comm, zpow_natCast]
    gcongr
    exact_mod_cast hm

theorem round_natCast (n : ℕ) : round (n : ℚ) =
    match roundMagnitude n 1 with
    | none => .infinite false
    | some v => .finite v := by
  have hneg : ¬ (n : ℚ) < 0 := not_lt.mpr (Nat.cast_nonneg n)
  rw [round, Rat.num_natCast, Rat.den_natCast, Int.natAbs_natCast]
  simp only [hneg, if_false, decide_false]

theorem round_intCast (n : ℤ) : round (n : ℚ) =
    match roundMagnitude n.natAbs 1 with
    | none => .infinite (decide (n < 0))
    | some v => .finite (if n < 0 then -v else v) := by
  rw [round, Rat.num_intCast, Rat.den_intCast]
  simp only [Int.cast_lt_zero]

/-- An integer is a number if it is its own nearest double. -/
theorem round_intCast_eq_iff {n : ℤ} :
    round (n : ℚ) = .finite n ↔ roundMagnitude n.natAbs 1 = some (n.natAbs : ℚ) := by
  have habs : (n.natAbs : ℚ) = if n < 0 then -(n : ℚ) else n := by
    have h : (n.natAbs : ℤ) = if n < 0 then -n else n := by split <;> omega
    rw [← Int.cast_natCast, h]
    split <;> push_cast <;> rfl
  rw [round_intCast, habs]
  cases roundMagnitude n.natAbs 1 with
  | none => simp
  | some v =>
    simp only [finite.injEq, Option.some.injEq]
    split <;> constructor <;> intro h <;> linarith

/-- An integer is exact, or it stays beyond `2 ^ 53` on its side. -/
theorem round_intCast_cases (n : ℤ) :
    (n.natAbs ≤ 2 ^ 53 ∧ round (n : ℚ) = .finite n) ∨
    (2 ^ 53 < n ∧ (round (n : ℚ) = .infinite false ∨ ∃ v, round (n : ℚ) = .finite v ∧ 2 ^ 53 ≤ v)) ∨
    (n < -2 ^ 53 ∧ (round (n : ℚ) = .infinite true ∨
      ∃ v, round (n : ℚ) = .finite v ∧ v ≤ -2 ^ 53)) := by
  rcases le_or_gt n.natAbs (2 ^ 53) with hle | hgt
  · exact .inl ⟨hle, round_intCast_eq_iff.mpr (roundMagnitude_of_le hle)⟩
  have hlarge : ∀ {v : ℚ}, roundMagnitude n.natAbs 1 = some v → 2 ^ 53 ≤ v := by
    intro v hv
    refine le_trans ?_ (pow_log2_le_of_roundMagnitude hgt.le hv)
    exact pow_le_pow_right₀ (by norm_num) ((Nat.le_log2 (by omega)).mpr hgt.le)
  refine .inr ?_
  rw [round_intCast]
  rcases lt_or_ge n 0 with hneg | hnonneg
  · refine .inr ⟨by omega, ?_⟩
    cases hv : roundMagnitude n.natAbs 1 with
    | none => exact .inl (by simp [hneg])
    | some v => exact .inr ⟨-v, by simp [hneg], neg_le_neg (hlarge hv)⟩
  · refine .inl ⟨by omega, ?_⟩
    cases hv : roundMagnitude n.natAbs 1 with
    | none => exact .inl (by simp [hnonneg.not_gt])
    | some v => exact .inr ⟨v, by simp [hnonneg.not_gt], hlarge hv⟩

/-- Below `2 ^ 53` integers compare with a rounded integer as with the integer itself. -/
theorem lt_round_intCast {m n : ℤ} (hm : m.natAbs < 2 ^ 53) :
    lt (.finite m) (round (n : ℚ)) = decide (m < n) := by
  have hlow : (-2 ^ 53 : ℚ) < m := by
    have : -2 ^ 53 < m := by omega
    exact_mod_cast this
  have hhigh : (m : ℚ) < 2 ^ 53 := by
    have : m < 2 ^ 53 := by omega
    exact_mod_cast this
  rcases round_intCast_cases n with ⟨-, h⟩ | ⟨hn, h | ⟨v, h, hv⟩⟩ | ⟨hn, h | ⟨v, h, hv⟩⟩
  · rw [h]
    simp [lt]
  · rw [h, decide_eq_true (by omega)]
    rfl
  · rw [h, decide_eq_true (by omega)]
    exact decide_eq_true (hhigh.trans_le hv)
  · rw [h, decide_eq_false (by omega)]
    rfl
  · rw [h, decide_eq_false (by omega)]
    exact decide_eq_false (not_lt.mpr (hv.trans hlow.le))

/-- Bounds below `2 ^ 53` hold of a rounded integer as of the integer itself. -/
theorem round_intCast_le {n : ℤ} {bound : ℚ} (hbound : bound < 2 ^ 53) (hn : -2 ^ 53 ≤ n) :
    le (round (n : ℚ)) (.finite bound) = decide ((n : ℚ) ≤ bound) := by
  rcases round_intCast_cases n with ⟨-, h⟩ | ⟨hlarge, h⟩ | ⟨hsmall, -⟩
  · rw [h]
    rfl
  · have hcast : (2 ^ 53 : ℚ) < n := by exact_mod_cast hlarge
    rw [decide_eq_false (not_le.mpr (hbound.trans hcast))]
    rcases h with h | ⟨v, h, hv⟩
    · rw [h]
      rfl
    · rw [h]
      exact decide_eq_false (not_le.mpr (hbound.trans_le hv))
  · omega

/-! ## Reading what was printed -/

section Printed

variable {n : ℕ} {digits whole fraction exponent : JsString} {u : UInt16}

theorem isDigitUnit_of_mem_digitUnits (h : u ∈ digitUnits n) : isDigitUnit u = true := by
  obtain ⟨c, hc, rfl⟩ := List.mem_map.mp h
  have hall : ∀ c ∈ decimalDigits, isDigitUnit (UInt16.ofNat c.toNat) = true :=
    forall_of_all (by decide)
  exact hall c (mem_decimalDigits_of_mem_toDigits hc)

theorem digitUnits_ne_nil : digitUnits n ≠ [] := by
  rw [digitUnits, Ne, List.map_eq_nil_iff]
  exact Nat.toDigits_ne_nil

theorem digitsNumber_digitUnits (n : ℕ) : digitsNumber 10 (digitUnits n) = n := by
  have hall : ∀ c ∈ decimalDigits, digitUnitValue (UInt16.ofNat c.toNat) = c.toNat - '0'.toNat :=
    forall_of_all (by decide)
  have hfold : ∀ (cs : List Char) (m : ℕ), (∀ c ∈ cs, c ∈ decimalDigits) →
      (cs.map fun c ↦ UInt16.ofNat c.toNat).foldl (fun n u ↦ 10 * n + digitUnitValue u) m =
        Nat.ofDigitChars 10 cs m := by
    intro cs
    induction cs with
    | nil => exact fun _ _ ↦ rfl
    | cons c cs ih =>
      intro m hcs
      rw [List.forall_mem_cons] at hcs
      rw [List.map_cons, List.foldl_cons, hall c hcs.1, ih _ hcs.2]
      rfl
  rw [digitsNumber, digitUnits, hfold _ 0 fun c ↦ mem_decimalDigits_of_mem_toDigits]
  exact Nat.ofDigitChars_ten_toDigits

theorem digitsNumber_append_zeros (digits : JsString) (k : ℕ) :
    digitsNumber 10 (digits ++ List.replicate k 48) = digitsNumber 10 digits * 10 ^ k := by
  induction k with
  | zero => rw [List.replicate_zero, List.append_nil, pow_zero, mul_one]
  | succ k ih =>
    rw [List.replicate_succ', ← List.append_assoc, digitsNumber, List.foldl_append, ← digitsNumber,
      ih, pow_succ, ← mul_assoc]
    change 10 * _ + 0 = _
    ring

theorem takeWhile_digits_append {rest : JsString} (h : ∀ u ∈ digits, isDigitUnit u = true)
    (hrest : ∀ u ∈ rest.head?, isDigitUnit u = false) :
    (digits ++ rest).takeWhile isDigitUnit = digits ∧
      (digits ++ rest).dropWhile isDigitUnit = rest := by
  have hnone : rest.takeWhile isDigitUnit = [] ∧ rest.dropWhile isDigitUnit = rest := by
    cases rest with
    | nil => exact ⟨rfl, rfl⟩
    | cons u rest =>
      have hu := hrest u rfl
      simp [hu]
  rw [List.takeWhile_append_of_pos h, List.dropWhile_append_of_pos h, hnone.1, hnone.2,
    List.append_nil]
  exact ⟨rfl, rfl⟩

theorem decimalLiteral_digits (hne : digits ≠ []) (h : ∀ u ∈ digits, isDigitUnit u = true) :
    decimalLiteral digits = some (digitsNumber 10 digits : ℚ) := by
  have hnil : ∀ u ∈ ([] : JsString).head?, isDigitUnit u = false := by simp
  obtain ⟨htake, hdrop⟩ := takeWhile_digits_append h hnil
  rw [List.append_nil] at htake hdrop
  simp only [decimalLiteral, htake, hdrop]
  simp [hne, exponentPart]

theorem decimalLiteral_exponent (hwhole : ∀ u ∈ whole, isDigitUnit u = true)
    (hfraction : ∀ u ∈ fraction, isDigitUnit u = true)
    (hexponent : ∀ u ∈ exponent, isDigitUnit u = true) (hne : whole ≠ []) (hne' : exponent ≠ []) :
    decimalLiteral (whole ++ (if fraction = [] then [] else 46 :: fraction) ++
        101 :: 43 :: exponent) =
      some ((digitsNumber 10 (whole ++ fraction) : ℚ) *
        10 ^ ((digitsNumber 10 exponent : ℤ) - (fraction.length : ℤ))) := by
  have hpart : exponentPart (101 :: 43 :: exponent) = some (digitsNumber 10 exponent : ℤ) := by
    have hsign : takeSign (43 :: exponent) = (false, exponent) := rfl
    simp only [exponentPart, hsign]
    rw [if_pos ⟨.inl trivial, hne', List.all_eq_true.mpr hexponent⟩]
    rfl
  rw [List.append_assoc]
  have hlast : ∀ u ∈ (101 :: 43 :: exponent : JsString).head?, isDigitUnit u = false := by
    simp only [List.head?_cons, Option.mem_some_iff, forall_eq']
    decide
  split
  next hempty =>
    obtain ⟨htake, hdrop⟩ := takeWhile_digits_append hwhole hlast
    rw [List.nil_append]
    simp only [decimalLiteral, htake, hdrop, hempty]
    simp [hne, hpart]
  next =>
    have hpoint : ∀ u ∈ (46 :: fraction ++ 101 :: 43 :: exponent : JsString).head?,
        isDigitUnit u = false := by
      simp only [List.cons_append, List.head?_cons, Option.mem_some_iff, forall_eq']
      decide
    obtain ⟨htake, hdrop⟩ := takeWhile_digits_append hwhole hpoint
    obtain ⟨htake', hdrop'⟩ := takeWhile_digits_append hfraction hlast
    simp only [decimalLiteral, htake, hdrop]
    simp only [List.cons_append, List.head?_cons, if_true, List.tail_cons, htake', hdrop', hpart]
    simp [hne]

theorem roundMagnitude_of_nearestMultiple {unit v : ℕ} (h : nearestMultiple n unit = some v) :
    roundMagnitude v 1 = some (n : ℚ) := by
  simp only [nearestMultiple] at h
  split at h
  next hlow =>
    rw [← Option.some.inj h]
    exact hlow.1
  next =>
    split at h
    next hhigh =>
      rw [← Option.some.inj h]
      exact hhigh
    next => cases h

variable (n) in
theorem shortestDecimal_cases :
    shortestDecimal n = n ∨ roundMagnitude (shortestDecimal n) 1 = some (n : ℚ) := by
  simp only [shortestDecimal]
  cases hfind : (List.range (Nat.toDigits 10 n).length).findSome? fun i ↦
      nearestMultiple n (10 ^ ((Nat.toDigits 10 n).length - (i + 1))) with
  | none => exact .inl rfl
  | some v =>
    obtain ⟨_, i, _, -, hi, -⟩ := List.findSome?_eq_some_iff.mp hfind
    exact .inr (roundMagnitude_of_nearestMultiple hi)

theorem roundMagnitude_shortestDecimal (h : roundMagnitude n 1 = some (n : ℚ)) :
    roundMagnitude (shortestDecimal n) 1 = some (n : ℚ) := by
  rcases shortestDecimal_cases n with hn | hn
  · rw [hn, h]
  · exact hn

theorem exists_significant (digits : JsString) :
    ∃ k, digits = (digits.reverse.dropWhile (· = 48)).reverse ++ List.replicate k 48 := by
  have hzeros : digits.reverse.takeWhile (· = 48) =
      List.replicate (digits.reverse.takeWhile (· = 48)).length 48 := by
    refine List.eq_replicate_of_mem fun u hu ↦ ?_
    simpa using List.mem_takeWhile_imp hu
  refine ⟨(digits.reverse.takeWhile (· = 48)).length, ?_⟩
  rw [← List.reverse_inj, List.reverse_append, List.reverse_reverse,
    List.reverse_replicate, ← hzeros, List.takeWhile_append_dropWhile]

/-- A positive number has a significant digit. -/
theorem significant_ne_nil (h : 0 < n) :
    (digitUnits n).reverse.dropWhile (· = 48) ≠ [] := by
  rw [Ne, List.dropWhile_eq_nil_iff]
  intro hall
  obtain ⟨c, cs, hcs, hc, -⟩ := Numeric.toDigits_eq_cons h
  have hmem : c ∈ decimalDigits := mem_decimalDigits_of_mem_toDigits (hcs ▸ List.mem_cons_self)
  have hfirst : UInt16.ofNat c.toNat ∈ digitUnits n :=
    List.mem_map_of_mem (hcs ▸ List.mem_cons_self)
  have hzero := of_decide_eq_true (hall _ (List.mem_reverse.mpr hfirst))
  have hdigits : ∀ c ∈ decimalDigits, '1' ≤ c → UInt16.ofNat c.toNat ≠ 48 :=
    forall_of_all (by decide)
  exact hdigits c hmem hc hzero

/-- A number is printed as its digits, or as the significant ones with an exponent. -/
theorem naturalText_cases (n : ℕ) :
    naturalText n = digitUnits (shortestDecimal n) ∨
    ∃ u fraction k, digitUnits (shortestDecimal n) = u :: fraction ++ List.replicate k 48 ∧
      21 < (digitUnits (shortestDecimal n)).length ∧
      naturalText n = [u] ++ (if fraction = [] then [] else 46 :: fraction) ++
        101 :: 43 :: digitUnits ((digitUnits (shortestDecimal n)).length - 1) := by
  simp only [naturalText]
  split
  next => exact .inl rfl
  next hlong =>
    have hpos : 0 < shortestDecimal n := by
      rw [pos_iff_ne_zero]
      intro hzero
      rw [hzero] at hlong
      exact hlong (by decide)
    obtain ⟨k, hk⟩ := exists_significant (digitUnits (shortestDecimal n))
    obtain ⟨u, fraction, hcons⟩ :=
      List.exists_cons_of_ne_nil (List.reverse_ne_nil_iff.mpr (significant_ne_nil hpos))
    have hsingle : (u :: fraction).length = 1 ↔ fraction = [] := by simp
    refine .inr ⟨u, fraction, k, hcons ▸ hk, not_le.mp hlong, ?_⟩
    simp only [hcons, List.take_succ_cons, List.take_zero, List.drop_succ_cons,
      List.drop_zero, hsingle]

/-- What is printed denotes the shortest decimal. -/
theorem decimalLiteral_naturalText (n : ℕ) :
    decimalLiteral (naturalText n) = some (shortestDecimal n : ℚ) := by
  have hall : ∀ u ∈ digitUnits (shortestDecimal n), isDigitUnit u = true := fun _ ↦
    isDigitUnit_of_mem_digitUnits
  have hvalue := digitsNumber_digitUnits (shortestDecimal n)
  rcases naturalText_cases n with htext | ⟨u, fraction, k, hk, -, htext⟩
  · rw [htext, decimalLiteral_digits digitUnits_ne_nil hall, hvalue]
  · rw [hk] at hall
    obtain ⟨hu, hfraction⟩ := List.forall_mem_cons.mp (List.forall_mem_append.mp hall).1
    rw [htext, decimalLiteral_exponent (by simpa using hu) hfraction
      (fun _ ↦ isDigitUnit_of_mem_digitUnits) (by simp) digitUnits_ne_nil, digitsNumber_digitUnits]
    -- the exponent counts the zeros that were left out
    have hlength : (((digitUnits (shortestDecimal n)).length - 1 : ℕ) : ℤ) -
        fraction.length = k := by
      rw [hk, List.length_append, List.length_cons, List.length_replicate]
      omega
    rw [hlength, zpow_natCast, ← hvalue, hk, digitsNumber_append_zeros]
    push_cast
    rfl

/-- The code units a natural number is printed with. -/
theorem mem_naturalText (h : u ∈ naturalText n) :
    isDigitUnit u = true ∨ u = 46 ∨ u = 101 ∨ u = 43 := by
  rcases naturalText_cases n with htext | ⟨v, fraction, k, hk, -, htext⟩
  · exact .inl (isDigitUnit_of_mem_digitUnits (htext ▸ h))
  · have hall : ∀ w ∈ v :: fraction, isDigitUnit w = true := fun w hw ↦
      isDigitUnit_of_mem_digitUnits (hk ▸ List.mem_append_left _ hw)
    rw [htext] at h
    simp only [List.mem_append, List.mem_cons, List.not_mem_nil, or_false] at h
    rcases h with (rfl | h) | rfl | rfl | h
    · exact .inl (hall u List.mem_cons_self)
    · split at h
      next => exact absurd h List.not_mem_nil
      next =>
        rcases List.mem_cons.mp h with rfl | h
        · exact .inr (.inl rfl)
        · exact .inl (hall u (List.mem_cons_of_mem _ h))
    · exact .inr (.inr (.inl rfl))
    · exact .inr (.inr (.inr rfl))
    · exact .inl (isDigitUnit_of_mem_digitUnits h)

theorem le_shortestDecimal_of_point (h : 46 ∈ naturalText n) : 10 ^ 21 ≤ shortestDecimal n := by
  rcases naturalText_cases n with htext | ⟨-, -, -, -, hlong, -⟩
  · exact absurd (isDigitUnit_of_mem_digitUnits (htext ▸ h)) (by decide)
  · by_contra hlt
    rw [digitUnits, List.length_map] at hlong
    exact absurd ((Nat.length_toDigits_le_iff (by decide) (by decide)).mpr (not_le.mp hlt))
      (not_le.mpr hlong)

theorem naturalText_eq_cons (n : ℕ) : ∃ u text, naturalText n = u :: text ∧
    isDigitUnit u = true := by
  rcases naturalText_cases n with htext | ⟨u, fraction, k, hk, -, htext⟩
  · obtain ⟨u, text, hcons⟩ :=
      List.exists_cons_of_ne_nil (digitUnits_ne_nil (n := shortestDecimal n))
    exact ⟨u, text, htext.trans hcons, isDigitUnit_of_mem_digitUnits (hcons ▸ List.mem_cons_self)⟩
  · have hmem : u ∈ digitUnits (shortestDecimal n) := by
      rw [hk]
      exact List.mem_cons_self
    exact ⟨u, _, htext, isDigitUnit_of_mem_digitUnits hmem⟩

/-- The code units a number is printed with. -/
theorem mem_numberText {n : ℤ} (h : u ∈ numberText n) :
    isDigitUnit u = true ∨ u ∈ ([46, 101, 43, 45] : JsString) := by
  have hnatural : u ∈ naturalText n.natAbs → isDigitUnit u = true ∨
      u ∈ ([46, 101, 43, 45] : JsString) := by
    intro h
    rcases mem_naturalText h with h | rfl | rfl | rfl
    · exact .inl h
    · exact .inr (by decide)
    · exact .inr (by decide)
    · exact .inr (by decide)
  rw [numberText] at h
  split at h
  · rcases List.mem_cons.mp h with rfl | h
    · exact .inr (by decide)
    · exact hnatural h
  · exact hnatural h

theorem point_mem_numberText_iff {n : ℤ} : 46 ∈ numberText n ↔ 46 ∈ naturalText n.natAbs := by
  rw [numberText]
  split
  · rw [List.mem_cons, or_iff_right (by decide)]
  · exact Iff.rfl

theorem takeSign_numberText (n : ℤ) :
    takeSign (numberText n) = (decide (n < 0), naturalText n.natAbs) := by
  rw [numberText]
  split
  next h =>
    rw [decide_eq_true h]
    rfl
  next h =>
    obtain ⟨u, text, htext, hu⟩ := naturalText_eq_cons n.natAbs
    have hminus : u ≠ 45 := forall_of_isDigitUnit (P := fun u ↦ u ≠ 45) (by decide) hu
    have hplus : u ≠ 43 := forall_of_isDigitUnit (P := fun u ↦ u ≠ 43) (by decide) hu
    rw [htext, takeSign, if_neg hminus, if_neg hplus, decide_eq_false h]

theorem toNumber_numberText {n : ℤ} (h : round (n : ℚ) = .finite n) :
    toNumber (numberText n) = .finite n := by
  have htrim : trim (numberText n) = numberText n := by
    refine trim_eq_self fun u hu ↦ ?_
    rcases mem_numberText hu with hu | hu
    · exact forall_of_isDigitUnit (P := fun u ↦ isSpaceUnit u = false) (by decide) hu
    · have hall : ([46, 101, 43, 45] : JsString).all (fun u ↦ !isSpaceUnit u) = true := by decide
      exact (Bool.not_eq_true' _).mp (List.all_eq_true.mp hall u hu)
  have hne : numberText n ≠ [] := by
    intro hnil
    have hsign := takeSign_numberText n
    obtain ⟨u, text, htext, -⟩ := naturalText_eq_cons n.natAbs
    rw [hnil, htext] at hsign
    cases (Prod.mk.inj hsign).2
  -- no letter but `e` is printed, so it is no literal of another base
  have hradix : ∀ u ∈ (units "xXoObB"), u ∉ numberText n := by
    intro u hu hmem
    have hall : (units "xXoObB").all (fun u ↦
        decide (¬ (isDigitUnit u = true ∨ u ∈ ([46, 101, 43, 45] : JsString)))) = true := by
      decide
    exact of_decide_eq_true (List.all_eq_true.mp hall u hu) (mem_numberText hmem)
  have hbase : ∀ u ∈ (units "xXoObB"), ∀ v, (numberText n).take 2 ≠ [v, u] := by
    intro u hu v heq
    have hmem : u ∈ (numberText n).take 2 := by
      rw [heq]
      exact List.mem_cons_of_mem _ List.mem_cons_self
    exact hradix u hu (List.mem_of_mem_take hmem)
  have hinfinity : naturalText n.natAbs ≠ units "Infinity" := by
    obtain ⟨u, text, htext, hu⟩ := naturalText_eq_cons n.natAbs
    have hI : u ≠ 73 := forall_of_isDigitUnit (P := fun u ↦ u ≠ 73) (by decide) hu
    rw [htext]
    exact fun heq ↦ hI (List.cons.inj heq).1
  -- the digits may be fewer than those of `n`, but they are rounded back to it
  have hround :
    round (if n < 0 then -(shortestDecimal n.natAbs : ℚ) else shortestDecimal n.natAbs) =
      .finite n := by
    have hshortest := roundMagnitude_shortestDecimal (round_intCast_eq_iff.mp h)
    generalize shortestDecimal n.natAbs = m at hshortest
    have hcast : (if n < 0 then -(m : ℚ) else m) = ((if n < 0 then -(m : ℤ) else m : ℤ) : ℚ) := by
      split <;> push_cast <;> rfl
    rw [hcast, ← h, round_intCast, round_intCast, round_intCast_eq_iff.mp h]
    have hm : m = 0 → n.natAbs = 0 := by
      rintro rfl
      rw [roundMagnitude_of_le (by decide), Option.some.injEq] at hshortest
      exact_mod_cast hshortest.symm
    have habs : (if n < 0 then -(m : ℤ) else m).natAbs = m := by split <;> omega
    have hsign : (if n < 0 then -(m : ℤ) else m) < 0 ↔ n < 0 := by split <;> omega
    rw [habs, hshortest]
    simp only [hsign]
  have hprefix : ∀ u v : UInt16, u ∈ units "xXoObB" → v ∈ units "xXoObB" →
      (numberText n).take 2 ∉ [[48, u], [48, v]] := by
    intro u v hu hv
    simp only [List.mem_cons, List.not_mem_nil, or_false, not_or]
    exact ⟨hbase u hu 48, hbase v hv 48⟩
  have h16 : (numberText n).take 2 ∉ [units "0x", units "0X"] :=
    hprefix 120 88 (by decide) (by decide)
  have h8 : (numberText n).take 2 ∉ [units "0o", units "0O"] :=
    hprefix 111 79 (by decide) (by decide)
  have h2 : (numberText n).take 2 ∉ [units "0b", units "0B"] :=
    hprefix 98 66 (by decide) (by decide)
  simp only [toNumber, htrim, if_neg hne, if_neg h16, if_neg h8, if_neg h2, takeSign_numberText,
    if_neg hinfinity, decimalLiteral_naturalText, decide_eq_true_eq, hround]

end Printed

end JsNumber

end Values
