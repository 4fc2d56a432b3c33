import Nayasetu.Values.JsNumber

/-!
# Counters between the database and the program

The driver sends a `bigint` as a text, and `Number` reads the nearest double from it. Up to `2 ^ 53`
that is the integer itself. From there on integers that are close together are read as one number,
but never in the wrong order (`numberOfBigint_le`), and a `bigint` is missed by no more than 512
(`numberOfBigint_bounds`).

On the way back the driver sends the text of the number, which is the shortest decimal that rounds
to it. What is stored need not be the integer that was counted, nor the double it was read as; but
it is read as the same number again (`numberOfBigint_bigintOfNumber`).
-/

namespace Values

/-- The largest `bigint`. -/
def bigintMax : ℤ := 2 ^ 63 - 1

def nearestDouble (n : ℕ) : ℕ :=
  Numeric.divRound n (2 ^ (Nat.log2 n - 52)) * 2 ^ (Nat.log2 n - 52)

/-- `Number(text)`, of the text of a `bigint`. -/
def numberOfBigint (n : ℤ) : ℤ := if n < 0 then -nearestDouble n.natAbs else nearestDouble n.natAbs

/-- The `bigint` that the database reads from the text of a number. -/
def bigintOfNumber (n : ℤ) : ℤ :=
  if n < 0 then -JsNumber.shortestDecimal n.natAbs else JsNumber.shortestDecimal n.natAbs

/-! ## Rounding

To the nearest of the numbers with 53 binary digits, and to the even one of two that are equally
near. Everything about the result comes from two bounds on a rounded quotient, by the multiples of
the unit below and above.
-/

section Rounding

variable {n m d k : ℕ}

theorem divRound_le (hd : 0 < d) (h : n ≤ k * d) : Numeric.divRound n d ≤ k := by
  have hquot : n / d ≤ k := Nat.div_le_of_le_mul (by rwa [mul_comm])
  rcases hquot.lt_or_eq with hlt | heq
  · rw [Numeric.divRound]
    split
    · exact hquot
    · split <;> omega
  · -- nothing is left over
    have hmod : n % d = 0 := by
      have hdiv := Nat.div_add_mod n d
      rw [heq, mul_comm] at hdiv
      omega
    rw [Numeric.divRound, hmod, if_pos (by omega)]
    exact hquot

theorem le_divRound (h : k * d ≤ n) (hd : 0 < d) : k ≤ Numeric.divRound n d := by
  have hquot : k ≤ n / d := (Nat.le_div_iff_mul_le hd).mpr h
  rw [Numeric.divRound]
  split
  · exact hquot
  · split <;> omega

theorem divRound_mono (hd : 0 < d) (h : n ≤ m) : Numeric.divRound n d ≤ Numeric.divRound m d := by
  have hquot : n / d ≤ m / d := Nat.div_le_div_right h
  rcases hquot.lt_or_eq with hlt | heq
  · calc Numeric.divRound n d ≤ n / d + 1 := by
          rw [Numeric.divRound]
          split
          · exact Nat.le_succ _
          · split <;> omega
      _ ≤ m / d := hlt
      _ ≤ Numeric.divRound m d := le_divRound (Nat.div_mul_le_self m d) hd
  · have hmod : n % d ≤ m % d := by
      have hn := Nat.div_add_mod n d
      have hm := Nat.div_add_mod m d
      rw [heq] at hn
      omega
    rw [Numeric.divRound, Numeric.divRound, heq]
    split <;> split <;> (try split) <;> (try split) <;> omega

/-- Rounding misses a number by half of the unit. -/
theorem divRound_mul_bounds (hd : 0 < d) :
    2 * (Numeric.divRound n d * d) ≤ 2 * n + d ∧ 2 * n ≤ 2 * (Numeric.divRound n d * d) + d := by
  have hdiv := Nat.div_add_mod n d
  have hmod := Nat.mod_lt n hd
  have hquot : n / d * d + n % d = n := by rw [mul_comm, hdiv]
  have hnext : (n / d + 1) * d = n / d * d + d := by rw [add_mul, one_mul]
  rw [Numeric.divRound]
  split
  · constructor <;> omega
  · split
    · rw [hnext]
      constructor <;> omega
    · rcases Nat.mod_two_eq_zero_or_one (n / d) with hparity | hparity
      · rw [hparity, Nat.add_zero]
        constructor <;> omega
      · rw [hparity, hnext]
        constructor <;> omega

/-- Numbers up to `2 ^ 53` are doubles. -/
theorem nearestDouble_of_le (h : n ≤ 2 ^ 53) : nearestDouble n = n := by
  rcases h.lt_or_eq with hlt | rfl
  · have hlog : Nat.log2 n - 52 = 0 := by
      rcases Nat.eq_zero_or_pos n with rfl | hpos
      · rfl
      · have := (Nat.log2_lt hpos.ne').mpr hlt
        omega
    rw [nearestDouble, hlog, pow_zero, Numeric.divRound_one, mul_one]
  · rfl

theorem nearestDouble_of_dvd (h : 2 ^ (Nat.log2 n - 52) ∣ n) : nearestDouble n = n := by
  obtain ⟨q, hq⟩ := h
  have hround : Numeric.divRound n (2 ^ (Nat.log2 n - 52)) = q := by
    have hpos : 0 < 2 ^ (Nat.log2 n - 52) := by positivity
    refine le_antisymm (divRound_le hpos ?_) (le_divRound ?_ hpos)
    · rw [mul_comm, ← hq]
    · rw [mul_comm, ← hq]
  rw [nearestDouble, hround, mul_comm, ← hq]

theorem nearestDouble_le_pow (n : ℕ) : nearestDouble n ≤ 2 ^ (Nat.log2 n + 1) := by
  have hpow : 2 ^ (Nat.log2 n + 1) =
      2 ^ (Nat.log2 n + 1 - (Nat.log2 n - 52)) * 2 ^ (Nat.log2 n - 52) := by
    rw [← pow_add]
    congr 1
    omega
  have hlt : n < 2 ^ (Nat.log2 n + 1) := Nat.lt_log2_self
  rw [nearestDouble, hpow]
  refine Nat.mul_le_mul_right _ (divRound_le (by positivity) ?_)
  rw [← hpow]
  exact hlt.le

theorem pow_le_nearestDouble (h : n ≠ 0) : 2 ^ Nat.log2 n ≤ nearestDouble n := by
  have hpow : 2 ^ Nat.log2 n = 2 ^ (Nat.log2 n - (Nat.log2 n - 52)) * 2 ^ (Nat.log2 n - 52) := by
    rw [← pow_add]
    congr 1
    omega
  have hle : 2 ^ Nat.log2 n ≤ n := Nat.log2_self_le h
  rw [nearestDouble, hpow]
  refine Nat.mul_le_mul_right _ (le_divRound ?_ (by positivity))
  rw [← hpow]
  exact hle

/-- Rounding keeps the order. -/
theorem nearestDouble_mono (h : n ≤ m) : nearestDouble n ≤ nearestDouble m := by
  rcases Nat.eq_zero_or_pos n with rfl | hpos
  · exact Nat.zero_le _
  have hm : m ≠ 0 := (hpos.trans_le h).ne'
  have hlog : Nat.log2 n ≤ Nat.log2 m :=
    (Nat.le_log2 hm).mpr ((Nat.log2_self_le hpos.ne').trans h)
  rcases hlog.lt_or_eq with hlt | heq
  · -- a power of two lies between them
    calc nearestDouble n ≤ 2 ^ (Nat.log2 n + 1) := nearestDouble_le_pow n
      _ ≤ 2 ^ Nat.log2 m := Nat.pow_le_pow_right (by decide) hlt
      _ ≤ nearestDouble m := pow_le_nearestDouble hm
  · rw [nearestDouble, nearestDouble, heq]
    exact Nat.mul_le_mul_right _ (divRound_mono (by positivity) h)

/-- What a `bigint` is missed by. -/
theorem nearestDouble_bounds (h : n < 2 ^ 63) :
    nearestDouble n ≤ n + 512 ∧ n ≤ nearestDouble n + 512 := by
  have hunit : 2 ^ (Nat.log2 n - 52) ≤ 2 ^ 10 := by
    refine Nat.pow_le_pow_right (by decide) ?_
    rcases Nat.eq_zero_or_pos n with rfl | hpos
    · exact Nat.zero_le _
    · have := (Nat.log2_lt hpos.ne').mpr h
      omega
  have hbounds := divRound_mul_bounds (n := n) (d := 2 ^ (Nat.log2 n - 52)) (by positivity)
  rw [nearestDouble]
  constructor <;> omega

end Rounding

/-! ## Counters

Reading is monotone but not injective: two counters that differ may be read as equal, never as
ordered the other way round. That is all a comparison of counters in the program can rely on.
-/

section Counters

variable {n m : ℤ}

theorem numberOfBigint_natCast (n : ℕ) : numberOfBigint n = nearestDouble n := by
  rw [numberOfBigint, if_neg (by omega), Int.natAbs_natCast]

theorem numberOfBigint_neg (n : ℕ) : numberOfBigint (-n) = -numberOfBigint n := by
  rw [numberOfBigint_natCast, numberOfBigint, Int.natAbs_neg, Int.natAbs_natCast]
  split
  · rfl
  · -- there is no negative zero
    obtain rfl : n = 0 := by omega
    rfl

theorem bigintOfNumber_natCast (n : ℕ) : bigintOfNumber n = JsNumber.shortestDecimal n := by
  rw [bigintOfNumber, if_neg (by omega), Int.natAbs_natCast]

theorem bigintOfNumber_neg (n : ℕ) : bigintOfNumber (-n) = -bigintOfNumber n := by
  rw [bigintOfNumber_natCast, bigintOfNumber, Int.natAbs_neg, Int.natAbs_natCast]
  split
  · rfl
  · obtain rfl : n = 0 := by omega
    have hzero : JsNumber.shortestDecimal 0 = 0 := by decide +kernel
    rw [hzero, Nat.cast_zero, neg_zero]

/-- Counters are never read in the wrong order. -/
theorem numberOfBigint_le (hn : 0 ≤ n) (h : n ≤ m) : numberOfBigint n ≤ numberOfBigint m := by
  obtain ⟨k, rfl⟩ := Int.eq_ofNat_of_zero_le hn
  obtain ⟨l, rfl⟩ := Int.eq_ofNat_of_zero_le (hn.trans h)
  rw [numberOfBigint_natCast, numberOfBigint_natCast]
  exact_mod_cast nearestDouble_mono (by exact_mod_cast h)

theorem numberOfBigint_bounds (hn : 0 ≤ n) (h : n ≤ bigintMax) :
    numberOfBigint n ≤ n + 512 ∧ n ≤ numberOfBigint n + 512 := by
  obtain ⟨k, rfl⟩ := Int.eq_ofNat_of_zero_le hn
  have hbounds := nearestDouble_bounds (n := k) (by rw [bigintMax] at h; omega)
  rw [numberOfBigint_natCast]
  omega

end Counters

/-! ## The text of a counter

The digits of a `bigint`, read as the program reads any text: the number they denote, rounded to a
double.
-/

theorem JsNumber.toNumber_digitUnits (n : ℕ) :
    JsNumber.toNumber (JsNumber.digitUnits n) = JsNumber.round (n : ℚ) := by
  have hdigit : ∀ u ∈ JsNumber.digitUnits n, isDigitUnit u = true := fun u hu ↦
    JsNumber.isDigitUnit_of_mem_digitUnits hu
  have hne := JsNumber.digitUnits_ne_nil (n := n)
  have htrim : trim (JsNumber.digitUnits n) = JsNumber.digitUnits n := trim_eq_self fun u hu ↦
    forall_of_isDigitUnit (P := fun u ↦ isSpaceUnit u = false) (by decide) (hdigit u hu)
  have hbase : ∀ u v : UInt16, isDigitUnit u = false → (JsNumber.digitUnits n).take 2 ≠ [v, u] := by
    intro u v hu heq
    have hmem : u ∈ (JsNumber.digitUnits n).take 2 := by
      rw [heq]
      exact List.mem_cons_of_mem _ List.mem_cons_self
    rw [hdigit u (List.mem_of_mem_take hmem)] at hu
    cases hu
  have hprefix : ∀ u v : UInt16, isDigitUnit u = false → isDigitUnit v = false →
      (JsNumber.digitUnits n).take 2 ∉ [[48, u], [48, v]] := by
    intro u v hu hv
    simp only [List.mem_cons, List.not_mem_nil, or_false, not_or]
    exact ⟨hbase u 48 hu, hbase v 48 hv⟩
  have h16 : (JsNumber.digitUnits n).take 2 ∉ [units "0x", units "0X"] :=
    hprefix 120 88 (by decide) (by decide)
  have h8 : (JsNumber.digitUnits n).take 2 ∉ [units "0o", units "0O"] :=
    hprefix 111 79 (by decide) (by decide)
  have h2 : (JsNumber.digitUnits n).take 2 ∉ [units "0b", units "0B"] :=
    hprefix 98 66 (by decide) (by decide)
  obtain ⟨u, text, htext⟩ := List.exists_cons_of_ne_nil hne
  have hu : isDigitUnit u = true := hdigit u (htext ▸ List.mem_cons_self)
  have hsign : JsNumber.takeSign (JsNumber.digitUnits n) = (false, JsNumber.digitUnits n) := by
    have hminus : u ≠ 45 := forall_of_isDigitUnit (P := fun u ↦ u ≠ 45) (by decide) hu
    have hplus : u ≠ 43 := forall_of_isDigitUnit (P := fun u ↦ u ≠ 43) (by decide) hu
    rw [htext, JsNumber.takeSign, if_neg hminus, if_neg hplus]
  have hinfinity : JsNumber.digitUnits n ≠ units "Infinity" := by
    have hI : u ≠ 73 := forall_of_isDigitUnit (P := fun u ↦ u ≠ 73) (by decide) hu
    rw [htext]
    exact fun heq ↦ hI (List.cons.inj heq).1
  simp only [JsNumber.toNumber, htrim, if_neg hne, if_neg h16, if_neg h8, if_neg h2, hsign,
    if_neg hinfinity, JsNumber.decimalLiteral_digits hne hdigit, JsNumber.digitsNumber_digitUnits,
    Bool.false_eq_true, if_false]

theorem JsNumber.roundMagnitude_of_lt {n : ℕ} (h : 2 ^ 53 < n) :
    JsNumber.roundMagnitude n 1 =
      if 971 < ((Nat.log2 n - 52 : ℕ) : ℤ) ∨ (((Nat.log2 n - 52 : ℕ) : ℤ) = 971 ∧
        Numeric.divRound n (2 ^ (Nat.log2 n - 52)) = 2 ^ 53) then none
      else some (nearestDouble n : ℚ) := by
  have hlog : 53 ≤ Nat.log2 n := (Nat.le_log2 (by omega)).mpr h.le
  have he : max (Numeric.log2Div n 1 - 52) (-1074) = ((Nat.log2 n - 52 : ℕ) : ℤ) := by
    rw [Numeric.log2Div, if_pos (by omega), Nat.div_one]
    omega
  simp only [JsNumber.roundMagnitude, he, Int.natCast_nonneg, if_true, Int.toNat_natCast, one_mul]
  rw [nearestDouble]
  push_cast
  rw [zpow_natCast]

theorem JsNumber.roundMagnitude_eq_nearestDouble {n : ℕ} (h : n < 2 ^ 63) :
    JsNumber.roundMagnitude n 1 = some (nearestDouble n : ℚ) := by
  rcases le_or_gt n (2 ^ 53) with hle | hgt
  · rw [JsNumber.roundMagnitude_of_le hle, nearestDouble_of_le hle]
  · have hlog : Nat.log2 n < 63 := (Nat.log2_lt (by omega)).mpr h
    rw [JsNumber.roundMagnitude_of_lt hgt, if_neg (by omega)]

theorem JsNumber.eq_nearestDouble_of_roundMagnitude {n m : ℕ}
    (h : JsNumber.roundMagnitude n 1 = some (m : ℚ)) : m = nearestDouble n := by
  rcases le_or_gt n (2 ^ 53) with hle | hgt
  · rw [JsNumber.roundMagnitude_of_le hle] at h
    rw [nearestDouble_of_le hle]
    exact_mod_cast (Option.some.inj h).symm
  · rw [JsNumber.roundMagnitude_of_lt hgt] at h
    split at h
    · cases h
    · exact_mod_cast (Option.some.inj h).symm

/-- `Number` of the text of a counter. -/
theorem toNumber_bigint {n : ℕ} (h : (n : ℤ) ≤ bigintMax) :
    JsNumber.toNumber (JsNumber.digitUnits n) = .finite (numberOfBigint n) := by
  have hlt : n < 2 ^ 63 := by
    rw [bigintMax] at h
    omega
  rw [JsNumber.toNumber_digitUnits, JsNumber.round_natCast,
    JsNumber.roundMagnitude_eq_nearestDouble hlt, numberOfBigint_natCast]
  push_cast
  rfl

example : numberOfBigint 9007199254740993 = numberOfBigint 9007199254740992 := by decide

/-! ## The text of a number

Above `2 ^ 53` the text of a number is the shortest decimal that rounds to it. A number whose text
is a `bigint` again comes of a counter up to `storableMax`, and only of such.
-/

theorem nearestDouble_nearestDouble (n : ℕ) : nearestDouble (nearestDouble n) =
    nearestDouble n := by
  rcases le_or_gt n (2 ^ 53) with hle | hgt
  · rw [nearestDouble_of_le hle, nearestDouble_of_le hle]
  -- its unit is that of `n`, or twice as large if rounding has reached the next power of two
  have hpos : n ≠ 0 := by omega
  have hlow := pow_le_nearestDouble hpos
  have hhigh := nearestDouble_le_pow n
  have hlog : 53 ≤ Nat.log2 n := (Nat.le_log2 hpos).mpr hgt.le
  rcases hhigh.lt_or_eq with hlt | heq
  · have hsame : Nat.log2 (nearestDouble n) = Nat.log2 n :=
      (Nat.log2_eq_iff (by have := Nat.one_le_two_pow (n := Nat.log2 n); omega)).mpr ⟨hlow, hlt⟩
    rw [nearestDouble_of_dvd]
    rw [hsame, nearestDouble]
    exact Nat.dvd_mul_left _ _
  · rw [nearestDouble_of_dvd]
    rw [heq, Nat.log2_two_pow]
    exact pow_dvd_pow 2 (by omega)

theorem nearestDouble_shortestDecimal (n : ℕ) :
    nearestDouble (JsNumber.shortestDecimal (nearestDouble n)) = nearestDouble n := by
  rcases JsNumber.shortestDecimal_cases (nearestDouble n) with h | h
  · rw [h, nearestDouble_nearestDouble]
  · exact (JsNumber.eq_nearestDouble_of_roundMagnitude h).symm

/-- What is stored of a counter is read as the same number again. -/
theorem numberOfBigint_bigintOfNumber (n : ℤ) :
    numberOfBigint (bigintOfNumber (numberOfBigint n)) = numberOfBigint n := by
  have hnatural (m : ℕ) : numberOfBigint (bigintOfNumber (nearestDouble m)) = nearestDouble m := by
    rw [bigintOfNumber_natCast, numberOfBigint_natCast, nearestDouble_shortestDecimal]
  rcases n.natAbs_eq with hn | hn
  · rw [hn, numberOfBigint_natCast, hnatural]
  · rw [hn, numberOfBigint_neg, numberOfBigint_natCast, bigintOfNumber_neg, bigintOfNumber_natCast,
      numberOfBigint_neg, numberOfBigint_natCast, nearestDouble_shortestDecimal]

/-- Larger counters are not stored as smaller ones. -/
theorem shortestDecimal_mono {n m : ℕ} (h : n ≤ m) :
    JsNumber.shortestDecimal (nearestDouble n) ≤ JsNumber.shortestDecimal (nearestDouble m) := by
  by_contra! hlt
  have hle : nearestDouble m ≤ nearestDouble n := by
    rw [← nearestDouble_shortestDecimal n, ← nearestDouble_shortestDecimal m]
    exact nearestDouble_mono hlt.le
  rw [(nearestDouble_mono h).antisymm hle] at hlt
  exact lt_irrefl _ hlt

/-- The largest counter that can be stored as the number it is read as. -/
def storableMax : ℤ := 2 ^ 63 - 513

theorem storableMax_lt : storableMax < bigintMax := by decide

theorem bigintOfNumber_le_iff {n : ℤ} (hn : 0 ≤ n) :
    bigintOfNumber (numberOfBigint n) ≤ bigintMax ↔ n ≤ storableMax := by
  -- beyond it a counter is read as `2 ^ 63`, and that prints as a larger number still
  have hlast : JsNumber.shortestDecimal (nearestDouble (2 ^ 63 - 513)) = 9223372036854775000 := by
    decide +kernel
  have hnext : JsNumber.shortestDecimal (nearestDouble (2 ^ 63 - 512)) = 9223372036854776000 := by
    decide +kernel
  obtain ⟨k, rfl⟩ := Int.eq_ofNat_of_zero_le hn
  rw [numberOfBigint_natCast, bigintOfNumber_natCast, bigintMax, storableMax]
  rcases le_or_gt k (2 ^ 63 - 513) with hle | hgt
  · have hmono := shortestDecimal_mono hle
    constructor <;> intro <;> omega
  · have hmono := shortestDecimal_mono (show 2 ^ 63 - 512 ≤ k by omega)
    constructor <;> intro <;> omega

end Values
