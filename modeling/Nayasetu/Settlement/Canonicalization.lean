import Nayasetu.Settlement.BreakdownCheck
import Nayasetu.Values.Jsonb
import Nayasetu.Values.NumericSum

/-!
# Canonical quotes

Older builds stored the components of a quoted fee as JSON numbers. Before the table gets its check,
the migration rewrites the rows whose numbers are exact amounts that add up, and leaves every other
row alone.

The casts of the guard are only evaluated on JSON numbers, behind the conditions that say so.

The guard is a conjunction in which the later parts only make sense if the earlier ones hold. It
is taken from left to right, as it is written. The rewritten texts come from casts to two
decimals, which are exact on the rows that the guard lets through.
-/

namespace Nayasetu

open Values

/-- The columns of `payment_quote` other than its document. The amount is in hundredths. -/
structure QuoteColumns where
  id : ℕ
  matterId : ℕ
  providerId : ℕ
  amount : ℤ
  currency : String
  expiresAt : ℤ
  createdAt : ℤ
  deriving DecidableEq, Repr

/-- A row of `payment_quote`, with whatever document the column can hold. -/
structure QuoteRow extends QuoteColumns where
  feeBreakdownJson : Jsonb
  stored : feeBreakdownJson.IsStored

/-- `(doc ->> key)::numeric`, of a JSON number. -/
def castAt (doc : Jsonb) (key : String) : Option Numeric :=
  (doc.textAt key).map fun text ↦ Numeric.ofText text.toList

/-- `a::numeric(14,2)::text`. A number that does not fit is an error. -/
def fixedText (a : Numeric) : Option String :=
  (fixedPoint 14 2 a.value).map fun units ↦ String.ofList (Numeric.text ⟨units, 2⟩)

/-- The `WHERE` clause of the canonicalization. -/
def QuoteRow.CanonicalizationWhere (row : QuoteRow) : Prop :=
  row.feeBreakdownJson.kind = .object ∧ row.feeBreakdownJson.hasAll breakdownKeys ∧
    (row.feeBreakdownJson.without breakdownKeys).keys = [] ∧
    row.feeBreakdownJson.kindAt "professionalFee" = some .number ∧
    row.feeBreakdownJson.kindAt "processingFee" = some .number ∧
    row.feeBreakdownJson.kindAt "platformCommission" = some .number ∧
    ∃ professionalFee ∈ castAt row.feeBreakdownJson "professionalFee",
      ∃ processingFee ∈ castAt row.feeBreakdownJson "processingFee",
        ∃ platformCommission ∈ castAt row.feeBreakdownJson "platformCommission",
          (0 ≤ professionalFee.value ∧ professionalFee.value ≤ 999999999999.99) ∧
          (0 ≤ processingFee.value ∧ processingFee.value ≤ 999999999999.99) ∧
          platformCommission.value = 0 ∧
          truncAt 2 professionalFee.value = professionalFee.value ∧
          truncAt 2 processingFee.value = processingFee.value ∧
          (row.amount : ℚ) / 100 =
            professionalFee.value + processingFee.value + platformCommission.value

instance (row : QuoteRow) : Decidable row.CanonicalizationWhere :=
  inferInstanceAs (Decidable (_ ∧ _))

/-- The `SET` clause of the canonicalization. -/
def canonicalBreakdown (doc : Jsonb) : Option QuoteFeeBreakdown := do
  let professionalFee ← (castAt doc "professionalFee").bind fixedText
  let processingFee ← (castAt doc "processingFee").bind fixedText
  let platformCommission ← (castAt doc "platformCommission").bind fixedText
  return ⟨professionalFee, processingFee, platformCommission⟩

theorem QuoteFeeBreakdown.isStored_json {breakdown : QuoteFeeBreakdown} (h : breakdown.Storable) :
    breakdown.json.IsStored := by
  rw [QuoteFeeBreakdown.Storable] at h
  simp only [List.forall_mem_cons] at h
  obtain ⟨hprofessional, hprocessing, hcommission, -⟩ := h
  refine .object (by simp) ?_
  simp only [List.forall_mem_cons]
  exact ⟨.string hprofessional, .string hprocessing, .string hcommission, by simp⟩

def QuoteRow.withBreakdown (row : QuoteRow) (breakdown : QuoteFeeBreakdown) : Option QuoteRow :=
  if h : breakdown.Storable then
    some ⟨row.toQuoteColumns, breakdown.json, QuoteFeeBreakdown.isStored_json h⟩
  else none

def QuoteRow.canonicalize (row : QuoteRow) : Option QuoteRow :=
  if row.CanonicalizationWhere then
    (canonicalBreakdown row.feeBreakdownJson).bind row.withBreakdown
  else some row

/-- The canonicalization `UPDATE`, of the whole table. -/
def canonicalizePaymentQuotes (table : List QuoteRow) : Option (List QuoteRow) :=
  table.mapM QuoteRow.canonicalize

/-- The rows that are meant: three keys, each of a JSON number that is an exact amount, no
commission, and a sum that is the amount of the row. -/
def QuoteRow.NumericBreakdown (row : QuoteRow) : Prop :=
  row.feeBreakdownJson.kind = .object ∧ row.feeBreakdownJson.keys.Perm breakdownKeys ∧
    ∃ professionalFee processingFee platformCommission : Numeric,
      row.feeBreakdownJson.get "professionalFee" = some (.number professionalFee) ∧
      row.feeBreakdownJson.get "processingFee" = some (.number processingFee) ∧
      row.feeBreakdownJson.get "platformCommission" = some (.number platformCommission) ∧
      (∃ m : ℕ, m < 10 ^ 14 ∧ professionalFee.value = m / 100) ∧
      (∃ n : ℕ, n < 10 ^ 14 ∧ processingFee.value = n / 100) ∧ platformCommission.value = 0 ∧
      (row.amount : ℚ) / 100 =
        professionalFee.value + processingFee.value + platformCommission.value

/-! ## Amounts

A number that is an exact multiple of a hundredth, and its text with two decimals.
-/

/-- Two decimals behind the digits of the whole amount. -/
theorem digits_hundredths (m : ℕ) :
    Numeric.digits ⟨m, 2⟩ = Nat.toDigits 10 (m / 100) ++ zeroPadded 2 (m % 100) := by
  rw [Numeric.digits]
  simp only [Int.natAbs_natCast]
  have hpadded : zeroPadded 2 (m % 100) = [(m / 10 % 10).digitChar, (m % 10).digitChar] := by
    have hten : m % 100 / 10 % 10 = m / 10 % 10 := by omega
    have hone : m % 100 % 10 = m % 10 := by omega
    rw [zeroPadded, zeroPadded, zeroPadded, hten, hone]
    rfl
  rw [hpadded]
  rcases Nat.lt_or_ge m 10 with h | h
  · have h0 : m / 100 = 0 := by omega
    have h1 : m / 10 % 10 = 0 := by omega
    have h2 : m % 10 = m := by omega
    rw [Nat.toDigits_of_lt_base h, h0, h1, h2]
    rfl
  · rcases Nat.lt_or_ge m 100 with h' | h'
    · have h0 : m / 100 = 0 := by omega
      have h1 : m / 10 % 10 = m / 10 := by omega
      rw [Nat.toDigits_of_base_le (by decide) h, Nat.toDigits_of_lt_base (by omega), h0, h1]
      rfl
    · have hdiv : m / 10 / 10 = m / 100 := by omega
      rw [Nat.toDigits_of_base_le (by decide) h, Nat.toDigits_of_base_le (by decide)
        (by omega), hdiv, List.append_assoc]
      have hpositive := List.length_pos_of_ne_nil (Nat.toDigits_ne_nil (n := m / 100) (b := 10))
      have hnone : 2 + 1 - (Nat.toDigits 10 (m / 100) ++ ([(m / 10 % 10).digitChar] ++
          [(m % 10).digitChar])).length = 0 := by
        rw [List.length_append]
        change 2 + 1 - (_ + 2) = 0
        omega
      rw [hnone]
      rfl

theorem text_hundredths (m : ℕ) : String.ofList (Numeric.text ⟨m, 2⟩) = moneyText m := by
  have hlength : (Numeric.digits ⟨m, 2⟩).length - 2 = (Nat.toDigits 10 (m / 100)).length := by
    rw [digits_hundredths, List.length_append, length_zeroPadded, Nat.add_sub_cancel]
  have hsign : ¬ (m : ℤ) < 0 := by omega
  rw [moneyText, Numeric.text]
  simp only [hlength]
  rw [digits_hundredths, List.take_left', List.drop_left', if_neg hsign, if_neg (by decide)]
  · rfl
  · rfl
  · rfl

/-- What the guard says of a number is that it is an exact amount. -/
theorem exists_hundredths_iff {x : ℚ} :
    ((0 ≤ x ∧ x ≤ 999999999999.99) ∧ truncAt 2 x = x) ↔ ∃ m : ℕ, m < 10 ^ 14 ∧ x = m / 100 := by
  constructor
  · rintro ⟨⟨hnonneg, hle⟩, htrunc⟩
    rw [truncAt, if_pos hnonneg] at htrunc
    have hfloor : 0 ≤ (x * 10 ^ 2).floor := Rat.le_floor_iff.mpr (by push_cast; positivity)
    obtain ⟨m, hm⟩ := Int.eq_ofNat_of_zero_le hfloor
    rw [hm] at htrunc
    have hx : x = m / 100 := by
      rw [← htrunc]
      norm_num
    refine ⟨m, ?_, hx⟩
    have hbound : (m : ℚ) ≤ 99999999999999 := by
      rw [hx] at hle
      linarith
    have : m ≤ 99999999999999 := by exact_mod_cast hbound
    omega
  · rintro ⟨m, hm, rfl⟩
    have hle : (m : ℚ) ≤ 99999999999999 := by
      have : m ≤ 99999999999999 := by omega
      exact_mod_cast this
    have hnonneg : (0 : ℚ) ≤ (m : ℚ) / 100 := by positivity
    refine ⟨⟨hnonneg, by linarith⟩, ?_⟩
    have hscaled : (m : ℚ) / 100 * 10 ^ 2 = ((m : ℤ) : ℚ) := by
      push_cast
      ring
    rw [truncAt, if_pos hnonneg, hscaled, Rat.floor_intCast]
    norm_num

theorem fixedText_of_value {a : Numeric} {m : ℕ} (hm : m < 10 ^ 14) (h : a.value = m / 100) :
    fixedText a = some (moneyText m) := by
  rw [fixedText, h, fixedPoint_hundredths hm, Option.map_some, text_hundredths]

/-! ## Documents

The guard in terms of the three numbers in the document.
-/

section Documents

variable {doc : Jsonb} {key : String} {row : QuoteRow}

theorem castAt_of_number {a : Numeric} (h : doc.get key = some (.number a)) :
    castAt doc key = some a := by
  rw [castAt, Jsonb.textAt, h, Option.bind_some, Jsonb.text, Option.map_some, String.toList_ofList,
    Numeric.ofText_text]

theorem kindAt_number_iff :
    doc.kindAt key = some .number ↔ ∃ a, doc.get key = some (.number a) := by
  rw [Jsonb.kindAt_eq_some_iff]
  constructor
  · rintro ⟨value, hget, hkind⟩
    obtain ⟨a, rfl⟩ := Jsonb.kind_eq_number_iff.mp hkind
    exact ⟨a, hget⟩
  · rintro ⟨a, hget⟩
    exact ⟨_, hget, rfl⟩

theorem keys_perm_iff (hkind : doc.kind = .object) (hnodup : doc.keys.Nodup) :
    doc.keys.Perm breakdownKeys ↔
      doc.hasAll breakdownKeys ∧ (doc.without breakdownKeys).keys = [] := by
  rw [List.perm_ext_iff_of_nodup hnodup (by decide)]
  have hwithout : (doc.without breakdownKeys).keys = [] ↔ ∀ key ∈ doc.keys,
      key ∈ breakdownKeys := by
    cases doc with
    | object fields => simp [Jsonb.without, Jsonb.keys, List.filter_eq_nil_iff]
    | _ => cases hkind
  rw [hwithout, Jsonb.hasAll, List.all_eq_true]
  simp only [decide_eq_true_eq]
  exact ⟨fun h ↦ ⟨fun key ↦ (h key).mpr, fun key ↦ (h key).mp⟩, fun h key ↦ ⟨h.2 key, h.1 key⟩⟩

/-- The guard selects the rows that are meant. -/
theorem canonicalizationWhere_iff : row.CanonicalizationWhere ↔ row.NumericBreakdown := by
  rw [QuoteRow.CanonicalizationWhere, QuoteRow.NumericBreakdown]
  refine and_congr_right fun hkind ↦ ?_
  rw [keys_perm_iff hkind row.stored.keys_nodup, and_assoc]
  refine and_congr_right fun _ ↦ and_congr_right fun _ ↦ ?_
  simp only [← exists_hundredths_iff]
  constructor
  · rintro ⟨hp, hq, hc, p, hpmem, q, hqmem, c, hcmem, hpbound, hqbound, hzero, hpexact, hqexact,
      hsum⟩
    obtain ⟨a, ha⟩ := kindAt_number_iff.mp hp
    obtain ⟨b, hb⟩ := kindAt_number_iff.mp hq
    obtain ⟨z, hz⟩ := kindAt_number_iff.mp hc
    rw [castAt_of_number ha] at hpmem
    rw [castAt_of_number hb] at hqmem
    rw [castAt_of_number hz] at hcmem
    obtain rfl := Option.mem_some_iff.mp hpmem
    obtain rfl := Option.mem_some_iff.mp hqmem
    obtain rfl := Option.mem_some_iff.mp hcmem
    exact ⟨a, b, z, ha, hb, hz, ⟨hpbound, hpexact⟩, ⟨hqbound, hqexact⟩, hzero, hsum⟩
  · rintro ⟨a, b, z, ha, hb, hz, ⟨hpbound, hpexact⟩, ⟨hqbound, hqexact⟩, hzero, hsum⟩
    exact ⟨kindAt_number_iff.mpr ⟨a, ha⟩, kindAt_number_iff.mpr ⟨b, hb⟩,
      kindAt_number_iff.mpr ⟨z, hz⟩, a, castAt_of_number ha, b, castAt_of_number hb, z,
      castAt_of_number hz, hpbound, hqbound, hzero, hpexact, hqexact, hsum⟩

end Documents

/-! ## Rows

A row is rewritten or left as it is. If it is rewritten the amounts are those of before, as texts,
and the new check accepts it.
-/

/-- What the canonicalization may do to a row. -/
structure QuoteRow.Canonicalized (row row' : QuoteRow) : Prop where
  columns : row'.toQuoteColumns = row.toQuoteColumns
  selected : row.CanonicalizationWhere ↔ row.NumericBreakdown
  changed : row' ≠ row ↔ row.CanonicalizationWhere
  checked : row.CanonicalizationWhere →
    PaymentQuoteBreakdownCheck row'.amount row'.feeBreakdownJson
  preserved : row.CanonicalizationWhere → ∀ key ∈ breakdownKeys, ∃ a : Numeric,
    row.feeBreakdownJson.get key = some (.number a) ∧
      numericAt row'.feeBreakdownJson key = some a.value

/-- The row behind the `SET` clause. -/
theorem canonicalize_of_numericBreakdown {row : QuoteRow} (h : row.NumericBreakdown) :
    ∃ row', row.canonicalize = some row' ∧ row.Canonicalized row' := by
  have hwhere := canonicalizationWhere_iff.mpr h
  obtain ⟨-, -, p, q, c, hp, hq, hc, ⟨m, hm, hpvalue⟩, ⟨n, hn, hqvalue⟩, hcvalue, hsum⟩ := h
  have hzero : c.value = ((0 : ℕ) : ℚ) / 100 := by
    rw [hcvalue]
    norm_num
  have hbreakdown : canonicalBreakdown row.feeBreakdownJson =
      some ⟨moneyText m, moneyText n, moneyText 0⟩ := by
    rw [canonicalBreakdown, castAt_of_number hp, castAt_of_number hq, castAt_of_number hc]
    simp only [Option.bind_some, fixedText_of_value hm hpvalue, fixedText_of_value hn hqvalue,
      fixedText_of_value (by decide) hzero]
    rfl
  have hamount : row.amount = m + n := by
    rw [hpvalue, hqvalue, hcvalue] at hsum
    have : (row.amount : ℚ) = m + n := by linarith
    exact_mod_cast this
  refine ⟨⟨row.toQuoteColumns, QuoteFeeBreakdown.json ⟨moneyText m, moneyText n, moneyText 0⟩,
    QuoteFeeBreakdown.isStored_json storable_of_moneyText⟩, ?_, ?_⟩
  · rw [QuoteRow.canonicalize, if_pos hwhere, hbreakdown, Option.bind_some, QuoteRow.withBreakdown,
      dif_pos storable_of_moneyText]
  · refine ⟨rfl, canonicalizationWhere_iff, ⟨fun _ ↦ hwhere, fun _ heq ↦ ?_⟩, fun _ ↦ ?_,
      fun _ ↦ ?_⟩
    · rw [← heq] at hp
      cases hp
    · exact breakdownCheck_iff.mpr ⟨m, n, hm, hn, rfl, hamount⟩
    · simp only [breakdownKeys, List.forall_mem_cons]
      refine ⟨⟨p, hp, ?_⟩, ⟨q, hq, ?_⟩, ⟨c, hc, ?_⟩, by simp⟩
      · rw [hpvalue]
        exact numericAt_eq rfl
      · rw [hqvalue]
        exact numericAt_eq rfl
      · rw [hzero]
        exact numericAt_eq rfl

theorem exists_canonicalize (row : QuoteRow) :
    ∃ row', row.canonicalize = some row' ∧ row.Canonicalized row' := by
  by_cases h : row.CanonicalizationWhere
  · exact canonicalize_of_numericBreakdown (canonicalizationWhere_iff.mp h)
  · refine ⟨row, if_neg h, rfl, canonicalizationWhere_iff, ?_, fun hwhere ↦ absurd hwhere h,
      fun hwhere ↦ absurd hwhere h⟩
    exact ⟨fun hne ↦ absurd rfl hne, fun hwhere ↦ absurd hwhere h⟩

/-- The canonicalization takes every table, row by row: it rewrites the rows whose numbers are exact
amounts that add up, to texts of the same amounts that keep the check of the table, and leaves
everything else as it is. -/
theorem quote_canonicalization_preserves_money (table : List QuoteRow) :
    ∃ table', canonicalizePaymentQuotes table = some table' ∧
      List.Forall₂ QuoteRow.Canonicalized table table' := by
  induction table with
  | nil => exact ⟨[], rfl, .nil⟩
  | cons row table ih =>
    obtain ⟨row', hrow, hcanonicalized⟩ := exists_canonicalize row
    obtain ⟨table', htable, hall⟩ := ih
    refine ⟨row' :: table', ?_, .cons hcanonicalized hall⟩
    rw [canonicalizePaymentQuotes] at htable ⊢
    rw [List.mapM_cons, hrow, htable]
    rfl

end Nayasetu
