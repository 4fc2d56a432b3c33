import Nayasetu.Settlement.MoneyTexts
import Nayasetu.Settlement.Quotes
import Nayasetu.Values.Fixed

/-!
# The two checks of a quoted amount

A quote is checked twice: by the route, on texts and in minor units, and by the table, on the
amount it stores and the document beside it, in exact decimals. `quote_money_checks_agree` says
that they are the same check.
-/

namespace Nayasetu

open Values

/-! ## The check of the table

The document of a breakdown is a JSON object. The check asks for its three keys and no others, for
the pattern of each text, and for the sum.
-/

/-- `text::numeric`, of a numeral without sign, exponent and blanks. -/
def textNumeric (text : String) : Option ℚ :=
  let (whole, fraction) := splitAtPoint text
  if (whole ++ fraction).all isDecimalDigit ∧ whole ++ fraction ≠ [] then
    some (digitsValue whole + digitsValue fraction / 10 ^ fraction.length)
  else none

/-- `(doc ->> key)::numeric`. -/
def numericAt (doc : Jsonb) (key : String) : Option ℚ := (doc.textAt key).bind textNumeric

def breakdownKeys : List String := ["professionalFee", "processingFee", "platformCommission"]

/-- `doc ->> key ~ '^(0|[1-9][0-9]{0,11})[.][0-9]{2}$'`. -/
def HasBreakdownPattern (doc : Jsonb) (key : String) : Prop :=
  ∃ text ∈ doc.textAt key, Matches breakdownRegex text

instance (doc : Jsonb) (key : String) : Decidable (HasBreakdownPattern doc key) :=
  inferInstanceAs (Decidable (∃ text ∈ doc.textAt key, Matches breakdownRegex text))

/-- `payment_quote_breakdown_check`, of an amount in hundredths and a document. -/
def PaymentQuoteBreakdownCheck (amount : ℤ) (doc : Jsonb) : Prop :=
  if doc.kind = .object ∧ doc.hasAll breakdownKeys ∧ (doc.without breakdownKeys).keys = [] ∧
      doc.kindAt "professionalFee" = some .string ∧ doc.kindAt "processingFee" = some .string ∧
      doc.kindAt "platformCommission" = some .string ∧
      HasBreakdownPattern doc "professionalFee" ∧ HasBreakdownPattern doc "processingFee" ∧
      HasBreakdownPattern doc "platformCommission" then
    ∃ professionalFee ∈ numericAt doc "professionalFee",
      ∃ processingFee ∈ numericAt doc "processingFee",
        ∃ platformCommission ∈ numericAt doc "platformCommission",
          0 ≤ professionalFee ∧ 0 ≤ processingFee ∧ platformCommission = 0 ∧
            (amount : ℚ) / 100 = professionalFee + processingFee + platformCommission
  else False

/-! ## The row and the request

The row that the writer makes of a body, and what the schema asks of the body.
-/

def QuoteFeeBreakdown.json (breakdown : QuoteFeeBreakdown) : Jsonb :=
  .object [("professionalFee", .string breakdown.professionalFee),
    ("processingFee", .string breakdown.processingFee),
    ("platformCommission", .string breakdown.platformCommission)]

/-- A `jsonb` column takes the document. -/
def QuoteFeeBreakdown.Storable (breakdown : QuoteFeeBreakdown) : Prop :=
  ∀ text ∈ [breakdown.professionalFee, breakdown.processingFee, breakdown.platformCommission],
    '\x00' ∉ text.toList

instance (breakdown : QuoteFeeBreakdown) : Decidable breakdown.Storable :=
  inferInstanceAs (Decidable (∀ text ∈ _, _))

/-- What a row of `payment_quote` keeps of the money. -/
structure QuoteMoneyRow where
  amount : ℤ
  feeBreakdownJson : Jsonb

/-- The row of four texts, if there can be one. -/
def quoteMoneyRow (amount : String) (breakdown : QuoteFeeBreakdown) : Option QuoteMoneyRow := do
  let units ← (textNumeric amount).bind (fixedPoint 14 2)
  if breakdown.Storable then some ⟨units, breakdown.json⟩ else none

/-- The part of `quoteSchema` that is about money. -/
def QuoteMoneyValid (amount : String) (breakdown : QuoteFeeBreakdown) : Prop :=
  MoneyAmountPattern amount ∧ MoneyAmountPattern breakdown.professionalFee ∧
    MoneyAmountPattern breakdown.processingFee ∧ breakdown.platformCommission = "0.00"

theorem QuoteBody.valid_iff {body : QuoteBody} :
    body.Valid ↔ QuoteMoneyValid body.amount body.feeBreakdown ∧ CurrencyPattern body.currency := by
  rw [QuoteBody.Valid, QuoteMoneyValid]
  tauto

/-! ## Values of amounts

The decimal a text is cast to is its minor units over one hundred.
-/

/-- The exact value of the text of an amount. -/
theorem textNumeric_moneyText {m : ℕ} : textNumeric (moneyText m) = some ((m : ℚ) / 100) := by
  have hwhole : digitsValue (Nat.toDigits 10 (m / 100)) = m / 100 := Nat.ofDigitChars_ten_toDigits
  have hfraction : digitsValue (zeroPadded 2 (m % 100)) = m % 100 :=
    ofDigitChars_zeroPadded (Nat.mod_lt m (by decide))
  have hdigits : (Nat.toDigits 10 (m / 100) ++ zeroPadded 2 (m % 100)).all
      isDecimalDigit = true := by
    rw [List.all_eq_true]
    intro d hd
    rw [isDecimalDigit_iff]
    rcases List.mem_append.mp hd with hd | hd
    · exact mem_decimalDigits_of_mem_toDigits hd
    · exact mem_decimalDigits_of_mem_zeroPadded hd
  simp only [textNumeric, splitAtPoint_moneyText]
  rw [if_pos ⟨hdigits, by simp [Nat.toDigits_ne_nil]⟩, hwhole, hfraction, length_zeroPadded]
  congr 1
  have hsplit : (100 * (m / 100 : ℕ) + (m % 100 : ℕ) : ℚ) = m := by
    exact_mod_cast Nat.div_add_mod m 100
  linarith

theorem toMinorUnits_moneyText {m : ℕ} (h : m < 10 ^ 14) :
    toMinorUnits (moneyText m) = .ok (m : ℤ) := by
  rw [toMinorUnits, unit_bind_eq_ok_iff, require_eq_ok_iff, moneyAmountPattern_iff]
  exact ⟨⟨m, h, rfl⟩, congrArg Except.ok minorUnits_moneyText⟩

/-- An amount in hundredths fits its column as it is. -/
theorem fixedPoint_hundredths {m : ℕ} (h : m < 10 ^ 14) :
    fixedPoint 14 2 ((m : ℚ) / 100) = some (m : ℤ) := by
  have hround : roundHalfAway ((m : ℚ) / 100 * 10 ^ 2) = m := by
    have hm : (m : ℚ) / 100 * 10 ^ 2 = m := by ring
    rw [hm, roundHalfAway, if_pos (Nat.cast_nonneg m)]
    change ⌊(m : ℚ) + 1 / 2⌋ = m
    rw [Int.floor_eq_iff]
    constructor <;> push_cast <;> linarith
  simp only [fixedPoint, hround, Int.natAbs_natCast]
  exact if_pos h

/-! ## Agreement

First for the breakdown by itself, then for the row with its other checks.
-/

section Agreement

variable {amount : ℤ} {breakdown : QuoteFeeBreakdown}

theorem hasBreakdownPattern_iff {doc : Jsonb} {key text : String}
    (h : doc.textAt key = some text) :
    HasBreakdownPattern doc key ↔ ∃ m < 10 ^ 14, text = moneyText m := by
  rw [HasBreakdownPattern, h, ← matches_breakdownRegex_iff]
  simp

/-- The value of a text with the pattern. -/
theorem numericAt_eq {doc : Jsonb} {key : String} {m : ℕ}
    (h : doc.textAt key = some (moneyText m)) : numericAt doc key = some ((m : ℚ) / 100) := by
  rw [numericAt, h]
  exact textNumeric_moneyText

theorem breakdownCheck_iff : PaymentQuoteBreakdownCheck amount breakdown.json ↔
    ∃ professionalFee processingFee : ℕ, professionalFee < 10 ^ 14 ∧ processingFee < 10 ^ 14 ∧
      breakdown = ⟨moneyText professionalFee, moneyText processingFee, moneyText 0⟩ ∧
      amount = professionalFee + processingFee := by
  have hprofessional : breakdown.json.textAt "professionalFee" = some breakdown.professionalFee :=
    rfl
  have hprocessing : breakdown.json.textAt "processingFee" = some breakdown.processingFee := rfl
  have hcommission : breakdown.json.textAt "platformCommission" =
      some breakdown.platformCommission :=
    rfl
  rw [PaymentQuoteBreakdownCheck]
  constructor
  · intro h
    split at h
    next hguard =>
      obtain ⟨-, -, -, -, -, -, hp, hq, hc⟩ := hguard
      obtain ⟨p, hp, hptext⟩ := (hasBreakdownPattern_iff hprofessional).mp hp
      obtain ⟨q, hq, hqtext⟩ := (hasBreakdownPattern_iff hprocessing).mp hq
      obtain ⟨c, -, hctext⟩ := (hasBreakdownPattern_iff hcommission).mp hc
      rw [hptext] at hprofessional
      rw [hqtext] at hprocessing
      rw [hctext] at hcommission
      rw [numericAt_eq hprofessional, numericAt_eq hprocessing, numericAt_eq hcommission] at h
      obtain ⟨x, hx, y, hy, z, hz, -, -, hzero, hsum⟩ := h
      cases hx
      cases hy
      cases hz
      have hc0 : c = 0 := by
        have : (c : ℚ) = 0 := by linarith
        exact_mod_cast this
      have hamount : (amount : ℚ) = p + q := by linarith
      refine ⟨p, q, hp, hq, ?_, by exact_mod_cast hamount⟩
      rw [← hptext, ← hqtext, ← hc0, ← hctext]
    next => exact absurd h id
  · rintro ⟨p, q, hp, hq, rfl, rfl⟩
    have hp' := (hasBreakdownPattern_iff hprofessional).mpr ⟨p, hp, rfl⟩
    have hq' := (hasBreakdownPattern_iff hprocessing).mpr ⟨q, hq, rfl⟩
    have hc' := (hasBreakdownPattern_iff hcommission).mpr ⟨0, by decide, rfl⟩
    rw [if_pos ⟨rfl, rfl, rfl, rfl, rfl, rfl, hp', hq', hc'⟩, numericAt_eq hprofessional,
      numericAt_eq hprocessing, numericAt_eq hcommission]
    refine ⟨_, rfl, _, rfl, _, rfl, by positivity, by positivity, by simp, ?_⟩
    push_cast
    ring

/-- The row of a quote keeps the check of the table. -/
theorem PaymentQuote.rowCheck_iff {quote : PaymentQuote} : quote.RowCheck ↔
    0 ≤ quote.amount ∧ CurrencyPattern quote.currency ∧ quote.createdAt < quote.expiresAt ∧
      PaymentQuoteBreakdownCheck quote.amount quote.feeBreakdown.json := by
  rw [PaymentQuote.RowCheck, breakdownCheck_iff]
  refine and_congr Iff.rfl (and_congr Iff.rfl (and_congr Iff.rfl ?_))
  simp only [moneyAmountPattern_iff]
  constructor
  · rintro ⟨⟨p, hp, hptext⟩, ⟨q, hq, hqtext⟩, ⟨c, -, hctext⟩, hzero, hamount⟩
    rw [hptext, hqtext, hctext, minorUnits_moneyText, minorUnits_moneyText, minorUnits_moneyText]
      at hamount
    rw [hctext, minorUnits_moneyText] at hzero
    have hc0 : c = 0 := by omega
    refine ⟨p, q, hp, hq, ?_, by omega⟩
    rw [← hptext, ← hqtext, ← hc0, ← hctext]
  · rintro ⟨p, q, hp, hq, hbreakdown, hamount⟩
    rw [hbreakdown]
    refine ⟨⟨p, hp, rfl⟩, ⟨q, hq, rfl⟩, ⟨0, by decide, rfl⟩, minorUnits_moneyText, ?_⟩
    rw [minorUnits_moneyText, minorUnits_moneyText, minorUnits_moneyText, hamount]
    omega

theorem moneyText_zero : moneyText 0 = "0.00" := by decide

theorem storable_of_moneyText {p q c : ℕ} :
    QuoteFeeBreakdown.Storable ⟨moneyText p, moneyText q, moneyText c⟩ := by
  have hnul : ∀ m, '\x00' ∉ (moneyText m).toList := by
    intro m hmem
    rw [moneyText, String.toList_ofList, List.mem_append, List.mem_cons] at hmem
    have hdigits : '\x00' ∉ decimalDigits := by decide
    rcases hmem with hwhole | hpoint | hfraction
    · exact hdigits (mem_decimalDigits_of_mem_toDigits hwhole)
    · exact absurd hpoint (by decide)
    · exact hdigits (mem_decimalDigits_of_mem_zeroPadded hfraction)
  simp [QuoteFeeBreakdown.Storable, hnul]

/-- What the code's comparison comes to, on texts of amounts. -/
theorem quoteFeeBreakdownMatchesTotal_moneyText {p q t : ℕ} (hp : p < 10 ^ 14) (hq : q < 10 ^ 14)
    (ht : t < 10 ^ 14) : quoteFeeBreakdownMatchesTotal (moneyText t)
      ⟨moneyText p, moneyText q, moneyText 0⟩ = .ok (decide (p + q = t)) := by
  rw [quoteFeeBreakdownMatchesTotal, toMinorUnits_moneyText hp, toMinorUnits_moneyText hq,
    toMinorUnits_moneyText ht, toMinorUnits_moneyText (by decide)]
  change Except.ok (decide ((p : ℤ) + q = t)) = _
  congr 2
  rw [eq_iff_iff]
  omega

theorem quoteMoneyAccepted_iff {amount : String} :
    QuoteMoneyValid amount breakdown ∧ quoteFeeBreakdownMatchesTotal amount breakdown = .ok true ↔
      ∃ p q : ℕ, p < 10 ^ 14 ∧ q < 10 ^ 14 ∧ p + q < 10 ^ 14 ∧ amount = moneyText (p + q) ∧
        breakdown = ⟨moneyText p, moneyText q, moneyText 0⟩ := by
  simp only [QuoteMoneyValid, moneyAmountPattern_iff]
  constructor
  · rintro ⟨⟨⟨t, ht, rfl⟩, ⟨p, hp, hptext⟩, ⟨q, hq, hqtext⟩, hcommission⟩, hmatches⟩
    have hbreakdown : breakdown = ⟨moneyText p, moneyText q, moneyText 0⟩ := by
      rw [← hptext, ← hqtext, moneyText_zero, ← hcommission]
    rw [hbreakdown, quoteFeeBreakdownMatchesTotal_moneyText hp hq ht, Except.ok.injEq,
      decide_eq_true_iff] at hmatches
    exact ⟨p, q, hp, hq, by omega, congrArg moneyText hmatches.symm, hbreakdown⟩
  · rintro ⟨p, q, hp, hq, hsum, rfl, rfl⟩
    refine ⟨⟨⟨p + q, hsum, rfl⟩, ⟨p, hp, rfl⟩, ⟨q, hq, rfl⟩, moneyText_zero⟩, ?_⟩
    rw [quoteFeeBreakdownMatchesTotal_moneyText hp hq hsum, decide_eq_true rfl]

/-- The table takes every row that the route makes of a request it has accepted. -/
theorem QuoteBody.rowCheck_row {body : QuoteBody} (hvalid : body.Valid)
    (hmatches : quoteFeeBreakdownMatchesTotal body.amount body.feeBreakdown = .ok true)
    {createdAt : ℤ} (hlater : createdAt < body.expiresAt) (providerId id : ℕ) :
    (body.row providerId createdAt id).RowCheck := by
  obtain ⟨hmoney, hcurrency⟩ := QuoteBody.valid_iff.mp hvalid
  obtain ⟨p, q, hp, hq, -, hamount, hbreakdown⟩ := quoteMoneyAccepted_iff.mp ⟨hmoney, hmatches⟩
  have hunits : (body.row providerId createdAt id).amount = p + q := by
    rw [QuoteBody.row, hamount, minorUnits_moneyText, Nat.cast_add]
  have hcheck : PaymentQuoteBreakdownCheck (p + q) body.feeBreakdown.json :=
    breakdownCheck_iff.mpr ⟨p, q, hp, hq, hbreakdown, rfl⟩
  refine PaymentQuote.rowCheck_iff.mpr ⟨?_, hcurrency, hlater, ?_⟩
  · rw [hunits]
    positivity
  · rwa [hunits]

theorem quoteMoneyRow_check_iff {amount : String} :
    (MoneyAmountPattern amount ∧ ∃ row ∈ quoteMoneyRow amount breakdown,
        PaymentQuoteBreakdownCheck row.amount row.feeBreakdownJson) ↔
      ∃ p q : ℕ, p < 10 ^ 14 ∧ q < 10 ^ 14 ∧ p + q < 10 ^ 14 ∧ amount = moneyText (p + q) ∧
        breakdown = ⟨moneyText p, moneyText q, moneyText 0⟩ := by
  have hrow : ∀ t < 10 ^ 14, quoteMoneyRow (moneyText t) breakdown =
      if breakdown.Storable then some ⟨t, breakdown.json⟩ else none := by
    intro t ht
    rw [quoteMoneyRow, textNumeric_moneyText, Option.bind_some, fixedPoint_hundredths ht]
    rfl
  rw [moneyAmountPattern_iff]
  constructor
  · rintro ⟨⟨t, ht, rfl⟩, row, hmem, hcheck⟩
    rw [hrow t ht] at hmem
    split at hmem
    next =>
      cases hmem
      obtain ⟨p, q, hp, hq, hbreakdown, hamount⟩ := breakdownCheck_iff.mp hcheck
      have hsum : t = p + q := Nat.cast_injective (R := ℤ) (hamount.trans (Nat.cast_add p q).symm)
      exact ⟨p, q, hp, hq, hsum ▸ ht, congrArg moneyText hsum, hbreakdown⟩
    next => cases hmem
  · rintro ⟨p, q, hp, hq, hsum, rfl, rfl⟩
    have hcheck : PaymentQuoteBreakdownCheck ((p + q : ℕ) : ℤ)
        (QuoteFeeBreakdown.json ⟨moneyText p, moneyText q, moneyText 0⟩) :=
      breakdownCheck_iff.mpr ⟨p, q, hp, hq, rfl, Nat.cast_add p q⟩
    refine ⟨⟨p + q, hsum, rfl⟩, ⟨(p + q : ℕ), _⟩, ?_, hcheck⟩
    rw [hrow _ hsum, if_pos storable_of_moneyText]
    rfl

end Agreement

/-- The route and the table accept the same quotes, and minor units are exact: they tell texts
apart, they add up as the decimals do, and they fit the column. -/
theorem quote_money_checks_agree (amount : String) (breakdown : QuoteFeeBreakdown) :
    (QuoteMoneyValid amount breakdown ∧ quoteFeeBreakdownMatchesTotal amount breakdown = .ok true ↔
      MoneyAmountPattern amount ∧ ∃ row ∈ quoteMoneyRow amount breakdown,
        PaymentQuoteBreakdownCheck row.amount row.feeBreakdownJson) ∧
    (∀ a b, MoneyAmountPattern a → MoneyAmountPattern b → toMinorUnits a = toMinorUnits b → a = b) ∧
    (∀ a b c, MoneyAmountPattern a → MoneyAmountPattern b → MoneyAmountPattern c →
      ∃ m n k x y z, toMinorUnits a = .ok m ∧ toMinorUnits b = .ok n ∧ toMinorUnits c = .ok k ∧
        textNumeric a = some x ∧ textNumeric b = some y ∧ textNumeric c = some z ∧
        ((m + n : ℤ) : ℚ) = 100 * (x + y) ∧ (m + n = k ↔ x + y = z)) ∧
    ∀ a, MoneyAmountPattern a → ∃ m, toMinorUnits a = .ok m ∧ 0 ≤ m ∧ m < 10 ^ 14 ∧
      (textNumeric a).bind (fixedPoint 14 2) = some m := by
  refine ⟨quoteMoneyAccepted_iff.trans quoteMoneyRow_check_iff.symm, ?_, ?_, ?_⟩
  · intro a b ha hb h
    obtain ⟨m, hm, rfl⟩ := moneyAmountPattern_iff.mp ha
    obtain ⟨n, hn, rfl⟩ := moneyAmountPattern_iff.mp hb
    rw [toMinorUnits_moneyText hm, toMinorUnits_moneyText hn, Except.ok.injEq] at h
    exact congrArg moneyText (by exact_mod_cast h)
  · intro a b c ha hb hc
    obtain ⟨m, hm, rfl⟩ := moneyAmountPattern_iff.mp ha
    obtain ⟨n, hn, rfl⟩ := moneyAmountPattern_iff.mp hb
    obtain ⟨k, hk, rfl⟩ := moneyAmountPattern_iff.mp hc
    refine ⟨m, n, k, _, _, _, toMinorUnits_moneyText hm, toMinorUnits_moneyText hn,
      toMinorUnits_moneyText hk, textNumeric_moneyText, textNumeric_moneyText,
      textNumeric_moneyText, by push_cast; ring, ?_⟩
    have hcast : (m : ℤ) + n = k ↔ (m : ℚ) + n = k := by exact_mod_cast Iff.rfl
    rw [hcast]
    constructor <;> intro h <;> linarith
  · intro a ha
    obtain ⟨m, hm, rfl⟩ := moneyAmountPattern_iff.mp ha
    refine ⟨m, toMinorUnits_moneyText hm, Int.natCast_nonneg m, by exact_mod_cast hm, ?_⟩
    rw [textNumeric_moneyText, Option.bind_some, fixedPoint_hundredths hm]

end Nayasetu
