import Mathlib.Data.Int.Cast.Basic
import Nayasetu.Failure

/-!
# Quoted amounts

Amounts of money travel as texts with exactly two decimals and are compared in minor units.

The pattern admits at most twelve digits before the point and no leading zeros, so an amount has
one text. Minor units are `bigint`s in the source and integers here; no amount is ever rounded.
-/

namespace Nayasetu

def isDecimalDigit (c : Char) : Bool := '0' ≤ c ∧ c ≤ '9'

/-- `0|[1-9]\d{0,11}`. -/
def isWholeAmount : List Char → Bool
  | [] => false
  | ['0'] => true
  | c :: cs => c ≠ '0' && isDecimalDigit c && cs.all isDecimalDigit && cs.length ≤ 11

/-- The parts of a text before and after its first point. -/
def splitAtPoint (text : String) : List Char × List Char :=
  let whole := text.toList.takeWhile (· ≠ '.')
  (whole, text.toList.drop (whole.length + 1))

/-- `MONEY_AMOUNT_PATTERN`, which `payment_quote_breakdown_check` writes the same way:
`^(?:0|[1-9]\d{0,11})\.\d{2}$`. -/
def MoneyAmountPattern (text : String) : Prop :=
  isWholeAmount (splitAtPoint text).1 = true ∧ '.' ∈ text.toList ∧
    (splitAtPoint text).2.length = 2 ∧ (splitAtPoint text).2.all isDecimalDigit = true

instance (text : String) : Decidable (MoneyAmountPattern text) :=
  inferInstanceAs (Decidable (_ ∧ _))

/-- The number that decimal digits denote. -/
def digitsValue (digits : List Char) : ℕ :=
  digits.foldl (fun n c ↦ 10 * n + (c.toNat - '0'.toNat)) 0

/-- `toMinorUnits`, of a text with the pattern. -/
def minorUnits (text : String) : ℤ :=
  (digitsValue (splitAtPoint text).1 : ℤ) * 100 + digitsValue (splitAtPoint text).2

/-- `toMinorUnits`. -/
def toMinorUnits (text : String) : Except Failure ℤ := do
  require (MoneyAmountPattern text)
    (.error "Money amount must be a non-negative decimal with exactly two decimals")
  return minorUnits text

/-- What a quote discloses. -/
structure QuoteFeeBreakdown where
  professionalFee : String
  processingFee : String
  platformCommission : String
  deriving DecidableEq, Repr

/-- `quoteFeeBreakdownMatchesTotal`. -/
def quoteFeeBreakdownMatchesTotal (total : String) (breakdown : QuoteFeeBreakdown) :
    Except Failure Bool := do
  let platformCommission ← toMinorUnits breakdown.platformCommission
  if platformCommission ≠ 0 then return false
  let professionalFee ← toMinorUnits breakdown.professionalFee
  let processingFee ← toMinorUnits breakdown.processingFee
  return professionalFee + processingFee = (← toMinorUnits total)

theorem toMinorUnits_eq_error {text : String} {e : Failure} (h : toMinorUnits text = .error e) :
    e = .error "Money amount must be a non-negative decimal with exactly two decimals" := by
  rw [toMinorUnits, bind_eq_error_iff] at h
  rcases h with h | ⟨_, -, h⟩
  · exact eq_of_require_eq_error h
  · cases h

theorem quoteFeeBreakdownMatchesTotal_eq_error {total : String} {breakdown : QuoteFeeBreakdown}
    {e : Failure} (h : quoteFeeBreakdownMatchesTotal total breakdown = .error e) :
    e = .error "Money amount must be a non-negative decimal with exactly two decimals" := by
  rw [quoteFeeBreakdownMatchesTotal, bind_eq_error_iff] at h
  rcases h with h | ⟨platformCommission, -, h⟩
  · exact toMinorUnits_eq_error h
  split at h
  · cases h
  rw [bind_eq_error_iff] at h
  rcases h with h | ⟨professionalFee, -, h⟩
  · exact toMinorUnits_eq_error h
  rw [bind_eq_error_iff] at h
  rcases h with h | ⟨processingFee, -, h⟩
  · exact toMinorUnits_eq_error h
  rw [bind_eq_error_iff] at h
  rcases h with h | ⟨amount, -, h⟩
  · exact toMinorUnits_eq_error h
  · cases h

end Nayasetu
