import Mathlib.Data.Rat.Floor

/-!
# Fixed-point columns

What a `numeric(precision, scale)` column keeps of a number: the nearest multiple of the last
place, halves away from zero, and nothing if that has more digits than the precision allows.
Values of such a column are counted in units of the last place.

A number with more places than the column has is not refused but rounded, and only then is the
precision looked at: a number just below the bound may round up to one that does not fit.
`truncAt` is the other way to lose places, towards zero.
-/

namespace Values

/-- The nearest integer, halves away from zero. -/
def roundHalfAway (x : ℚ) : ℤ := if 0 ≤ x then (x + 1 / 2).floor else -(-x + 1 / 2).floor

/-- `x` in a `numeric(precision, scale)` column. -/
def fixedPoint (precision scale : ℕ) (x : ℚ) : Option ℤ :=
  let units := roundHalfAway (x * 10 ^ scale)
  if units.natAbs < 10 ^ precision then some units else none

/-- `trunc(x, scale)`: toward zero. -/
def truncAt (scale : ℕ) (x : ℚ) : ℚ :=
  if 0 ≤ x then (x * 10 ^ scale).floor / 10 ^ scale else -((-x * 10 ^ scale).floor / 10 ^ scale)

end Values
