import Starlane.Bounds

/-!
# Binary64 rounding of exact rationals

Prices and the profit of a route are computed in double precision.  Here each such operation is an
exact rational operation followed by `nearest`, the rounding to 53 significant bits.  The values
of this game lie between `2 ^ -63` and `2 ^ 73`, far inside the exponent range, so no operation
overflows or loses bits to a small exponent.
-/

namespace Starlane.Number

/-- The exponent `e` with `2 ^ e ≤ q < 2 ^ (e + 1)`, for a positive rational. -/
def binade (q : Rat) : Int :=
  let e : Int := (q.num.natAbs.log2 : Int) - (q.den.log2 : Int)
  if q < (2 : Rat) ^ e then e - 1 else e

/-- The nearest integer; of two equally near ones the even. -/
def roundEven (q : Rat) : Int :=
  let below := q.floor
  let rest := q - below
  if rest < 1 / 2 then below
  else if 1 / 2 < rest then below + 1
  else if below % 2 = 0 then below else below + 1

/-- The nearest integer; of two equally near ones the farther from zero. -/
def roundAway (q : Rat) : Int :=
  if q < 0 then -((1 / 2 - q).floor) else (q + 1 / 2).floor

/-- The weight of the last of 53 significant bits of a rational. -/
def lastBit (q : Rat) : Rat :=
  (2 : Rat) ^ (binade (if q < 0 then -q else q) - 52)

/-- The nearest rational with 53 significant bits; of two equally near ones the one whose last bit
is zero. -/
def nearest (q : Rat) : Rat :=
  if q = 0 then 0 else roundEven (q / lastBit q) * lastBit q

/-- A rational as a credit amount: the nearest integer, halves away from zero, kept in range. -/
def toAmount (q : Rat) : Int :=
  clampAmount (roundAway q)

/-- A nonnegative rational with two decimal places, the nearest such number; a tie goes to the
even last digit. -/
def twoPlaces (q : Rat) : String :=
  let hundredths := (roundEven (q * 100)).toNat
  let cents := hundredths % 100
  let padding := if cents < 10 then "0" else ""
  s!"{hundredths / 100}.{padding}{cents}"

end Starlane.Number
