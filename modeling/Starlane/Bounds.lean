/-!
# Ranges of counters and amounts

Counters (stock, turns, levels, sector numbers) are natural numbers that the game keeps below
`2 ^ 32`; amounts (credits, experience, prices, times) are integers that it keeps in the range of
signed 64-bit words.  The operations that stop at an end of a range are named here.
-/

namespace Starlane

/-- The largest value of a counter. -/
def counterMax : Nat := 4294967295

/-- The largest identifier. -/
def identifierMax : Nat := 18446744073709551615

/-- The largest amount. -/
def amountMax : Int := 9223372036854775807

/-- The smallest amount. -/
def amountMin : Int := -9223372036854775808

/-- A sum of counters that stops at `counterMax`. -/
def addCapped (a b : Nat) : Nat :=
  min (a + b) counterMax

/-- The nearest amount to an integer. -/
def clampAmount (x : Int) : Int :=
  max amountMin (min x amountMax)

theorem addCapped_le (a b : Nat) : addCapped a b ≤ counterMax :=
  Nat.min_le_right _ _

theorem addCapped_eq_add {a b : Nat} (h : a + b ≤ counterMax) : addCapped a b = a + b :=
  Nat.min_eq_left h

end Starlane
