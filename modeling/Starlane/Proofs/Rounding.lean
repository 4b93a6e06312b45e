import Mathlib.Algebra.Order.Field.Power
import Mathlib.Data.Rat.Floor
import Mathlib.Tactic.Linarith
import Mathlib.Tactic.NormNum
import Mathlib.Tactic.Positivity
import Mathlib.Tactic.Ring
import Starlane.Number.Binary64

/-!
# Rounding keeps order

Doubles with at most 53 significant bits are rounded to themselves, and a larger
number is never rounded to a smaller one. So a rounded number stays between the
doubles that the exact one is between, which is all that prices need. The numbers
here are not negative.
-/

namespace Starlane.Number

variable {q r : Rat}

private theorem two_ne_zero : (2 : Rat) ≠ 0 := by decide

theorem two_zpow_pos (e : Int) : (0 : Rat) < (2 : Rat) ^ e :=
  Rat.zpow_pos (by decide)

theorem two_zpow_shift (k : Nat) (e : Int) :
    (2 : Rat) ^ (e + k) = ((2 ^ k : Int) : Rat) * 2 ^ e := by
  rw [Int.cast_pow, Int.cast_ofNat, ← Rat.zpow_natCast, ← Rat.zpow_add two_ne_zero, Int.add_comm]

/-- The power of two below a natural number. -/
theorem log2_bounds {n : Nat} (positive : 0 < n) :
    (2 : Rat) ^ (n.log2 : Int) ≤ n ∧ (n : Rat) < 2 ^ ((n.log2 : Int) + 1) := by
  constructor
  · rw [Rat.zpow_natCast]
    exact_mod_cast Nat.log2_self_le (Nat.ne_of_gt positive)
  · have above : n < 2 ^ (n.log2 + 1) := Nat.lt_log2_self
    have cast : ((n.log2 : Int) + 1) = ((n.log2 + 1 : Nat) : Int) := by omega
    rw [cast, Rat.zpow_natCast]
    exact_mod_cast above

/-- The quotient of numbers in two binades is in one of two binades. -/
theorem quotient_bounds (positive : 0 < q) {e : Int}
    (exponent : (q.num.natAbs.log2 : Int) - (q.den.log2 : Int) = e) :
    (2 : Rat) ^ (e - 1) ≤ q ∧ q < (2 : Rat) ^ (e + 1) := by
  have top : 0 < q.num.natAbs := Int.natAbs_pos.mpr (Rat.num_pos.mpr positive).ne'
  have den : (0 : Rat) < q.den := Nat.cast_pos.mpr q.den_pos
  have value : q * q.den = q.num.natAbs := by
    rw [Rat.mul_den_eq_num, ← Int.cast_natCast,
      Int.natAbs_of_nonneg (Rat.num_nonneg.mpr positive.le)]
  obtain ⟨lowN, highN⟩ := log2_bounds top
  obtain ⟨lowD, highD⟩ := log2_bounds q.den_pos
  constructor
  · refine le_of_mul_le_mul_right ?_ den
    calc (2 : Rat) ^ (e - 1) * q.den ≤ 2 ^ (e - 1) * 2 ^ ((q.den.log2 : Int) + 1) :=
          mul_le_mul_of_nonneg_left highD.le (two_zpow_pos _).le
      _ = 2 ^ (q.num.natAbs.log2 : Int) := by
        rw [← Rat.zpow_add two_ne_zero]
        congr 1
        omega
      _ ≤ q * q.den := value ▸ lowN
  · refine lt_of_mul_lt_mul_right ?_ den.le
    calc q * q.den < 2 ^ ((q.num.natAbs.log2 : Int) + 1) := value ▸ highN
      _ = 2 ^ (e + 1) * 2 ^ (q.den.log2 : Int) := by
        rw [← Rat.zpow_add two_ne_zero]
        congr 1
        omega
      _ ≤ 2 ^ (e + 1) * q.den := mul_le_mul_of_nonneg_left lowD (two_zpow_pos _).le

/-- A positive rational is in its binade. -/
theorem binade_bounds (positive : 0 < q) :
    (2 : Rat) ^ binade q ≤ q ∧ q < (2 : Rat) ^ (binade q + 1) := by
  generalize exponent : (q.num.natAbs.log2 : Int) - (q.den.log2 : Int) = e
  obtain ⟨below, above⟩ := quotient_bounds positive exponent
  unfold binade
  rw [exponent]
  dsimp only
  split
  · next smaller =>
    rw [Int.sub_add_cancel]
    exact ⟨below, smaller⟩
  · next larger => exact ⟨not_lt.mp larger, above⟩

/-- A larger rational is in no lower binade. -/
theorem binade_mono (positive : 0 < q) (le : q ≤ r) : binade q ≤ binade r := by
  have low := (binade_bounds positive).1
  have high := (binade_bounds (positive.trans_le le)).2
  have powers : (2 : Rat) ^ binade q < 2 ^ (binade r + 1) := low.trans_lt (le.trans_lt high)
  have exponents := (zpow_lt_zpow_iff_right₀ (by norm_num : (1 : Rat) < 2)).mp powers
  omega

section Integers

theorem roundEven_bounds (q : Rat) : q.floor ≤ roundEven q ∧ roundEven q ≤ q.floor + 1 := by
  unfold roundEven
  dsimp only
  split_ifs <;> omega

/-- Rounding to the nearest integer keeps order. -/
theorem roundEven_mono (le : q ≤ r) : roundEven q ≤ roundEven r := by
  rcases (Rat.floor_monotone le).eq_or_lt with same | less
  · have rest : q - q.floor ≤ r - r.floor := by
      rw [same]
      exact sub_le_sub_right le _
    unfold roundEven
    dsimp only
    rw [same] at rest ⊢
    split_ifs <;> first | omega | (exfalso; linarith)
  · have first := (roundEven_bounds q).2
    have second := (roundEven_bounds r).1
    omega

@[simp]
theorem roundEven_intCast (n : Int) : roundEven (n : Rat) = n := by
  unfold roundEven
  rw [Rat.floor_intCast]
  norm_num

theorem roundAway_of_nonneg (nonneg : 0 ≤ q) : roundAway q = (q + 1 / 2).floor :=
  if_neg (not_lt.mpr nonneg)

/-- What is nearer to an integer than to others is rounded to it, and so is a half
above the one below. -/
theorem roundAway_eq {n : Int} (nonneg : 0 ≤ q) (low : (n : Rat) - 1 / 2 ≤ q)
    (high : q < (n : Rat) + 1 / 2) : roundAway q = n := by
  rw [roundAway_of_nonneg nonneg]
  refine le_antisymm (Int.lt_add_one_iff.mp ?_) (Rat.le_floor_iff.mpr (by linarith))
  refine Rat.floor_lt_iff.mpr ?_
  push_cast
  linarith

theorem roundAway_mono (nonneg : 0 ≤ q) (le : q ≤ r) : roundAway q ≤ roundAway r := by
  rw [roundAway_of_nonneg nonneg, roundAway_of_nonneg (nonneg.trans le)]
  exact Rat.floor_monotone (by linarith)

theorem roundAway_natCast (n : Nat) : roundAway (n : Rat) = n := by
  have nonneg : (0 : Rat) ≤ n := Nat.cast_nonneg n
  refine roundAway_eq nonneg ?_ ?_ <;> push_cast <;> linarith

/-- The nearest integer is less than one half away. -/
theorem roundAway_bounds (nonneg : 0 ≤ q) :
    (roundAway q : Rat) - 1 / 2 ≤ q ∧ q < (roundAway q : Rat) + 1 / 2 := by
  rw [roundAway_of_nonneg nonneg]
  have low := Rat.floor_le (q + 1 / 2)
  have high := Rat.lt_floor_add_one (q + 1 / 2)
  push_cast at high
  constructor <;> linarith

end Integers

theorem nearest_zero : nearest 0 = 0 :=
  if_pos rfl

theorem nearest_of_pos (positive : 0 < q) :
    nearest q = roundEven (q / 2 ^ (binade q - 52)) * 2 ^ (binade q - 52) := by
  unfold nearest lastBit
  rw [if_neg positive.ne', if_neg (not_lt.mpr positive.le)]

/-- A number is rounded within its binade, or to the end of it. -/
theorem nearest_bounds (positive : 0 < q) :
    (2 : Rat) ^ binade q ≤ nearest q ∧ nearest q ≤ (2 : Rat) ^ (binade q + 1) := by
  obtain ⟨low, high⟩ := binade_bounds positive
  have bit := two_zpow_pos (binade q - 52)
  have first : (2 : Rat) ^ binade q = ((2 ^ 52 : Int) : Rat) * 2 ^ (binade q - 52) := by
    rw [← two_zpow_shift, Nat.cast_ofNat, Int.sub_add_cancel]
  have last : (2 : Rat) ^ (binade q + 1) = ((2 ^ 53 : Int) : Rat) * 2 ^ (binade q - 52) := by
    rw [← two_zpow_shift]
    congr 1
    omega
  rw [nearest_of_pos positive, first, last]
  rw [first] at low
  rw [last] at high
  constructor
  · refine mul_le_mul_of_nonneg_right (Int.cast_le.mpr ?_) bit.le
    have bits := roundEven_mono ((le_div_iff₀ bit).mpr low)
    rwa [roundEven_intCast] at bits
  · refine mul_le_mul_of_nonneg_right (Int.cast_le.mpr ?_) bit.le
    have bits := roundEven_mono ((div_le_iff₀ bit).mpr high.le)
    rwa [roundEven_intCast] at bits

theorem nearest_nonneg (nonneg : 0 ≤ q) : 0 ≤ nearest q := by
  rcases nonneg.eq_or_lt with rfl | positive
  · exact nearest_zero.ge
  · exact (two_zpow_pos _).le.trans (nearest_bounds positive).1

/-- Rounding to 53 bits keeps order. -/
theorem nearest_mono (nonneg : 0 ≤ q) (le : q ≤ r) : nearest q ≤ nearest r := by
  rcases nonneg.eq_or_lt with rfl | positive
  · rw [nearest_zero]
    exact nearest_nonneg le
  · have greater := positive.trans_le le
    rcases (binade_mono positive le).eq_or_lt with same | less
    · rw [nearest_of_pos positive, nearest_of_pos greater, ← same]
      have bit := two_zpow_pos (binade q - 52)
      refine mul_le_mul_of_nonneg_right (Int.cast_le.mpr (roundEven_mono ?_)) bit.le
      exact div_le_div_of_nonneg_right le bit.le
    -- Between two binades lies a power of two.
    · calc nearest q ≤ 2 ^ (binade q + 1) := (nearest_bounds positive).2
        _ ≤ 2 ^ binade r := zpow_le_zpow_right₀ (by norm_num) less
        _ ≤ nearest r := (nearest_bounds greater).1

/-- Whether a rational is a fraction of 53 bits and so rounded to itself. -/
def Exact (q : Rat) : Prop :=
  ∃ m k : Nat, m < 2 ^ 53 ∧ q = m / 2 ^ k

namespace Exact

theorem natCast {n : Nat} (few : n < 2 ^ 53) : Exact n :=
  ⟨n, 0, few, by simp⟩

theorem nonneg (exact : Exact q) : 0 ≤ q := by
  obtain ⟨m, k, _, rfl⟩ := exact
  positivity

theorem nearest (exact : Exact q) : nearest q = q := by
  rcases exact.nonneg.eq_or_lt with rfl | positive
  · exact nearest_zero
  obtain ⟨m, k, few, value⟩ := exact
  have scale : q * 2 ^ (k : Int) = m := by
    rw [value, Rat.zpow_natCast]
    exact div_mul_cancel₀ _ (by positivity)
  have low := (binade_bounds positive).1
  -- The last bit of the number divides the last bit of its numerator.
  have small : binade q + k < 53 := by
    refine (zpow_lt_zpow_iff_right₀ (by norm_num : (1 : Rat) < 2)).mp ?_
    calc (2 : Rat) ^ (binade q + k) = 2 ^ binade q * 2 ^ (k : Int) := Rat.zpow_add two_ne_zero _ _
      _ ≤ q * 2 ^ (k : Int) := mul_le_mul_of_nonneg_right low (two_zpow_pos _).le
      _ = m := scale
      _ < 2 ^ (53 : Int) := by exact_mod_cast few
  obtain ⟨t, shift⟩ : ∃ t : Nat, binade q - 52 + k + t = 0 := ⟨(52 - k - binade q).toNat, by omega⟩
  have whole : q / 2 ^ (binade q - 52) = ((m * 2 ^ t : Nat) : Int) := by
    rw [div_eq_iff (two_zpow_pos _).ne']
    push_cast
    rw [← scale, ← Rat.zpow_natCast, mul_assoc, mul_assoc, ← Rat.zpow_add two_ne_zero,
      ← Rat.zpow_add two_ne_zero]
    have none : (k : Int) + (t + (binade q - 52)) = 0 := by omega
    rw [none, Rat.zpow_zero, mul_one]
  rw [nearest_of_pos positive, whole, roundEven_intCast, ← whole]
  exact div_mul_cancel₀ _ (two_zpow_pos _).ne'

/-- No number is rounded past a fraction of 53 bits below it. -/
theorem le_nearest (exact : Exact q) (le : q ≤ r) : q ≤ Number.nearest r :=
  exact.nearest.symm.le.trans (nearest_mono exact.nonneg le)

/-- No number is rounded past a fraction of 53 bits above it. -/
theorem nearest_le (exact : Exact r) (nonneg : 0 ≤ q) (le : q ≤ r) : Number.nearest q ≤ r :=
  (nearest_mono nonneg le).trans exact.nearest.le

end Exact

end Starlane.Number
