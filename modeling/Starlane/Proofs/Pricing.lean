import Starlane.Proofs.Rounding
import Starlane.Proofs.Unique

/-!
# The law of prices

A unit costs the base price where the stock is full and twice that where it is
empty. In between it never costs more for a larger stock, nor less for a higher
base price or percentage, whatever is rounded on the way.
-/

namespace Starlane

namespace Number

variable {q r : Rat}

/-- A half is a fraction of 53 bits, so what is not below it is not rounded below it. -/
theorem half_le_nearest {k : Nat} (few : k < 2 ^ 45) (nonneg : 0 ≤ q)
    (low : (k : Rat) - 1 / 2 ≤ q) : (k : Rat) - 1 / 2 ≤ nearest q := by
  rcases Nat.eq_zero_or_pos k with rfl | positive
  · have rounded := nearest_nonneg nonneg
    push_cast
    linarith
  · have exact : Exact (((2 * k - 1 : Nat) : Rat) / 2 ^ 1) := ⟨_, 1, by omega, rfl⟩
    have value : (((2 * k - 1 : Nat) : Rat) / 2 ^ 1) = (k : Rat) - 1 / 2 := by
      rw [Nat.cast_sub (by omega)]
      push_cast
      ring
    rw [value] at exact
    exact exact.le_nearest low

/-- Between the last hundredth below a half and the half lies a fraction of 53 bits. -/
theorem nearest_hundredths_lt {x k : Nat} (few : k < 2 ^ 45) (under : x < 100 * k + 50) :
    nearest ((x : Rat) / 100) < (k : Rat) + 1 / 2 := by
  have exact : Exact (((128 * k + 63 : Nat) : Rat) / 2 ^ 7) := ⟨_, 7, by omega, rfl⟩
  have last : (x : Rat) ≤ 100 * k + 49 := by
    have whole : x ≤ 100 * k + 49 := by omega
    exact_mod_cast whole
  have rounded : nearest ((x : Rat) / 100) ≤ ((128 * k + 63 : Nat) : Rat) / 2 ^ 7 := by
    refine exact.nearest_le (by positivity) ?_
    push_cast
    linarith
  refine rounded.trans_lt ?_
  push_cast
  linarith

/-- Rounding hundredths to 53 bits does not change the nearest integer: they are
too far from halves. -/
theorem roundAway_nearest_hundredths {x : Nat} (few : x < 2 ^ 45) :
    roundAway (nearest ((x : Rat) / 100)) = roundAway ((x : Rat) / 100) := by
  have nonneg : (0 : Rat) ≤ (x : Rat) / 100 := by positivity
  obtain ⟨low, high⟩ := roundAway_bounds nonneg
  generalize roundAway ((x : Rat) / 100) = n at low high ⊢
  have below : 100 * n - 50 ≤ x := by
    have scaled : ((100 * n - 50 : Int) : Rat) ≤ ((x : Int) : Rat) := by
      push_cast
      linarith
    exact_mod_cast scaled
  have above : (x : Int) < 100 * n + 50 := by
    have scaled : ((x : Int) : Rat) < ((100 * n + 50 : Int) : Rat) := by
      push_cast
      linarith
    exact_mod_cast scaled
  obtain ⟨k, rfl⟩ : ∃ k : Nat, n = k := ⟨n.toNat, by omega⟩
  exact roundAway_eq (nearest_nonneg nonneg) (half_le_nearest (by omega) nonneg low)
    (nearest_hundredths_lt (by omega) (by omega))

theorem toAmount_eq (low : amountMin ≤ roundAway q) (high : roundAway q ≤ amountMax) :
    toAmount q = roundAway q := by
  unfold toAmount clampAmount
  omega

theorem toAmount_natCast {n : Nat} (bound : (n : Int) ≤ amountMax) : toAmount (n : Rat) = n := by
  rw [toAmount_eq, roundAway_natCast]
  · rw [roundAway_natCast]
    unfold amountMin
    omega
  · rw [roundAway_natCast]
    exact bound

theorem toAmount_nearest_hundredths {x : Nat} (few : x < 2 ^ 45) :
    toAmount (nearest ((x : Rat) / 100)) = roundAway ((x : Rat) / 100) := by
  have nonneg : (0 : Rat) ≤ (x : Rat) / 100 := by positivity
  have most : (x : Rat) / 100 ≤ ((2 ^ 45 : Nat) : Rat) :=
    (div_le_self (Nat.cast_nonneg x) (by norm_num)).trans (Nat.cast_le.mpr few.le)
  have low := roundAway_mono le_rfl nonneg
  have high := roundAway_mono nonneg most
  rw [← Nat.cast_zero, roundAway_natCast] at low
  rw [roundAway_natCast] at high
  have same := roundAway_nearest_hundredths few
  rw [toAmount_eq, same]
  · unfold amountMin
    omega
  · unfold amountMax
    omega

/-- Rounding to an amount keeps order. -/
theorem toAmount_mono (nonneg : 0 ≤ q) (le : q ≤ r) : toAmount q ≤ toAmount r := by
  have rounded := roundAway_mono nonneg le
  unfold toAmount clampAmount
  omega

end Number

namespace Price

open Number

/-- The share of a full stock that is missing. -/
def scarcity (baseQty qty : Int) : Rat :=
  nearest (nearest ((baseQty - max 0 (min qty baseQty) : Int) : Rat) / nearest (baseQty : Rat))

variable {basePrice baseQty qty more : Int}

theorem unit_eq (stocked : 0 < baseQty) (basePrice qty : Int) :
    unit basePrice baseQty qty =
      max (toAmount (nearest (nearest ((max basePrice 1 : Int) : Rat) *
        nearest (1 + scarcity baseQty qty)))) 1 := by
  unfold unit
  dsimp only
  rw [if_neg (by omega)]
  rfl

theorem nearest_intCast_nonneg {n : Int} (nonneg : 0 ≤ n) : 0 ≤ nearest (n : Rat) :=
  nearest_nonneg (Int.cast_nonneg nonneg)

theorem scarcity_nonneg (stocked : 0 < baseQty) (qty : Int) : 0 ≤ scarcity baseQty qty :=
  nearest_nonneg
    (div_nonneg (nearest_intCast_nonneg (by omega)) (nearest_intCast_nonneg (by omega)))

/-- A larger stock lacks no larger share. -/
theorem scarcity_antitone (stocked : 0 < baseQty) (le : qty ≤ more) :
    scarcity baseQty more ≤ scarcity baseQty qty := by
  have missing : (0 : Int) ≤ baseQty - max 0 (min more baseQty) := by omega
  have fewer : baseQty - max 0 (min more baseQty) ≤ baseQty - max 0 (min qty baseQty) := by omega
  have whole := nearest_intCast_nonneg stocked.le
  refine nearest_mono (div_nonneg (nearest_intCast_nonneg missing) whole) ?_
  refine div_le_div_of_nonneg_right ?_ whole
  exact nearest_mono (Int.cast_nonneg missing) (Int.cast_le.mpr fewer)

/-- A full stock lacks nothing. -/
theorem scarcity_full (stocked : 0 < baseQty) (full : baseQty ≤ qty) :
    scarcity baseQty qty = 0 := by
  have none : baseQty - max 0 (min qty baseQty) = 0 := by omega
  rw [scarcity, none, Int.cast_zero, nearest_zero, zero_div, nearest_zero]

/-- An empty stock lacks all. -/
theorem scarcity_empty (stocked : 0 < baseQty) : scarcity baseQty 0 = 1 := by
  have all : baseQty - max 0 (min 0 baseQty) = baseQty := by omega
  have one : Exact 1 := ⟨1, 0, by norm_num, by norm_num⟩
  have positive : 0 < nearest (baseQty : Rat) :=
    one_pos.trans_le (one.le_nearest (by exact_mod_cast stocked))
  rw [scarcity, all, div_self positive.ne', one.nearest]

theorem surcharge_nonneg (stocked : 0 < baseQty) (qty : Int) :
    0 ≤ nearest (1 + scarcity baseQty qty) :=
  nearest_nonneg (add_nonneg zero_le_one (scarcity_nonneg stocked qty))

/-- A unit of a larger stock costs no more. -/
theorem unit_antitone (basePrice baseQty : Int) (le : qty ≤ more) :
    unit basePrice baseQty more ≤ unit basePrice baseQty qty := by
  rcases Int.lt_or_le 0 baseQty with stocked | none
  · rw [unit_eq stocked, unit_eq stocked]
    have base : 0 ≤ nearest ((max basePrice 1 : Int) : Rat) := nearest_intCast_nonneg (by omega)
    have short := scarcity_antitone stocked le
    have surcharge : nearest (1 + scarcity baseQty more) ≤ nearest (1 + scarcity baseQty qty) :=
      nearest_mono (add_nonneg zero_le_one (scarcity_nonneg stocked more)) (by linarith)
    have product := mul_nonneg base (surcharge_nonneg stocked more)
    have price := nearest_mono product (mul_le_mul_of_nonneg_left surcharge base)
    exact max_le_max (toAmount_mono (nearest_nonneg product) price) le_rfl
  · simp only [unit, if_pos none, le_refl]

/-- A unit at a higher base price costs no less. -/
theorem unit_mono (baseQty qty : Int) {higher : Int} (le : basePrice ≤ higher) :
    unit basePrice baseQty qty ≤ unit higher baseQty qty := by
  rcases Int.lt_or_le 0 baseQty with stocked | none
  · rw [unit_eq stocked, unit_eq stocked]
    have base : 0 ≤ ((max basePrice 1 : Int) : Rat) := Int.cast_nonneg (by omega)
    have above : nearest ((max basePrice 1 : Int) : Rat) ≤ nearest ((max higher 1 : Int) : Rat) :=
      nearest_mono base (Int.cast_le.mpr (max_le_max le le_rfl))
    have surcharge := surcharge_nonneg stocked qty
    have product := mul_nonneg (nearest_nonneg base) surcharge
    have price := nearest_mono product (mul_le_mul_of_nonneg_right above surcharge)
    exact max_le_max (toAmount_mono (nearest_nonneg product) price) le_rfl
  · simp only [unit, if_pos none]
    omega

section Bounded

variable {base : Nat}

/-- A unit of a full stock costs the base price. -/
theorem unit_full (positive : 1 ≤ base) (bound : base < 2 ^ 52) (full : baseQty ≤ qty) :
    unit base baseQty qty = base := by
  rcases Int.lt_or_le 0 baseQty with stocked | none
  · have one : Exact 1 := ⟨1, 0, by norm_num, by norm_num⟩
    have exact : Exact (base : Rat) := .natCast (by omega)
    have amount : (base : Int) ≤ amountMax := by
      unfold amountMax
      omega
    rw [unit_eq stocked, scarcity_full stocked full, add_zero, one.nearest, mul_one,
      max_eq_left (by omega : (1 : Int) ≤ base), Int.cast_natCast, exact.nearest, exact.nearest,
      toAmount_natCast amount]
    omega
  · rw [unit, if_pos none]
    omega

/-- A unit of an empty stock costs twice the base price. -/
theorem unit_empty (positive : 1 ≤ base) (bound : base < 2 ^ 52) (stocked : 0 < baseQty) :
    unit base baseQty 0 = 2 * base := by
  have two : Exact (1 + 1) := ⟨2, 0, by norm_num, by norm_num⟩
  have exact : Exact (base : Rat) := .natCast (by omega)
  have twice : Exact ((2 * base : Nat) : Rat) := .natCast (by omega)
  have product : (base : Rat) * (1 + 1) = ((2 * base : Nat) : Rat) := by
    push_cast
    ring
  have amount : ((2 * base : Nat) : Int) ≤ amountMax := by
    unfold amountMax
    omega
  rw [unit_eq stocked, scarcity_empty stocked, two.nearest,
    max_eq_left (by omega : (1 : Int) ≤ base), Int.cast_natCast, exact.nearest, product,
    twice.nearest, toAmount_natCast amount]
  omega

/-- A unit costs no less than the base price, and no more than twice that. -/
theorem unit_bounds (positive : 1 ≤ base) (bound : base < 2 ^ 52) (baseQty : Int) {qty : Int}
    (counted : 0 ≤ qty) :
    base ≤ unit base baseQty qty ∧ unit base baseQty qty ≤ 2 * base := by
  have full := unit_full positive bound (le_max_right qty baseQty)
  have low := unit_antitone base baseQty (le_max_left qty baseQty)
  refine ⟨full.ge.trans low, ?_⟩
  rcases Int.lt_or_le 0 baseQty with stocked | none
  · exact unit_empty positive bound stocked ▸ unit_antitone base baseQty counted
  · rw [unit_full positive bound (none.trans counted)]
    omega

end Bounded

/-- The base price with a percentage on it, at least one credit. -/
def scaledBase (basePrice : Nat) (percent : Int) : Int :=
  max 1 (roundAway ((basePrice : Rat) * percent / 100))

/-- The percentage on a commodity is one that pricing applies. -/
theorem percentUnder_bounds (event : Option Event) (c : Commodity) :
    10 ≤ percentUnder event c ∧ percentUnder event c ≤ 300 := by
  unfold percentUnder
  split
  · unfold Event.percentFor pricePercentMin pricePercentMax
    split
    · next applies => exact ⟨applies.2.1, applies.2.2.1⟩
    · omega
  · omega

theorem adjustedBase_eq {basePrice : Nat} (fits : basePrice ≤ counterMax) {percent : Int}
    (low : 10 ≤ percent) (high : percent ≤ 300) :
    adjustedBase basePrice percent = roundAway ((basePrice : Rat) * percent / 100) := by
  unfold counterMax at fits
  obtain ⟨p, rfl⟩ : ∃ p : Nat, percent = p := ⟨percent.toNat, by omega⟩
  have kept : max pricePercentMin (min (p : Int) pricePercentMax) = p := by
    unfold pricePercentMin pricePercentMax
    omega
  have few : basePrice * p < 2 ^ 45 := by
    have most : basePrice * p ≤ 4294967295 * 300 := Nat.mul_le_mul fits (by omega)
    omega
  have product : ((basePrice * p : Nat) : Rat) = (basePrice : Rat) * ((p : Int) : Rat) := by
    push_cast
    rfl
  unfold adjustedBase
  rw [kept]
  dsimp only
  split
  · next whole =>
    have hundred : (basePrice : Rat) * ((p : Int) : Rat) / 100 = basePrice := by
      rw [whole]
      push_cast
      ring
    rw [hundred, roundAway_natCast]
  · have base : Exact (basePrice : Rat) := .natCast (by omega)
    have exact : Exact ((basePrice * p : Nat) : Rat) := .natCast (by omega)
    rw [Int.cast_natCast, base.nearest, ← product, exact.nearest,
      toAmount_nearest_hundredths few]

/-- A hundredth of a base price times a percentage stays small. -/
theorem scaledBase_bound {basePrice : Nat} (fits : basePrice ≤ counterMax) {percent : Int}
    (low : 0 ≤ percent) (high : percent ≤ 300) :
    ∃ base : Nat, scaledBase basePrice percent = base ∧ 1 ≤ base ∧ base < 2 ^ 52 := by
  unfold counterMax at fits
  have nonneg : (0 : Rat) ≤ percent := Int.cast_nonneg low
  have most : (basePrice : Rat) * percent / 100 ≤ ((2 ^ 45 : Nat) : Rat) := by
    have price : (basePrice : Rat) ≤ 4294967295 := by exact_mod_cast fits
    have rate : (percent : Rat) ≤ 300 := by exact_mod_cast high
    have product := mul_le_mul price rate nonneg (by norm_num)
    push_cast
    linarith
  have rounded := roundAway_mono (by positivity) most
  rw [roundAway_natCast] at rounded
  refine ⟨(scaledBase basePrice percent).toNat, ?_⟩
  unfold scaledBase
  omega

/-- A higher base price or percentage makes no lower base price. -/
theorem scaledBase_mono {basePrice higher : Nat} (price : basePrice ≤ higher)
    {percent more : Int} (low : 0 ≤ percent) (rate : percent ≤ more) :
    scaledBase basePrice percent ≤ scaledBase higher more := by
  have nonneg : (0 : Rat) ≤ percent := Int.cast_nonneg low
  have product : (basePrice : Rat) * percent ≤ (higher : Rat) * more :=
    mul_le_mul (Nat.cast_le.mpr price) (Int.cast_le.mpr rate) nonneg (Nat.cast_nonneg higher)
  exact max_le_max le_rfl (roundAway_mono (by positivity) (by linarith))

/-- The price of a unit of a stock, from the base price with the percentage on it. -/
theorem ofStock_eq {stock : Stock} (fits : stock.Fits) (c : Commodity) (event : Option Event) :
    ofStock stock c event =
      unit (scaledBase stock.basePrice (percentUnder event c)) stock.baseQty stock.qty := by
  obtain ⟨low, high⟩ := percentUnder_bounds event c
  have floor : ∀ price : Int, max (max 1 price) 1 = max price 1 := by omega
  unfold ofStock unitWithPercent
  rw [adjustedBase_eq fits.basePrice low high, scaledBase]
  unfold unit
  rw [floor]

end Price

/-- With the base price of a stock under an event meaning the exact percentage of
it, rounded, and one credit at least: a unit costs no less than that and no more
than twice that, just that where the stock is full and just twice that where it is
empty. It costs no more where the stock is larger, and no less where the base price
or the percentage is higher. -/
theorem prices_follow_stock {stock : Stock} (fits : stock.Fits) (c : Commodity)
    (event : Option Event) :
    Price.scaledBase stock.basePrice (Price.percentUnder event c) ≤ Price.ofStock stock c event ∧
    Price.ofStock stock c event ≤
      2 * Price.scaledBase stock.basePrice (Price.percentUnder event c) ∧
    (stock.baseQty ≤ stock.qty → Price.ofStock stock c event =
      Price.scaledBase stock.basePrice (Price.percentUnder event c)) ∧
    (stock.qty = 0 → 0 < stock.baseQty → Price.ofStock stock c event =
      2 * Price.scaledBase stock.basePrice (Price.percentUnder event c)) ∧
    (∀ qty, stock.qty ≤ qty →
      Price.ofStock { stock with qty } c event ≤ Price.ofStock stock c event) ∧
    (∀ basePrice, stock.basePrice ≤ basePrice → basePrice ≤ counterMax →
      Price.ofStock stock c event ≤ Price.ofStock { stock with basePrice } c event) ∧
    ∀ d other, Price.percentUnder event c ≤ Price.percentUnder other d →
      Price.ofStock stock c event ≤ Price.ofStock stock d other := by
  obtain ⟨low, high⟩ := Price.percentUnder_bounds event c
  obtain ⟨base, scaled, positive, bound⟩ :=
    Price.scaledBase_bound fits.basePrice (by omega : 0 ≤ Price.percentUnder event c) high
  have price := Price.ofStock_eq fits c event
  rw [scaled] at price ⊢
  obtain ⟨least, most⟩ :=
    Price.unit_bounds positive bound stock.baseQty (Int.natCast_nonneg stock.qty)
  refine ⟨price ▸ least, price ▸ most, fun full => ?_, fun clear stocked => ?_, fun qty more => ?_,
    fun basePrice higher limit => ?_, fun d other rate => ?_⟩
  · rw [price]
    exact Price.unit_full positive bound (Int.ofNat_le.mpr full)
  · rw [price, clear]
    exact Price.unit_empty positive bound (Int.ofNat_lt.mpr stocked)
  · exact Price.unit_antitone _ _ (Int.ofNat_le.mpr more)
  · have raised : ({ stock with basePrice } : Stock).Fits := ⟨fits.qty, fits.baseQty, limit⟩
    rw [price, ← scaled, Price.ofStock_eq raised]
    exact Price.unit_mono _ _ (Price.scaledBase_mono higher (by omega) le_rfl)
  · rw [price, ← scaled, Price.ofStock_eq fits]
    exact Price.unit_mono _ _ (Price.scaledBase_mono le_rfl (by omega) rate)

/-- At a base price of ten a unit of an empty stock costs twenty, and a unit of a
half empty one no more. -/
theorem prices_follow_stock_empty :
    Price.ofStock ⟨.sell, 0, 1000, 10, 25⟩ .ore none = 20 ∧
      Price.ofStock ⟨.sell, 500, 1000, 10, 25⟩ .ore none ≤ 20 := by
  have fits : (⟨.sell, 0, 1000, 10, 25⟩ : Stock).Fits :=
    ⟨by decide, by decide, by decide⟩
  have base : Price.scaledBase 10 (Price.percentUnder none .ore) = 10 := by decide +kernel
  obtain ⟨_, _, _, empty, larger, _⟩ := prices_follow_stock fits .ore none
  have price := empty rfl (by decide)
  rw [base] at price
  exact ⟨price, (larger 500 (by decide)).trans price.le⟩

end Starlane
