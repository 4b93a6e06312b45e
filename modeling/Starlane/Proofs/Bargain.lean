import Starlane.Proofs.Flight
import Starlane.Proofs.Ledger
import Starlane.Proofs.Pricing
import Starlane.Proofs.Range

/-!
# Trades at a counter

A trade reads and changes one port and one player's hold, credits and turns. Two
trades one after the other can be made as one, which leaves the same goods on both
sides: the second one is never at a better price for the player, and it costs a
turn of its own.
-/

namespace Starlane

namespace TradeSide

/-- The units on board after a trade of some. -/
def held : TradeSide → Nat → Nat → Nat
  | buy, held, qty => held + qty
  | sell, held, qty => held - qty

/-- The units in stock after a trade of some. -/
def stored : TradeSide → Nat → Nat → Nat
  | buy, stored, qty => stored - qty
  | sell, stored, qty => stored + qty

theorem held_held (side : TradeSide) (units qty more : Nat) :
    side.held (side.held units qty) more = side.held units (qty + more) := by
  cases side with
  | buy => exact Nat.add_assoc _ _ _
  | sell => exact Nat.sub_sub _ _ _

theorem stored_stored (side : TradeSide) (units qty more : Nat) :
    side.stored (side.stored units qty) more = side.stored units (qty + more) := by
  cases side with
  | buy => exact Nat.sub_sub _ _ _
  | sell => exact Nat.add_assoc _ _ _

/-- The credits after a trade with a total. -/
def purse : TradeSide → Int → Int → Int
  | buy, credits, total => credits - total
  | sell, credits, total => credits + total

end TradeSide

/-- A port, and what a player has who trades there. -/
structure Counter where
  port : Port
  cargo : Goods Nat
  cargoMax : Nat
  credits : Int
  turns : Nat

/-- A player at a port. -/
def Player.counter (player : Player) (port : Port) : Counter :=
  ⟨port, player.cargo, player.cargoMax, player.credits, player.turns⟩

namespace Counter

/-- The price of a unit. -/
def price (counter : Counter) (event : Option Event) (c : Commodity) : Int :=
  Price.ofStock (counter.port.stock c) c event

/-- Whether the port and the player can make a trade. -/
def Allows (counter : Counter) (event : Option Event) (c : Commodity) (qty : Nat) :
    TradeSide → Prop
  | .buy => (counter.port.stock c).mode = .sell ∧ qty ≤ (counter.port.stock c).qty ∧
      qty ≤ counter.cargoMax - counter.cargo.total ∧
      counter.price event c * qty ≤ counter.credits
  | .sell => (counter.port.stock c).mode = .buy ∧ qty ≤ counter.cargo.get c ∧
      (counter.port.stock c).qty + qty ≤ (counter.port.stock c).baseQty

/-- What a trade makes of both sides. -/
def traded (counter : Counter) (event : Option Event) (c : Commodity) (qty : Nat) (cost : Nat)
    (side : TradeSide) : Counter where
  port := counter.port.setQty c (side.stored (counter.port.stock c).qty qty)
  cargo := counter.cargo.set c (side.held (counter.cargo.get c) qty)
  cargoMax := counter.cargoMax
  credits := side.purse counter.credits (counter.price event c * qty)
  turns := counter.turns - cost

/-- Whether one counter has the same goods as another one, and the player no fewer
credits and turns. -/
structure Tops (counter other : Counter) : Prop where
  port : counter.port = other.port
  cargo : counter.cargo = other.cargo
  credits : other.credits ≤ counter.credits
  turns : other.turns ≤ counter.turns

theorem Tops.refl (counter : Counter) : counter.Tops counter :=
  ⟨rfl, rfl, le_rfl, le_rfl⟩

theorem Tops.trans {counter mid other : Counter} (first : counter.Tops mid)
    (second : mid.Tops other) : counter.Tops other where
  port := first.port.trans second.port
  cargo := first.cargo.trans second.cargo
  credits := second.credits.trans first.credits
  turns := second.turns.trans first.turns

variable {counter : Counter} {event : Option Event} {c : Commodity} {qty more cost : Nat}

theorem stock_setQty (port : Port) (c : Commodity) (qty : Nat) :
    (port.setQty c qty).stock c = { port.stock c with qty } :=
  (port.setQty_stock c c qty).trans (if_pos rfl)

/-- The stock after a trade. -/
theorem traded_stock (side : TradeSide) :
    (counter.traded event c qty cost side).port.stock c =
      { counter.port.stock c with qty := side.stored (counter.port.stock c).qty qty } :=
  stock_setQty _ _ _

theorem setQty_setQty (port : Port) (c : Commodity) (first second : Nat) :
    (port.setQty c first).setQty c second = port.setQty c second := by
  cases c <;> rfl

theorem set_set (goods : Goods Nat) (c : Commodity) (first second : Nat) :
    (goods.set c first).set c second = goods.set c second := by
  cases c <;> rfl

/-- A purchase makes the next unit no cheaper. -/
theorem price_bought :
    counter.price event c ≤ (counter.traded event c qty cost .buy).price event c := by
  unfold price
  rw [traded_stock]
  exact Price.unit_antitone _ _ (Int.ofNat_le.mpr (Nat.sub_le _ _))

/-- A sale makes the next unit no dearer. -/
theorem price_sold :
    (counter.traded event c qty cost .sell).price event c ≤ counter.price event c := by
  unfold price
  rw [traded_stock]
  exact Price.unit_antitone _ _ (Int.ofNat_le.mpr (Nat.le_add_right _ _))

/-- Two trades leave the goods of one. -/
theorem traded_traded (side : TradeSide) :
    ((counter.traded event c qty cost side).traded event c more cost side).port =
        (counter.traded event c (qty + more) cost side).port ∧
      ((counter.traded event c qty cost side).traded event c more cost side).cargo =
        (counter.traded event c (qty + more) cost side).cargo := by
  constructor
  · change (counter.port.setQty c _).setQty c _ = counter.port.setQty c _
    rw [setQty_setQty, traded_stock, side.stored_stored]
  · change (counter.cargo.set c _).set c (side.held ((counter.cargo.set c _).get c) more) =
      counter.cargo.set c _
    rw [set_set, Goods.get_set_self, side.held_held]

/-- What is bought fits into the hold, and so does what is bought then. -/
theorem total_bought (bound : counter.cargoMax ≤ counterMax) (positive : 1 ≤ qty)
    (first : qty ≤ counter.cargoMax - counter.cargo.total)
    (second : more ≤ counter.cargoMax - (counter.traded event c qty cost .buy).cargo.total) :
    qty + more ≤ counter.cargoMax - counter.cargo.total := by
  have units := counter.cargo.units_set c (counter.cargo.get c + qty)
  change more ≤ counter.cargoMax - (counter.cargo.set c (counter.cargo.get c + qty)).total at second
  rw [Goods.total_eq_min] at first second ⊢
  omega

/-- Two purchases can be made as one, for no more. -/
theorem merge_bought (bound : counter.cargoMax ≤ counterMax) (positive : 1 ≤ qty)
    (first : counter.Allows event c qty .buy)
    (second : (counter.traded event c qty cost .buy).Allows event c more .buy) :
    counter.Allows event c (qty + more) .buy ∧
      counter.price event c * (qty + more : Nat) ≤ counter.price event c * qty +
        (counter.traded event c qty cost .buy).price event c * more := by
  obtain ⟨selling, stocked, roomy, funded⟩ := first
  obtain ⟨_, stocked', roomy', funded'⟩ := second
  rw [traded_stock] at stocked'
  have dearer : counter.price event c * more ≤
      (counter.traded event c qty cost .buy).price event c * more :=
    mul_le_mul_of_nonneg_right price_bought (Int.natCast_nonneg more)
  have total : counter.price event c * (qty + more : Nat) =
      counter.price event c * qty + counter.price event c * more := by
    rw [Int.natCast_add, mul_add]
  have paid : (counter.traded event c qty cost .buy).credits =
    counter.credits - counter.price event c * qty := rfl
  change more ≤ (counter.port.stock c).qty - qty at stocked'
  exact ⟨⟨selling, by omega, total_bought bound positive roomy roomy', by omega⟩, by omega⟩

/-- Two sales can be made as one, for no less. -/
theorem merge_sold (first : counter.Allows event c qty .sell)
    (second : (counter.traded event c qty cost .sell).Allows event c more .sell) :
    counter.Allows event c (qty + more) .sell ∧
      counter.price event c * qty + (counter.traded event c qty cost .sell).price event c * more ≤
        counter.price event c * (qty + more : Nat) := by
  obtain ⟨buying, carried, demanded⟩ := first
  obtain ⟨_, carried', demanded'⟩ := second
  have cheaper : (counter.traded event c qty cost .sell).price event c * more ≤
      counter.price event c * more :=
    mul_le_mul_of_nonneg_right price_sold (Int.natCast_nonneg more)
  have total : counter.price event c * (qty + more : Nat) =
      counter.price event c * qty + counter.price event c * more := by
    rw [Int.natCast_add, mul_add]
  have left : (counter.traded event c qty cost .sell).cargo.get c = counter.cargo.get c - qty :=
    Goods.get_set_self _ _ _
  rw [left] at carried'
  rw [traded_stock] at demanded'
  change (counter.port.stock c).qty + qty + more ≤ (counter.port.stock c).baseQty at demanded'
  exact ⟨⟨buying, by omega, by omega⟩, by omega⟩

/-- Two trades can be made as one, which leaves the same goods and no fewer credits
and turns. -/
theorem merge {side : TradeSide} (bound : counter.cargoMax ≤ counterMax) (positive : 1 ≤ qty)
    (first : counter.Allows event c qty side)
    (second : (counter.traded event c qty cost side).Allows event c more side) :
    counter.Allows event c (qty + more) side ∧
      (counter.traded event c (qty + more) cost side).Tops
        ((counter.traded event c qty cost side).traded event c more cost side) := by
  obtain ⟨port, cargo⟩ :=
    @traded_traded counter event c qty more cost side
  cases side with
  | buy =>
    obtain ⟨allows, dearer⟩ := merge_bought bound positive first second
    refine ⟨allows, port.symm, cargo.symm, ?_, Nat.sub_le _ _⟩
    change counter.credits - counter.price event c * qty -
      (counter.traded event c qty cost .buy).price event c * more ≤
        counter.credits - counter.price event c * (qty + more : Nat)
    omega
  | sell =>
    obtain ⟨allows, cheaper⟩ := merge_sold first second
    refine ⟨allows, port.symm, cargo.symm, ?_, Nat.sub_le _ _⟩
    change counter.credits + counter.price event c * qty +
      (counter.traded event c qty cost .sell).price event c * more ≤
        counter.credits + counter.price event c * (qty + more : Nat)
    omega

/-- A trade leaves an amount of credits, if it leaves no more. -/
theorem traded_credits {side : TradeSide} (allows : counter.Allows event c qty side)
    (fits : fitsAmount counter.credits = true)
    (funds : side = .buy ∨ (counter.traded event c qty cost side).credits ≤ amountMax) :
    fitsAmount (counter.traded event c qty cost side).credits = true := by
  have total : 0 ≤ counter.price event c * qty :=
    Int.mul_nonneg (Price.ofStock_nonneg _ _ _) (Int.natCast_nonneg qty)
  obtain ⟨low, high⟩ := of_decide_eq_true fits
  cases side with
  | buy =>
    obtain ⟨_, _, _, funded⟩ := allows
    exact fitsAmount_of_nonneg (sub_nonneg.mpr funded) ((sub_le_self _ total).trans high)
  | sell =>
    have most := funds.resolve_left (nomatch ·)
    exact decide_eq_true ⟨low.trans (le_add_of_nonneg_right total), most⟩

end Counter

namespace Plan

variable {look : Lookup} {now : Int} {commander : Commander} {side : TradeSide} {c : Commodity}

/-- A commander with what is left to them at a counter. -/
def settled (commander : Commander) (counter : Counter) : Commander :=
  { commander with credits := counter.credits, cargo := counter.cargo }

/-- The effects of a trade that makes a counter of another one. -/
def dealt (commander : Commander) (counter : Counter) (text : String) : Effects :=
  .logged (settled commander counter) [.savePort counter.port] .action text

/-- A trade adds up no more than an amount, if it leaves no more. -/
theorem dealt_fits {port : Port} {event : Option Event} {qty cost : Nat} {text : String}
    (fits : commander.toPlayer.fits = true)
    (allows : (commander.counter port).Allows event c qty side)
    (funds : side = .buy ∨
      ((commander.counter port).traded event c qty cost side).credits ≤ amountMax) :
    (dealt commander ((commander.counter port).traded event c qty cost side) text).fits = true := by
  obtain ⟨credits, capacities⟩ := Player.fits_iff.mp fits
  refine Effects.fits_of_saved ?_ fun corp saved => ?_
  · exact Player.fits_iff.mpr ⟨Counter.traded_credits allows credits funds, capacities⟩
  · cases List.mem_singleton.mp saved

theorem quantity_bounds {quantity : Int} {qty : Nat} (counted : quantity? quantity = some qty) :
    1 ≤ qty ∧ qty ≤ 1000000 := by
  unfold quantity? quantityMax at counted
  split at counted
  · cases counted
    omega
  · cases counted

/-- A trade that the counter allows is planned. -/
theorem trade_made {qty : Nat} {port : Port} {event : Option Event} (positive : 1 ≤ qty)
    (few : qty ≤ 1000000) (found : look.port commander.sector = .ok (some port))
    (happening : look.event commander.sector now = .ok event)
    (allows : (commander.counter port).Allows event c qty side) (cost : Nat) :
    ∃ text, trade look now commander (some side) (some c) qty =
      .ok (dealt commander ((commander.counter port).traded event c qty cost side) text) := by
  cases side with
  | buy =>
    obtain ⟨selling, stocked, roomy, funded⟩ := allows
    exact trade_bought positive few found happening selling stocked roomy funded
  | sell =>
    obtain ⟨buying, carried, demanded⟩ := allows
    exact trade_sold positive few found happening buying carried demanded

/-- What a planned trade tells is no empty text. -/
theorem trade_worded {side : Option TradeSide} {commodity : Option Commodity} {quantity : Int}
    {effects : Effects}
    (planned : trade look now commander side commodity quantity = .ok effects) :
    effects.message ≠ "" := by
  have worded : ∀ front : String, front ++ " total)." ≠ "" := by
    intro front empty
    have length := congrArg String.length empty
    rw [String.length_append] at length
    cases Nat.eq_zero_of_add_eq_zero_left length
  unfold trade at planned
  obtain ⟨side, _, planned⟩ := bind_success planned
  obtain ⟨_, _, planned⟩ := bind_success planned
  obtain ⟨_, _, planned⟩ := bind_success planned
  obtain ⟨_, _, planned⟩ := bind_success planned
  obtain ⟨_, _, planned⟩ := bind_success planned
  obtain ⟨_, _, planned⟩ := bind_success planned
  cases side with
  | buy =>
    obtain ⟨_, _, planned⟩ := bind_success planned
    cases planned
    exact worded _
  | sell =>
    obtain ⟨_, _, planned⟩ := bind_success planned
    cases planned
    exact worded _

end Plan

/-- What is known of a trade that has been made. -/
theorem Deed.bargained {look : Lookup} {now : Int} {commander : Commander} {side : TradeSide}
    {c : Commodity} {quantity : Int} {effects : Effects}
    (deed : Deed look now commander (.trade (some side) (some c) quantity) effects) (cost : Nat) :
    ∃ (qty : Nat) (port : Port) (event : Option Event) (text : String),
      (qty : Int) = quantity ∧ 1 ≤ qty ∧ qty ≤ 1000000 ∧
      look.port commander.sector = .ok (some port) ∧
      look.event commander.sector now = .ok event ∧
      (commander.counter port).Allows event c qty side ∧
      effects =
        Plan.dealt commander ((commander.counter port).traded event c qty cost side) text := by
  cases deed with
  | informed informs => cases informs
  | bought counted found happening selling stocked roomy funded =>
    obtain ⟨positive, few⟩ := Plan.quantity_bounds counted
    exact ⟨_, _, _, _, Plan.quantity_found counted, positive, few, found, happening,
      ⟨selling, stocked, roomy, funded⟩, rfl⟩
  | sold counted found happening buying carried demanded =>
    obtain ⟨positive, few⟩ := Plan.quantity_bounds counted
    exact ⟨_, _, _, _, Plan.quantity_found counted, positive, few, found, happening,
      ⟨buying, carried, demanded⟩, rfl⟩

end Starlane
