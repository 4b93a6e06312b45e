import Starlane.Command
import Starlane.Plan.Basic

/-!
# Trading at a port
-/

namespace Starlane.Plan

/-- The largest quantity of a trade or a transfer. -/
def quantityMax : Int := 1000000

/-- The quantity of a trade or a transfer, if it is one. -/
def quantity? (quantity : Int) : Option Nat :=
  if 1 ≤ quantity ∧ quantity ≤ quantityMax then some quantity.toNat else none

/-- A trade that has been agreed: the price of a unit, and both sides afterwards. -/
structure Deal where
  price : Int
  total : Int
  commander : Commander
  port : Port
  deriving DecidableEq, Repr

/-- A purchase: the port must sell the commodity and have enough of it, and the player must have
the space and the credits. -/
def purchase (port : Port) (c : Commodity) (qty : Nat) (price : Int) (commander : Commander) :
    Plan Deal := do
  let stock := port.stock c
  let total := price * qty
  require (stock.mode == .sell) (.notSelling c)
  require (decide (qty ≤ stock.qty)) .inventoryShort
  require (decide (qty ≤ commander.freeCargo)) .tradeSpaceShort
  require (decide (total ≤ commander.credits)) .tradeCreditsShort
  return {
    price, total
    commander := { commander with
      credits := commander.credits - total
      cargo := commander.cargo.set c (commander.cargo.get c + qty) }
    port := port.setQty c (stock.qty - qty) }

/-- A sale: the port must buy the commodity and have room for it, and the player must have it. -/
def sale (port : Port) (c : Commodity) (qty : Nat) (price : Int) (commander : Commander) :
    Plan Deal := do
  let stock := port.stock c
  let total := price * qty
  require (stock.mode == .buy) (.notBuying c)
  require (decide (qty ≤ commander.cargo.get c)) (.tradeCargoShort c)
  require (decide (stock.qty + qty ≤ stock.baseQty)) .demandSaturated
  return {
    price, total
    commander := { commander with
      credits := commander.credits + total
      cargo := commander.cargo.set c (commander.cargo.get c - qty) }
    port := port.setQty c (stock.qty + qty) }

/-- Plans a trade at the port of the sector, at its price under the sector's event. -/
def trade (look : Lookup) (now : Int) (commander : Commander) (side : Option TradeSide)
    (commodity : Option Commodity) (quantity : Int) : Plan Effects := do
  let side ← expect side .tradeSideMissing
  let c ← expect commodity .tradeCommodityMissing
  let qty ← expect (quantity? quantity) .tradeQuantity
  let port ← expect (← read (look.port commander.sector)) .noPort
  let event ← read (look.event commander.sector now)
  let price := Price.ofStock (port.stock c) c event
  let deal ←
    match side with
    | .buy => purchase port c qty price commander
    | .sell => sale port c qty price commander
  let message :=
    s!"You {side.pastVerb} {qty} {c.noun} at {price} credits each ({deal.total} total)."
  writing [.savePort deal.port] do
    return .logged deal.commander [] .action message

end Starlane.Plan
