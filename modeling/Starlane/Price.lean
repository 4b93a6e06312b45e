import Starlane.Event
import Starlane.Number.Binary64
import Starlane.Port

/-!
# Prices

A unit costs the base price at a full port and twice as much at an empty one, in proportion to
what is missing.  An event changes the base price first.  The arithmetic is that of doubles.
-/

namespace Starlane.Price

open Number

/-- The price of a unit at a stock of `qty` out of `baseQty`, at least one credit. -/
def unit (basePrice baseQty qty : Int) : Int :=
  let basePrice := max basePrice 1
  if baseQty ≤ 0 then basePrice
  else
    let qty := max 0 (min qty baseQty)
    let scarcity := nearest (nearest ((baseQty - qty : Int) : Rat) / nearest (baseQty : Rat))
    let price := nearest (nearest (basePrice : Rat) * nearest (1 + scarcity))
    max (toAmount price) 1

/-- The base price with a percentage on it, the percentage kept between 10 and 300. -/
def adjustedBase (basePrice percent : Int) : Int :=
  let percent := max pricePercentMin (min percent pricePercentMax)
  if percent = 100 then basePrice
  else toAmount (nearest (nearest (nearest (basePrice : Rat) * percent) / 100))

/-- The price of a unit with a percentage on the base price. -/
def unitWithPercent (basePrice baseQty qty percent : Int) : Int :=
  unit (adjustedBase basePrice percent) baseQty qty

/-- The percentage that an event, if there is one, puts on a commodity. -/
def percentUnder (event : Option Event) (c : Commodity) : Int :=
  match event with
  | some event => event.percentFor c
  | none => 100

/-- The price of a unit of a port's stock under the sector's event. -/
def ofStock (stock : Stock) (c : Commodity) (event : Option Event) : Int :=
  unitWithPercent stock.basePrice stock.baseQty stock.qty (percentUnder event c)

/-- The prices of all commodities of a port. -/
def ofPort (port : Port) (event : Option Event) : Goods Int :=
  Goods.ofFn fun c => ofStock (port.stock c) c event

end Starlane.Price
