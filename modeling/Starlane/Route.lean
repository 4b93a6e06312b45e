import Starlane.Market
import Starlane.Route.Chart

/-!
# Trade routes

The best trip to buy a commodity at one scanned port and sell it at another: by profit per turn,
discounted by the age of the older scan.  The first of equally good trips counts, in the order of
commodities, then of scans.
-/

namespace Starlane

/-- A trip: where to buy and sell what, and what it brings. -/
structure Route where
  commodity : Commodity
  buySector : SectorId
  buySectorName : String
  sellSector : SectorId
  sellSectorName : String
  buyPrice : Int
  sellPrice : Int
  buyScannedAt : Int
  sellScannedAt : Int
  movesToBuy : Nat
  movesBuyToSell : Nat
  totalMoves : Nat
  totalTurns : Nat
  qty : Nat
  profitPerUnit : Int
  profitPerTrip : Int
  /-- The discounted profit per turn, in thousandths. -/
  score : Int
  deriving DecidableEq, Repr

namespace Route

/-- The weight, in thousandths, of a trip whose older scan has an age in seconds. -/
def freshness (age : Int) : Int :=
  if age ≤ 900 then 1000
  else if age ≤ 3600 then 900
  else if age ≤ 10800 then 750
  else if age ≤ 43200 then 600
  else 500

/-- The trip between two scans, if it earns anything and both legs are within reach; a leg is the
number of its hops.  The numbers have no bound here: see `Route.score?` for those that have. -/
def candidate? (now : Int) (cargoMax : Nat) (c : Commodity) (seller buyer : Intel)
    (firstLeg secondLeg : Option Nat) : Option Route := do
  let asked := seller.quote c
  let offered := buyer.quote c
  let toBuy ← firstLeg
  guard (buyer.sector ≠ seller.sector)
  let toSell ← secondLeg
  let profit := offered.price - asked.price
  guard (0 < profit)
  let qty := min (min (max cargoMax 1) asked.qty) offered.demand
  let moves := toBuy + toSell
  let turns := moves + 2
  let perTrip := profit * qty
  let age := max (now - seller.scannedAt) (now - buyer.scannedAt)
  return {
    commodity := c
    buySector := seller.sector
    buySectorName := seller.sectorName
    sellSector := buyer.sector
    sellSectorName := buyer.sectorName
    buyPrice := asked.price
    sellPrice := offered.price
    buyScannedAt := seller.scannedAt
    sellScannedAt := buyer.scannedAt
    movesToBuy := toBuy
    movesBuyToSell := toSell
    totalMoves := moves
    totalTurns := turns
    qty
    profitPerUnit := profit
    profitPerTrip := perTrip
    score := perTrip * 1000 / turns * freshness age / 1000 }

/-- The scans of ports that have a commodity to sell. -/
def sellers (list : List Intel) (c : Commodity) : List Intel :=
  list.filter fun intel => (intel.quote c).mode == .sell && decide (0 < (intel.quote c).qty)

/-- The scans of ports that still take a commodity. -/
def buyers (list : List Intel) (c : Commodity) : List Intel :=
  list.filter fun intel => (intel.quote c).mode == .buy && decide (0 < (intel.quote c).demand)

/-- All trips, in the order in which they are compared. -/
def candidates (now : Int) (current : SectorId) (cargoMax : Nat) (chart : Chart)
    (list : List Intel) (filter : Option Commodity) : List Route :=
  let fromHere := chart.distances current
  (Market.admitted filter).flatMap fun c =>
    (sellers list c).flatMap fun seller =>
      let fromThere := chart.distances seller.sector
      (buyers list c).filterMap fun buyer =>
        candidate? now cargoMax c seller buyer (fromHere.lookup seller.sector)
          (fromThere.lookup buyer.sector)

/-- The first trip of the highest score. -/
def first? (routes : List Route) : Option Route :=
  routes.foldl (fun best route =>
    match best with
    | some found => if route.score ≤ found.score then best else some route
    | none => some route) none

/-- The best trip from the current sector. -/
def best? (now : Int) (current : SectorId) (cargoMax : Nat) (chart : Chart) (list : List Intel)
    (filter : Option Commodity) : Option Route :=
  first? (candidates now current cargoMax chart list filter)

/-- The profit per turn with two decimal places, as doubles divide. -/
def profitPerTurn (route : Route) : String :=
  Number.twoPlaces (Number.nearest
    (Number.nearest (route.profitPerTrip : Rat) / Number.nearest (max route.totalTurns 1 : Nat)))

/-- The text of a trip. -/
def text (route : Route) (now : Int) : String :=
  let buyAge := Time.ageText now (some route.buyScannedAt)
  let sellAge := Time.ageText now (some route.sellScannedAt)
  let buyAt := s!"Sector {route.buySector} ({route.buySectorName})"
  let sellAt := s!"Sector {route.sellSector} ({route.sellSectorName})"
  "\n".intercalate [
    "Route suggestion (uses your scanned intel only):",
    s!"Commodity: {route.commodity.code}",
    s!"Step 1: Travel to {buyAt} in {route.movesToBuy} move(s).",
    s!"        Buy at {route.buyPrice} credits/unit (scan age {buyAge}).",
    s!"Step 2: Travel to {sellAt} in {route.movesBuyToSell} move(s).",
    s!"        Sell at {route.sellPrice} credits/unit (scan age {sellAge}).",
    s!"Spread: {route.profitPerUnit}/unit | Qty assumed: {route.qty} | " ++
      s!"Profit/trip: {route.profitPerTrip} credits",
    s!"Moves: {route.totalMoves} | Est. turns (moves + 2 trades): {route.totalTurns} | " ++
      s!"Profit/turn: {route.profitPerTurn}"]

/-- The report on the best trip. -/
def report (now : Int) (current : SectorId) (cargoMax : Nat) (chart : Chart) (list : List Intel)
    (filter : Option Commodity) : String :=
  if list.isEmpty then "No route intel yet. Use SCAN in sectors with ports to record prices."
  else
    match best? now current cargoMax chart list filter, filter with
    | some route, _ => route.text now
    | none, some c => s!"No profitable {c.code} route found with current scanned intel."
    | none, none => "No profitable route found with current scanned intel."

end Route

/-- The JSON form of a trip. -/
def Route.toJson (route : Route) : Json :=
  .ofFields [("commodity", .ofString route.commodity.code), ("buy_sector", .ofNat route.buySector),
    ("buy_sector_name", .ofString route.buySectorName), ("sell_sector", .ofNat route.sellSector),
    ("sell_sector_name", .ofString route.sellSectorName), ("buy_price", .ofInt route.buyPrice),
    ("sell_price", .ofInt route.sellPrice), ("buy_scanned_at", .ofInt route.buyScannedAt),
    ("sell_scanned_at", .ofInt route.sellScannedAt), ("moves_to_buy", .ofNat route.movesToBuy),
    ("moves_buy_to_sell", .ofNat route.movesBuyToSell), ("total_moves", .ofNat route.totalMoves),
    ("total_turns", .ofNat route.totalTurns), ("trade_qty", .ofNat route.qty),
    ("profit_per_unit", .ofInt route.profitPerUnit),
    ("profit_per_trip", .ofInt route.profitPerTrip), ("score", .ofInt route.score)]

end Starlane
