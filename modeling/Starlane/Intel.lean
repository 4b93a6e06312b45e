import Starlane.Json.Record
import Starlane.Price

/-!
# Port intel

What a player knows about a port: its modes, stocks and prices at the time of a scan.
-/

namespace Starlane

/-- A commodity at the time of a scan. -/
structure Quote where
  mode : TradeMode
  qty : Nat
  baseQty : Nat
  price : Int
  deriving DecidableEq, Repr

/-- The units that a buying port still takes. -/
def Quote.demand (quote : Quote) : Nat :=
  quote.baseQty - quote.qty

/-- A scan of a port. -/
structure Intel where
  sector : SectorId
  sectorName : String
  scannedAt : Int
  quotes : Goods Quote
  deriving DecidableEq, Repr

namespace Intel

/-- A scan of a live port, priced under the sector's event. -/
def capture (port : Port) (sectorName : String) (event : Option Event) (now : Int) : Intel :=
  let quote := fun c =>
    let stock := port.stock c
    { mode := stock.mode, qty := stock.qty, baseQty := stock.baseQty,
      price := Price.ofStock stock c event : Quote }
  ⟨port.sector, sectorName, now, Goods.ofFn quote⟩

/-- The quote of a commodity. -/
def quote (intel : Intel) (c : Commodity) : Quote :=
  intel.quotes.get c

/-- The age of a scan in seconds; a scan of the future has no age. -/
def age (intel : Intel) (now : Int) : Int :=
  max (now - intel.scannedAt) 0

/-- Scans newest first; of two made together the one of the smaller sector. -/
def sortNewestFirst (list : List Intel) : List Intel :=
  list.mergeSort fun a b =>
    decide (b.scannedAt < a.scannedAt) ||
      (a.scannedAt == b.scannedAt && decide (a.sector ≤ b.sector))

end Intel

/-- A mode as its code, or as an object that names it. -/
def TradeMode.ofJson? (value : Json) : Option TradeMode :=
  (Json.caseName? value).bind TradeMode.ofCode?

/-- The JSON form of a quote. -/
def Quote.toJson (quote : Quote) : Json :=
  .ofFields [("mode", .ofString quote.mode.code), ("qty", .ofNat quote.qty),
    ("base_qty", .ofNat quote.baseQty), ("price", .ofInt quote.price)]

/-- Reads a quote; every field must be given. -/
def Quote.ofJson? (value : Json) : Option Quote := do
  match ← Json.record? ["mode", "qty", "base_qty", "price"] value with
  | [mode, qty, baseQty, price] =>
    return {
      mode := ← Json.required TradeMode.ofJson? mode
      qty := ← Json.required Json.counter? qty
      baseQty := ← Json.required Json.counter? baseQty
      price := ← Json.required Json.amount? price }
  | _ => none

/-- The JSON form of a scan. -/
def Intel.toJson (intel : Intel) : Json :=
  .ofFields [("sector_id", .ofNat intel.sector), ("sector_name", .ofString intel.sectorName),
    ("scanned_at", .ofInt intel.scannedAt), ("ore", intel.quotes.ore.toJson),
    ("organics", intel.quotes.organics.toJson), ("equipment", intel.quotes.equipment.toJson)]

/-- Reads a scan; every field must be given. -/
def Intel.ofJson? (value : Json) : Option Intel := do
  let names := ["sector_id", "sector_name", "scanned_at", "ore", "organics", "equipment"]
  match ← Json.record? names value with
  | [sector, sectorName, scannedAt, ore, organics, equipment] =>
    return {
      sector := ← Json.required Json.counter? sector
      sectorName := ← Json.required Json.string? sectorName
      scannedAt := ← Json.required Json.amount? scannedAt
      quotes := {
        ore := ← Json.required Quote.ofJson? ore
        organics := ← Json.required Quote.ofJson? organics
        equipment := ← Json.required Quote.ofJson? equipment } }
  | _ => none

end Starlane
