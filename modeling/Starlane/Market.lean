import Starlane.Intel

/-!
# The market report

For each commodity the cheapest port known to sell it and the port known to pay most for it.
-/

namespace Starlane

/-- A side of the market for a commodity: the scan it comes from and its quote. -/
structure Offer where
  sector : SectorId
  sectorName : String
  price : Int
  qty : Nat
  baseQty : Nat
  scannedAt : Int
  deriving DecidableEq, Repr

/-- What a scan offers for a commodity. -/
def Intel.offer (intel : Intel) (c : Commodity) : Offer :=
  let quote := intel.quote c
  ⟨intel.sector, intel.sectorName, quote.price, quote.qty, quote.baseQty, intel.scannedAt⟩

/-- The market for a commodity. -/
structure Market where
  commodity : Commodity
  cheapestSeller : Option Offer
  bestBuyer : Option Offer
  deriving DecidableEq, Repr

namespace Market

/-- Whether an offer has a lower price than the best so far. -/
def undercuts (offer : Offer) : Option Offer → Bool
  | some best => decide (offer.price < best.price)
  | none => true

/-- Whether an offer has a higher price than the best so far. -/
def outbids (offer : Offer) : Option Offer → Bool
  | some best => decide (best.price < offer.price)
  | none => true

/-- The market with one more scan.  Only a strictly better price replaces an offer, and a seller
must ask something. -/
def add (market : Market) (intel : Intel) : Market :=
  let offer := intel.offer market.commodity
  match (intel.quote market.commodity).mode with
  | .sell =>
    if 0 < offer.price ∧ undercuts offer market.cheapestSeller then
      { market with cheapestSeller := some offer }
    else market
  | .buy =>
    if outbids offer market.bestBuyer then { market with bestBuyer := some offer } else market

/-- The market for a commodity in a list of scans; the earliest of equally good offers counts. -/
def summarize (list : List Intel) (c : Commodity) : Market :=
  list.foldl add ⟨c, none, none⟩

/-- What a unit earns between the two sides. -/
def spread (market : Market) : Option Int :=
  match market.cheapestSeller, market.bestBuyer with
  | some seller, some buyer => some (buyer.price - seller.price)
  | _, _ => none

/-- An offer in the report. -/
def offerText (side : String) (offer : Offer) (now : Int) : String :=
  let age := Time.ageText now (some offer.scannedAt)
  s!"{side} @ Sector {offer.sector} ({offer.sectorName}) {offer.price} cr " ++
    s!"(qty {offer.qty}/{offer.baseQty}, age {age})"

/-- The line of a commodity. -/
def line (market : Market) (now : Int) : String :=
  match market.cheapestSeller, market.bestBuyer with
  | some seller, some buyer =>
    let buy := offerText "BUY" seller now
    let sell := offerText "SELL" buyer now
    s!"{market.commodity.code}: {buy} | {sell} | spread {buyer.price - seller.price}/unit"
  | _, _ =>
    s!"{market.commodity.code}: insufficient intel " ++
      "(need at least one SELL and one BUY port scanned)."

/-- The commodities that a filter admits. -/
def admitted : Option Commodity → List Commodity
  | some c => [c]
  | none => Commodity.all

/-- The report on a list of scans. -/
def report (now : Int) (list : List Intel) (filter : Option Commodity) : String :=
  if list.isEmpty then
    "No market intel yet. Use SCAN in sectors with ports to record prices."
  else
    let head := [
      s!"Market intel: {list.length} scanned ports.",
      "Note: MARKET uses your scanned intel (SCAN) only; remote prices may be stale."]
    "\n".intercalate (head ++ (admitted filter).map fun c => (summarize list c).line now)

end Market

/-- The JSON form of an offer. -/
def Offer.toJson (offer : Offer) : Json :=
  .ofFields [("sector_id", .ofNat offer.sector), ("sector_name", .ofString offer.sectorName),
    ("price", .ofInt offer.price), ("qty", .ofNat offer.qty), ("base_qty", .ofNat offer.baseQty),
    ("scanned_at", .ofInt offer.scannedAt)]

/-- The JSON form of a market; a side without a port is null. -/
def Market.toJson (market : Market) : Json :=
  .ofFields [("commodity", .ofString market.commodity.code),
    ("seller", .ofOption Offer.toJson market.cheapestSeller),
    ("buyer", .ofOption Offer.toJson market.bestBuyer), ("spread", .ofOption .ofInt market.spread)]

end Starlane
