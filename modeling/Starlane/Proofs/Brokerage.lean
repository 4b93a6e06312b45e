import Starlane.Proofs.Choice

/-!
# The market and the routes

The market of a commodity shows the first of the lowest prices asked and the first of
the highest prices paid in a list of scans. A route picks from the same scans those with
something left to sell or still to take. So what it buys at is no cheaper than what the
market shows, what it sells at no dearer, and it earns no more than the spread.
-/

namespace Starlane

namespace Intel

/-- What a scanned port asks for a commodity. A port that does not sell it asks nothing,
and a price of nothing does not count. -/
def asked? (c : Commodity) (scan : Intel) : Option Offer :=
  if (scan.quote c).mode = .sell ∧ 0 < (scan.quote c).price then some (scan.offer c) else none

/-- What a scanned port pays for a commodity, if it buys it. -/
def bid? (c : Commodity) (scan : Intel) : Option Offer :=
  if (scan.quote c).mode = .buy then some (scan.offer c) else none

end Intel

namespace Market

/-- Whether an offer is the first of the lowest prices asked in a list of scans. -/
def Cheapest (list : List Intel) (c : Commodity) (offer : Offer) : Prop :=
  ∃ before scan after, list = before ++ scan :: after ∧ scan.asked? c = some offer ∧
    (∀ other ∈ before, ∀ rival, other.asked? c = some rival → offer.price < rival.price) ∧
    ∀ other ∈ after, ∀ rival, other.asked? c = some rival → offer.price ≤ rival.price

/-- Whether an offer is the first of the highest prices paid in a list of scans. -/
def Priciest (list : List Intel) (c : Commodity) (offer : Offer) : Prop :=
  ∃ before scan after, list = before ++ scan :: after ∧ scan.bid? c = some offer ∧
    (∀ other ∈ before, ∀ rival, other.bid? c = some rival → rival.price < offer.price) ∧
    ∀ other ∈ after, ∀ rival, other.bid? c = some rival → rival.price ≤ offer.price

theorem undercuts_argmin (asks : List Offer) (offer : Offer) :
    (if undercuts offer (asks.argmin Offer.price) = true then some offer
      else asks.argmin Offer.price) = (asks ++ [offer]).argmin Offer.price := by
  rw [List.argmin_concat]
  cases asks.argmin Offer.price with
  | none => rfl
  | some best => simp only [undercuts, decide_eq_true_eq]

theorem outbids_argmax (bids : List Offer) (offer : Offer) :
    (if outbids offer (bids.argmax Offer.price) = true then some offer
      else bids.argmax Offer.price) = (bids ++ [offer]).argmax Offer.price := by
  rw [List.argmax_concat]
  cases bids.argmax Offer.price with
  | none => rfl
  | some best => simp only [outbids, decide_eq_true_eq]

/-- One more scan is one more offer on its side, if it is any. -/
theorem add_eq (c : Commodity) (asks bids : List Offer) (scan : Intel) :
    add ⟨c, asks.argmin Offer.price, bids.argmax Offer.price⟩ scan =
      ⟨c, (asks ++ (scan.asked? c).toList).argmin Offer.price,
        (bids ++ (scan.bid? c).toList).argmax Offer.price⟩ := by
  unfold add Intel.asked? Intel.bid?
  dsimp only
  cases mode : (scan.quote c).mode with
  | sell =>
    by_cases priced : 0 < (scan.quote c).price
    · have offered : 0 < (scan.offer c).price := priced
      simp only [offered, priced, true_and, and_self, if_true, Option.toList_some, reduceCtorEq,
        if_false, Option.toList_none, List.append_nil]
      rw [← undercuts_argmin]
      split <;> rfl
    · have idle : ¬ 0 < (scan.offer c).price := priced
      simp [idle, priced]
  | buy =>
    simp only [reduceCtorEq, false_and, if_false, if_true, Option.toList_none, List.append_nil,
      Option.toList_some]
    rw [← outbids_argmax]
    split <;> rfl

/-- The sides of a market are the first of the lowest prices asked and the first of the
highest prices paid. -/
theorem summarize_eq (list : List Intel) (c : Commodity) :
    summarize list c = ⟨c, (list.filterMap (Intel.asked? c)).argmin Offer.price,
      (list.filterMap (Intel.bid? c)).argmax Offer.price⟩ := by
  induction list using List.reverseRecOn with
  | nil => rfl
  | append_singleton list scan ih =>
    have last : ∀ find : Intel → Option Offer, [scan].filterMap find = (find scan).toList := by
      intro find
      cases found : find scan <;> simp [found]
    have step : summarize (list ++ [scan]) c = (summarize list c).add scan := by
      simp [summarize]
    rw [step, ih, add_eq, List.filterMap_append, List.filterMap_append, last, last]

variable {list : List Intel} {c : Commodity} {offer : Offer} {scan : Intel}

theorem cheapestSeller_eq_some :
    (summarize list c).cheapestSeller = some offer ↔ Cheapest list c offer := by
  rw [summarize_eq]
  exact argmin_filterMap_eq_some_iff

theorem bestBuyer_eq_some :
    (summarize list c).bestBuyer = some offer ↔ Priciest list c offer := by
  rw [summarize_eq]
  exact argmax_filterMap_eq_some_iff

theorem cheapestSeller_eq_none :
    (summarize list c).cheapestSeller = none ↔ ∀ scan ∈ list, scan.asked? c = none := by
  rw [summarize_eq, List.argmin_eq_none, List.filterMap_eq_nil_iff]

theorem bestBuyer_eq_none :
    (summarize list c).bestBuyer = none ↔ ∀ scan ∈ list, scan.bid? c = none := by
  rw [summarize_eq, List.argmax_eq_none, List.filterMap_eq_nil_iff]

/-- Where a scan asks a price, the market shows one that is no higher. -/
theorem cheapestSeller_le (listed : scan ∈ list) (asked : scan.asked? c = some offer) :
    ∃ seller, (summarize list c).cheapestSeller = some seller ∧ seller.price ≤ offer.price := by
  have among : offer ∈ list.filterMap (Intel.asked? c) :=
    List.mem_filterMap.mpr ⟨scan, listed, asked⟩
  rw [summarize_eq]
  cases lowest : (list.filterMap (Intel.asked? c)).argmin Offer.price with
  | none =>
    rw [List.argmin_eq_none.mp lowest] at among
    cases among
  | some seller => exact ⟨seller, rfl, List.le_of_mem_argmin among lowest⟩

/-- Where a scan pays a price, the market shows one that is no lower. -/
theorem le_bestBuyer (listed : scan ∈ list) (paid : scan.bid? c = some offer) :
    ∃ buyer, (summarize list c).bestBuyer = some buyer ∧ offer.price ≤ buyer.price := by
  have among : offer ∈ list.filterMap (Intel.bid? c) :=
    List.mem_filterMap.mpr ⟨scan, listed, paid⟩
  rw [summarize_eq]
  cases highest : (list.filterMap (Intel.bid? c)).argmax Offer.price with
  | none =>
    rw [List.argmax_eq_none.mp highest] at among
    cases among
  | some buyer => exact ⟨buyer, rfl, List.le_of_mem_argmax among highest⟩

end Market

namespace Outlook

variable {outlook : Outlook} {trip : Trip} {route : Route}

/-- What a trip buys at is asked in a scan, if prices are positive, and what it sells at
is paid in one; it earns what is between. -/
theorem Brings.offers (brings : outlook.Brings trip route)
    (priced : ∀ scan ∈ outlook.scans, ∀ c, 0 < (scan.quote c).price) :
    (∃ seller ∈ outlook.scans, ∃ asked, seller.asked? route.commodity = some asked ∧
      asked.price = route.buyPrice) ∧
    (∃ buyer ∈ outlook.scans, ∃ paid, buyer.bid? route.commodity = some paid ∧
      paid.price = route.sellPrice) ∧
    route.profitPerUnit = route.sellPrice - route.buyPrice ∧ 0 < route.profitPerUnit := by
  obtain ⟨seller, buyer, candidate, describes⟩ := brings
  have bought := List.mem_of_getElem? candidate.buy
  have sold := List.mem_of_getElem? candidate.sell
  have profit := describes.profitPerUnit
  rw [describes.commodity]
  refine ⟨⟨seller, bought, seller.offer trip.commodity, ?_, describes.buyPrice.symm⟩,
    ⟨buyer, sold, buyer.offer trip.commodity, ?_, describes.sellPrice.symm⟩, profit, ?_⟩
  · exact if_pos ⟨candidate.selling, priced seller bought _⟩
  · exact if_pos candidate.buying
  · rw [profit, describes.sellPrice, describes.buyPrice]
    have earning := candidate.earning
    omega

end Outlook

/-- The market for a commodity shows the first of the lowest prices asked in a list of
scans and the first of the highest prices paid, if there are any. With a route from the
same scans, whose prices are positive, both sides are shown: no price asked is above
what the route buys at, none paid below what it sells at, and the spread is no less than
what it earns with a unit, which is more than nothing. -/
theorem market_agrees_with_routes :
    (∀ list c,
      ((Market.summarize list c).cheapestSeller = none ↔
        ∀ scan ∈ list, scan.asked? c = none) ∧
      (∀ offer, (Market.summarize list c).cheapestSeller = some offer ↔
        Market.Cheapest list c offer) ∧
      ((Market.summarize list c).bestBuyer = none ↔ ∀ scan ∈ list, scan.bid? c = none) ∧
      ∀ offer, (Market.summarize list c).bestBuyer = some offer ↔
        Market.Priciest list c offer) ∧
    ∀ (outlook : Outlook) route,
      (∀ scan ∈ outlook.scans, ∀ c, 0 < (scan.quote c).price) → outlook.best? = some route →
      ∃ seller buyer spread,
        (Market.summarize outlook.scans route.commodity).cheapestSeller = some seller ∧
        (Market.summarize outlook.scans route.commodity).bestBuyer = some buyer ∧
        (Market.summarize outlook.scans route.commodity).spread = some spread ∧
        seller.price ≤ route.buyPrice ∧ route.sellPrice ≤ buyer.price ∧
        route.profitPerUnit ≤ spread ∧ 0 < route.profitPerUnit := by
  refine ⟨fun list c => ⟨Market.cheapestSeller_eq_none, fun _ => Market.cheapestSeller_eq_some,
    Market.bestBuyer_eq_none, fun _ => Market.bestBuyer_eq_some⟩, fun outlook route priced best => ?_⟩
  obtain ⟨trip, brings, _⟩ := Outlook.best?_eq_some.mp best
  obtain ⟨⟨source, bought, asked, asks, buyPrice⟩, ⟨target, sold, paid, pays, sellPrice⟩, profit,
    earning⟩ := brings.offers priced
  obtain ⟨seller, cheapest, lower⟩ := Market.cheapestSeller_le bought asks
  obtain ⟨buyer, highest, higher⟩ := Market.le_bestBuyer sold pays
  rw [buyPrice] at lower
  rw [sellPrice] at higher
  refine ⟨seller, buyer, buyer.price - seller.price, cheapest, highest, ?_, lower, higher, ?_,
    earning⟩
  · rw [Market.spread, cheapest, highest]
  · omega

/-- Where the cheapest port is sold out and the one that pays most takes no more, the
route earns less than the spread. -/
theorem market_agrees_with_routes_sold_out :
    let scan := fun sector mode qty price =>
      Intel.mk sector "" 0 (Goods.ofFn fun _ => Quote.mk mode qty 10 price)
    let scans := [scan 3 .sell 0 8, scan 2 .sell 5 10, scan 4 .buy 5 20, scan 5 .buy 10 25]
    let outlook : Outlook := ⟨0, 1, 3, [1, 2, 3, 4, 5],
      [(1, 2), (1, 3), (2, 4), (3, 4), (4, 5)], scans, some .ore⟩
    ∃ route seller buyer spread, outlook.best? = some route ∧
      (route.buyPrice, route.sellPrice, route.profitPerUnit) = (10, 20, 10) ∧
      (Market.summarize scans .ore).cheapestSeller = some seller ∧ seller.price = 8 ∧
      (Market.summarize scans .ore).bestBuyer = some buyer ∧ buyer.price = 25 ∧
      (Market.summarize scans .ore).spread = some spread ∧ route.profitPerUnit ≤ spread := by
  intro scan scans outlook
  have found : outlook.best?.map (fun route =>
      (route.commodity, route.buyPrice, route.sellPrice, route.profitPerUnit)) =
      some (.ore, 10, 20, 10) := by decide
  obtain ⟨route, best, shown⟩ := Option.map_eq_some_iff.mp found
  rw [Prod.mk.injEq] at shown
  have priced : ∀ scan ∈ scans, ∀ c ∈ Commodity.all, 0 < (scan.quote c).price := by decide
  obtain ⟨seller, buyer, spread, cheapest, highest, between, _, _, profit, _⟩ :=
    market_agrees_with_routes.2 outlook route
      (fun scan listed c => priced scan listed c (Commodity.mem_all c)) best
  rw [shown.1] at cheapest highest between
  have prices : (Market.summarize scans .ore).cheapestSeller.map Offer.price = some 8 ∧
      (Market.summarize scans .ore).bestBuyer.map Offer.price = some 25 := by decide
  rw [cheapest, highest] at prices
  exact ⟨route, seller, buyer, spread, best, shown.2, cheapest, Option.some.inj prices.1, highest,
    Option.some.inj prices.2, between, profit⟩

end Starlane
