import Starlane.Proofs.Bargain
import Starlane.Proofs.Choice

/-!
# Room in trades and routes

A price is at most six times the largest counter. So the total of a trade is an amount,
and with no more than a ship of the catalogue can carry so is every number on the way
to the score of a route: nothing is cut off, and the score is what the exact numbers
make it. Two things still end the program: two ways so long that their moves and the two
trades are no counter, and a scan so far off that its age is no amount.
-/

namespace Starlane

theorem amount?_of_nonneg {x : Int} (nonneg : 0 ≤ x) (bound : x ≤ amountMax) :
    amount? x = some x :=
  if_pos (fitsAmount_of_nonneg nonneg bound)

theorem counter?_of_le {n : Nat} (bound : n ≤ counterMax) : counter? n = some n :=
  if_pos (decide_eq_true bound)

/-- A unit costs at least one credit, and at most six times the largest counter: the
percentage makes three of one, and an empty stock doubles that. -/
theorem Price.ofStock_bounds {stock : Stock} (fits : stock.Fits) (c : Commodity)
    (event : Option Event) :
    1 ≤ ofStock stock c event ∧ ofStock stock c event ≤ 6 * counterMax := by
  obtain ⟨low, high⟩ := percentUnder_bounds event c
  obtain ⟨base, scaled, positive, bound⟩ :=
    scaledBase_bound fits.basePrice (by omega : 0 ≤ percentUnder event c) high
  have most : scaledBase stock.basePrice (percentUnder event c) ≤ 3 * counterMax := by
    have triple : ((counterMax : Nat) : Rat) * ((300 : Int) : Rat) / 100 =
        ((3 * counterMax : Nat) : Rat) := by
      unfold counterMax
      norm_num
    calc scaledBase stock.basePrice (percentUnder event c)
        ≤ scaledBase counterMax 300 := scaledBase_mono fits.basePrice (by omega) high
      _ = 3 * counterMax := by
        rw [scaledBase, triple, Number.roundAway_natCast]
        decide
  have doubled := (unit_bounds positive bound stock.baseQty (Int.natCast_nonneg stock.qty)).2
  rw [← scaled, ← ofStock_eq fits] at doubled
  exact ⟨unit_pos _ _ _, by omega⟩

/-- Whether a scan is one of a port whose numbers fit their columns, under some event and
at some time. -/
def Intel.Captured (scan : Intel) : Prop :=
  ∃ port name event time, Port.Fits port ∧ scan = Intel.capture port name event time

theorem Intel.Captured.bounds {scan : Intel} (captured : scan.Captured) (c : Commodity) :
    1 ≤ (scan.quote c).price ∧ (scan.quote c).price ≤ 6 * counterMax := by
  obtain ⟨port, name, event, time, fits, rfl⟩ := captured
  have price : ((Intel.capture port name event time).quote c).price =
      Price.ofStock (port.stock c) c event := by
    simp [Intel.quote, Intel.capture]
  rw [price]
  exact Price.ofStock_bounds (fits.stocks c) c event

namespace Route

/-- No profit gains from its weight, or turns into a loss. -/
theorem weighed_bounds {profit : Int} (nonneg : 0 ≤ profit) (age : Int) :
    0 ≤ profit * freshness age ∧ profit * freshness age ≤ profit * 1000 := by
  have most : freshness age ≤ 1000 := by
    unfold freshness
    split_ifs <;> decide
  exact ⟨Int.mul_nonneg nonneg (Int.le_of_lt (freshness_pos age)),
    Int.mul_le_mul_of_nonneg_left most nonneg⟩

/-- A share of what is not negative is no more than the whole. -/
theorem share_bounds {x parts : Int} (nonneg : 0 ≤ x) (counted : 0 ≤ parts) :
    0 ≤ x.tdiv parts ∧ x.tdiv parts ≤ x :=
  ⟨Int.tdiv_nonneg nonneg counted, Int.tdiv_le_self parts nonneg⟩

/-- Whether a route is within what the types leave room for: prices that a port can
have, a load that a ship of the catalogue can carry, so few moves that they can be
counted together with the two trades, and scans whose ages are amounts. -/
structure Modest (route : Route) (now : Int) : Prop where
  asked : 1 ≤ route.buyPrice
  paid : route.sellPrice ≤ 6 * counterMax
  earning : route.buyPrice < route.sellPrice
  few : route.qty ≤ 190
  near : route.movesToBuy + route.movesBuyToSell + 2 ≤ counterMax
  buyAge : fitsAmount (now - route.buyScannedAt) = true
  sellAge : fitsAmount (now - route.sellScannedAt) = true

/-- Every number on the way to the score of a modest route is in the range of its type,
and none is negative but an age. -/
theorem Modest.scored {route : Route} {now : Int} (modest : route.Modest now) :
    ∃ score, route.score? now = some score ∧ 0 ≤ score ∧
      score = ((((route.sellPrice - route.buyPrice) * route.qty * 1000).tdiv
          (route.movesToBuy + route.movesBuyToSell + 2 : Nat)) *
        freshness (max (now - route.buyScannedAt) (now - route.sellScannedAt))).tdiv 1000 := by
  obtain ⟨asked, paid, earning, few, near, buyAge, sellAge⟩ := modest
  have unit : 0 ≤ route.sellPrice - route.buyPrice ∧
      route.sellPrice - route.buyPrice ≤ 25769803770 := by
    unfold counterMax at paid
    omega
  have moves := counter?_of_le (by omega : route.movesToBuy + route.movesBuyToSell ≤ counterMax)
  have turns := counter?_of_le near
  have bought : amount? (now - route.buyScannedAt) = some _ := if_pos buyAge
  have sold : amount? (now - route.sellScannedAt) = some _ := if_pos sellAge
  unfold score?
  generalize route.sellPrice - route.buyPrice = perUnit at unit ⊢
  rw [moves, bought, sold]
  simp only [Option.bind_eq_bind, Option.bind_some, turns]
  generalize max (now - route.buyScannedAt) (now - route.sellScannedAt) = age
  generalize route.movesToBuy + route.movesBuyToSell + 2 = turns
  have trip : 0 ≤ perUnit * route.qty ∧ perUnit * route.qty ≤ 25769803770 * 190 :=
    ⟨Int.mul_nonneg unit.1 (Int.natCast_nonneg _),
      Int.mul_le_mul unit.2 (Int.ofNat_le.mpr few) (Int.natCast_nonneg _) (by decide)⟩
  have turn := share_bounds (by omega : 0 ≤ perUnit * route.qty * 1000) (Int.natCast_nonneg turns)
  have weighed := weighed_bounds turn.1 age
  have last := share_bounds weighed.1 (by decide : (0 : Int) ≤ 1000)
  have fits : ∀ x : Int, 0 ≤ x → x ≤ 25769803770 * 190 * 1000 * 1000 → amount? x = some x :=
    fun x nonneg bound => amount?_of_nonneg nonneg (bound.trans (by decide))
  refine ⟨_, ?_, last.1, rfl⟩
  rw [fits _ unit.1 (by omega), Option.bind_some, fits _ trip.1 (by omega), Option.bind_some,
    fits _ (by omega : 0 ≤ perUnit * route.qty * 1000) (by omega), Option.bind_some,
    fits _ turn.1 (by omega), Option.bind_some, fits _ weighed.1 (by omega), Option.bind_some,
    fits _ last.1 (by omega)]

variable {now : Int} {cargoMax : Nat} {c : Commodity} {seller buyer : Intel}

/-- The score of a trip between two scans is computed without leaving the types, if the
ship is one of the catalogue, the legs are not too long together and the scans not too
far off. -/
theorem score?_of_candidate? {firstLeg secondLeg : Option Nat} {route : Route}
    (selling : seller.Captured) (buying : buyer.Captured) (hull : cargoMax ≤ 190)
    (near : ∀ toBuy toSell, firstLeg = some toBuy → secondLeg = some toSell →
      toBuy + toSell + 2 ≤ counterMax)
    (bought : fitsAmount (now - seller.scannedAt) = true)
    (sold : fitsAmount (now - buyer.scannedAt) = true)
    (found : candidate? now cargoMax c seller buyer firstLeg secondLeg = some route) :
    route.score? now = some route.score ∧ 0 ≤ route.score := by
  obtain ⟨toBuy, there, found⟩ := Option.bind_eq_some_iff.mp found
  obtain ⟨_, _, found⟩ := Option.bind_eq_some_iff.mp found
  obtain ⟨toSell, onward, found⟩ := Option.bind_eq_some_iff.mp found
  obtain ⟨_, earning, found⟩ := Option.bind_eq_some_iff.mp found
  rw [Option.guard_eq_some'] at earning
  have load : min (min (max cargoMax 1) (seller.quote c).qty) (buyer.quote c).demand ≤ 190 := by
    omega
  have modest : route.Modest now := by
    cases found
    exact {
      asked := (selling.bounds c).1
      paid := (buying.bounds c).2
      earning := Int.lt_of_sub_pos earning
      few := load
      near := near toBuy toSell there onward
      buyAge := bought
      sellAge := sold }
  obtain ⟨score, computed, nonneg, exact⟩ := modest.scored
  have same : score = route.score := by
    cases found
    exact exact.trans (score_truncated
      (Int.mul_nonneg (Int.le_of_lt earning) (Int.natCast_nonneg _)) _ _).symm
  rw [← same]
  exact ⟨computed, nonneg⟩

/-- Two scans are compared without leaving the types. -/
theorem pairOverflows_eq_false {firstLeg secondLeg : Option Nat} (selling : seller.Captured)
    (buying : buyer.Captured) (hull : cargoMax ≤ 190)
    (near : ∀ toBuy toSell, firstLeg = some toBuy → secondLeg = some toSell →
      toBuy + toSell + 2 ≤ counterMax)
    (bought : fitsAmount (now - seller.scannedAt) = true)
    (sold : fitsAmount (now - buyer.scannedAt) = true) :
    pairOverflows now cargoMax c seller buyer firstLeg secondLeg = false := by
  have unit : fitsAmount ((buyer.quote c).price - (seller.quote c).price) = true := by
    have asked := selling.bounds c
    have paid := buying.bounds c
    unfold counterMax at asked paid
    unfold fitsAmount amountMin amountMax
    rw [decide_eq_true_eq]
    omega
  have scored : (candidate? now cargoMax c seller buyer firstLeg secondLeg).any
      (fun route => (route.score? now).isNone) = false := by
    cases found : candidate? now cargoMax c seller buyer firstLeg secondLeg with
    | none => rfl
    | some route =>
      rw [Option.any_some, (score?_of_candidate? selling buying hull near bought sold found).1]
      rfl
  rw [pairOverflows, unit, scored, Bool.not_true, Bool.or_false, Bool.and_false]

end Route

/-- Every quantity that a trade takes makes a total that is an amount. -/
theorem Price.total_fits {stock : Stock} (fits : stock.Fits) (c : Commodity)
    (event : Option Event) {quantity : Int} (low : 1 ≤ quantity) (high : quantity ≤ 1000000) :
    amount? (ofStock stock c event * quantity) = some (ofStock stock c event * quantity) := by
  obtain ⟨positive, bound⟩ := ofStock_bounds fits c event
  have most : ofStock stock c event * quantity ≤ 6 * counterMax * 1000000 :=
    Int.mul_le_mul bound high (by omega) (by decide)
  exact amount?_of_nonneg (Int.mul_nonneg (by omega) (by omega)) (most.trans (by decide))

/-- A trade that is planned moves just its total, which is an amount. -/
theorem Plan.trade_total {look : Lookup} {now : Int} {commander : Commander} {side : TradeSide}
    {c : Commodity} {quantity : Int} {effects : Effects}
    (planned : trade look now commander (some side) (some c) quantity = .ok effects)
    (fits : ∀ port, look.port commander.sector = .ok (some port) → port.Fits) :
    ∃ port event total, look.port commander.sector = .ok (some port) ∧
      look.event commander.sector now = .ok event ∧
      amount? (Price.ofStock (port.stock c) c event * quantity) = some total ∧
      effects.commander.credits = side.purse commander.credits total := by
  obtain ⟨qty, port, event, text, counted, positive, few, found, happening, _, rfl⟩ :=
    (trade_deed planned).bargained 0
  rw [← counted]
  exact ⟨port, event, _, found, happening,
    Price.total_fits ((fits port found).stocks c) c event (by omega) (by omega), rfl⟩

/-- Every round of the search goes one move further. -/
theorem Chart.layersFrom_le {chart : Chart} {rounds hops distance : Nat}
    {seen layer : List SectorId} {sector : SectorId}
    (found : (chart.layersFrom rounds seen layer hops).lookup sector = some distance) :
    distance ≤ hops + rounds := by
  induction rounds generalizing seen layer hops with
  | zero => cases found
  | succ rounds ih =>
    unfold Chart.layersFrom at found
    dsimp only at found
    split at found
    · cases found
    · rw [lookup_layer] at found
      split at found
      · cases found
        omega
      · have further := ih found
        omega

/-- No shortest way has more moves than there are discovered sectors. -/
theorem Chart.Shortest.moves_le {sectors : List SectorId} {warps : List (SectorId × SectorId)}
    {start goal : SectorId} {moves : Nat} (shortest : Shortest sectors warps start moves goal) :
    moves ≤ sectors.length := by
  have found := lookup_iff_shortest.mpr shortest
  rw [distances, List.lookup_cons] at found
  split at found
  · cases found
    exact Nat.zero_le _
  · exact (layersFrom_le found).trans (Nat.zero_add _).le

namespace Outlook

/-- Whether a search is within what the types leave room for: scans of ports whose numbers
fit their columns, none of them too far off, a ship of the catalogue, and no way to a port
and from there to another one that is too long for the moves and the two trades to be
counted. -/
structure Modest (outlook : Outlook) : Prop where
  captured : ∀ scan ∈ outlook.scans, scan.Captured
  recent : ∀ scan ∈ outlook.scans, fitsAmount (outlook.now - scan.scannedAt) = true
  hull : outlook.cargoMax ≤ 190
  near : ∀ toBuy middle toSell goal,
    Chart.Shortest outlook.sectors outlook.warps outlook.current toBuy middle →
    Chart.Shortest outlook.sectors outlook.warps middle toSell goal →
    toBuy + toSell + 2 ≤ counterMax

/-- On a chart with fewer than `2 ^ 31 - 1` sectors no way is too long. -/
theorem near_of_few {outlook : Outlook} (few : outlook.sectors.length < 2 ^ 31 - 1)
    {toBuy middle toSell goal : Nat}
    (there : Chart.Shortest outlook.sectors outlook.warps outlook.current toBuy middle)
    (onward : Chart.Shortest outlook.sectors outlook.warps middle toSell goal) :
    toBuy + toSell + 2 ≤ counterMax := by
  have first := there.moves_le
  have second := onward.moves_le
  unfold counterMax
  omega

/-- No search ends the program that is within what the types leave room for. -/
theorem Modest.overflows {outlook : Outlook} (modest : outlook.Modest) :
    Route.overflows outlook.now outlook.current outlook.cargoMax
      (.ofDiscovered outlook.sectors outlook.warps) outlook.scans outlook.filter = false := by
  simp only [Route.overflows, List.any_eq_false, Bool.not_eq_true]
  intro c _ seller selling buyer buying
  have sells := List.mem_of_mem_filter selling
  have buys := List.mem_of_mem_filter buying
  refine Route.pairOverflows_eq_false (modest.captured seller sells) (modest.captured buyer buys)
    modest.hull (fun toBuy toSell firstLeg secondLeg => ?_) (modest.recent seller sells)
    (modest.recent buyer buys)
  exact modest.near _ _ _ _ (Chart.lookup_iff_shortest.mp firstLeg)
    (Chart.lookup_iff_shortest.mp secondLeg)

end Outlook

/-- The total of a trade is an amount, for every port and event and every quantity that
a trade takes, and a trade moves just that. A ship of the catalogue with all upgrades
has space for 190 units at most; with that, and scans of any ports under any events that
are not too far off, every number on the way to the score of a trip is in the range of
its type, if the legs and the two trades can be counted: the score is exact, and it is
not negative. So no search for a route ends the program. -/
theorem trades_and_routes_have_room :
    (∀ (port : Port) c event quantity, port.Fits → 1 ≤ quantity → quantity ≤ 1000000 →
      amount? (Price.ofStock (port.stock c) c event * quantity) =
        some (Price.ofStock (port.stock c) c event * quantity)) ∧
    (∀ (look : Lookup) now commander side c quantity effects,
      (∀ port, look.port commander.sector = .ok (some port) → port.Fits) →
      Plan.trade look now commander (some side) (some c) quantity = .ok effects →
      ∃ port event total, look.port commander.sector = .ok (some port) ∧
        look.event commander.sector now = .ok event ∧
        amount? (Price.ofStock (port.stock c) c event * quantity) = some total ∧
        effects.commander.credits = side.purse commander.credits total) ∧
    (∀ ship : Ship, ship.cargoMax + cargoUpgradesMax * cargoPerUpgrade ≤ 190) ∧
    (∀ now cargoMax c (seller buyer : Intel) toBuy toSell route, seller.Captured →
      buyer.Captured → cargoMax ≤ 190 → toBuy + toSell + 2 ≤ counterMax →
      fitsAmount (now - seller.scannedAt) = true → fitsAmount (now - buyer.scannedAt) = true →
      Route.candidate? now cargoMax c seller buyer (some toBuy) (some toSell) = some route →
      route.score? now = some route.score ∧ 0 ≤ route.score) ∧
    ∀ outlook : Outlook, outlook.Modest →
      Route.overflows outlook.now outlook.current outlook.cargoMax
        (.ofDiscovered outlook.sectors outlook.warps) outlook.scans outlook.filter = false := by
  refine ⟨fun port c event quantity fits low high => ?_,
    fun look now commander side c quantity effects fits planned => ?_, ?_,
    fun now cargoMax c seller buyer toBuy toSell route selling buying hull near bought sold
      found => ?_,
    fun outlook modest => modest.overflows⟩
  · exact Price.total_fits (fits.stocks c) c event low high
  · exact Plan.trade_total planned fits
  · intro ship
    cases ship <;> decide
  · refine Route.score?_of_candidate? selling buying hull (fun _ _ there onward => ?_) bought sold
      found
    cases there
    cases onward
    exact near

/-- A port that sells at the smallest price there is. -/
def Drill.cheap : Port :=
  ⟨2, .ofFn fun _ => ⟨.sell, 200, 200, 1, 0⟩⟩

/-- An empty port at the largest base price. -/
def Drill.dear : Port :=
  ⟨4, .ofFn fun _ => ⟨.buy, 0, counterMax, counterMax, 0⟩⟩

/-- An event that triples the prices of the dear port. -/
def Drill.boom : Event :=
  ⟨1, .limited, 4, none, 300, 1, "", "", 0, 3600⟩

theorem Drill.cheap_fits : cheap.Fits :=
  ⟨by decide, fun c => by cases c <;> exact ⟨by decide, by decide, by decide⟩⟩

theorem Drill.dear_fits : dear.Fits :=
  ⟨by decide, fun c => by cases c <;> exact ⟨by decide, by decide, by decide⟩⟩

/-- A scan of the cheap port. -/
def Drill.cheapScan (time : Int) : Intel :=
  .capture cheap "" none time

/-- A scan of the dear port during the boom. -/
def Drill.dearScan (time : Int) : Intel :=
  .capture dear "" (some boom) time

theorem Drill.cheapScan_captured (time : Int) : (cheapScan time).Captured :=
  ⟨cheap, "", none, time, cheap_fits, rfl⟩

theorem Drill.dearScan_captured (time : Int) : (dearScan time).Captured :=
  ⟨dear, "", some boom, time, dear_fits, rfl⟩

/-- A world with the cheap port only. -/
def Drill.stall : World :=
  World.empty.addPort cheap

theorem Drill.stall_trade :
    ∃ effects, Plan.trade stall.lookup 0 ⟨ada 2, none⟩ (some .buy) (some .ore) 10 =
      .ok effects := by
  have agreed : (Plan.trade stall.lookup 0 ⟨ada 2, none⟩ (some .buy) (some .ore) 10).isOk =
      true := by
    decide +kernel
  cases planned : Plan.trade stall.lookup 0 ⟨ada 2, none⟩ (some .buy) (some .ore) 10 with
  | error _ =>
    rw [planned] at agreed
    cases agreed
  | ok effects => exact ⟨effects, rfl⟩

/-- A million units at the dearest price, ten at the cheapest, a trip between the two ports
that takes all the turns that can be counted, and a search where they are next to each
other. -/
theorem trades_and_routes_have_room_dearest :
    Price.ofStock (Drill.dear.stock .ore) .ore (some Drill.boom) = 6 * counterMax ∧
    amount? (6 * counterMax * 1000000 : Int) = some (6 * counterMax * 1000000 : Int) ∧
    (∃ effects, Plan.trade Drill.stall.lookup 0 ⟨Drill.ada 2, none⟩ (some .buy) (some .ore) 10 =
      .ok effects ∧ effects.commander.credits = 990) ∧
    (∃ route, Route.candidate? 0 190 .ore (Drill.cheapScan 0) (Drill.dearScan 0)
        (some (2 ^ 31 - 1)) (some (2 ^ 31 - 2)) = some route ∧
      route.totalTurns = counterMax ∧ route.score? 0 = some route.score ∧ 0 ≤ route.score) ∧
    Route.overflows 0 2 190 (.ofDiscovered [2, 4] [(2, 4)]) [Drill.cheapScan 0, Drill.dearScan 0]
      (some .ore) = false := by
  obtain ⟨total, deal, _, scores, search⟩ := trades_and_routes_have_room
  have price : Price.ofStock (Drill.dear.stock .ore) .ore (some Drill.boom) = 6 * counterMax := by
    decide +kernel
  refine ⟨price, ?_, ?_, ?_, ?_⟩
  · rw [← price]
    exact total Drill.dear .ore (some Drill.boom) 1000000 Drill.dear_fits (by decide) (by decide)
  · obtain ⟨effects, planned⟩ := Drill.stall_trade
    have fits : ∀ port, Drill.stall.lookup.port 2 = .ok (some port) → port.Fits := by
      intro port found
      cases found
      exact Drill.cheap_fits
    obtain ⟨port, event, paid, found, happening, exact, purse⟩ :=
      deal _ 0 ⟨Drill.ada 2, none⟩ .buy .ore 10 effects fits planned
    cases found
    cases happening
    have cost : amount? (Price.ofStock (Drill.cheap.stock .ore) .ore none * 10) = some 10 := by
      decide +kernel
    cases exact.symm.trans cost
    exact ⟨effects, planned, purse⟩
  · have found : (Route.candidate? 0 190 .ore (Drill.cheapScan 0) (Drill.dearScan 0)
        (some (2 ^ 31 - 1)) (some (2 ^ 31 - 2))).map Route.totalTurns = some counterMax := by
      decide +kernel
    obtain ⟨route, candidate, turns⟩ := Option.map_eq_some_iff.mp found
    have score := scores 0 190 .ore _ _ _ _ route (Drill.cheapScan_captured 0)
      (Drill.dearScan_captured 0) (by decide) (by decide) (by decide) (by decide) candidate
    exact ⟨route, candidate, turns, score⟩
  · have captured : ∀ scan ∈ [Drill.cheapScan 0, Drill.dearScan 0], scan.Captured := by
      simp [Drill.cheapScan_captured, Drill.dearScan_captured]
    exact search ⟨0, 2, 190, [2, 4], [(2, 4)], _, some .ore⟩ {
      captured
      recent := by decide
      hull := by decide
      near := fun _ _ _ _ there onward => Outlook.near_of_few (by decide) there onward }

/-- A trip whose two legs are the longest of fewer than `2 ^ 31` moves takes one turn more
than can be counted, and the age of a scan that is too far off is no amount. -/
theorem farthest_trips_overflow :
    (∀ time, (Drill.cheapScan time).Captured ∧ (Drill.dearScan time).Captured) ∧
    (∃ route, Route.candidate? 0 190 .ore (Drill.cheapScan 0) (Drill.dearScan 0)
        (some (2 ^ 31 - 1)) (some (2 ^ 31 - 1)) = some route ∧
      route.totalTurns = counterMax + 1 ∧ route.score? 0 = none) ∧
    ∃ route, Route.candidate? amountMax 190 .ore (Drill.cheapScan (-1)) (Drill.dearScan (-1))
        (some 0) (some 1) = some route ∧ route.score? amountMax = none := by
  have long : (Route.candidate? 0 190 .ore (Drill.cheapScan 0) (Drill.dearScan 0)
      (some (2 ^ 31 - 1)) (some (2 ^ 31 - 1))).map
        (fun route => (route.totalTurns, route.score? 0)) = some (counterMax + 1, none) := by
    decide +kernel
  have old : (Route.candidate? amountMax 190 .ore (Drill.cheapScan (-1)) (Drill.dearScan (-1))
      (some 0) (some 1)).map (fun route => route.score? amountMax) = some none := by
    decide +kernel
  obtain ⟨route, found, shown⟩ := Option.map_eq_some_iff.mp long
  obtain ⟨turns, unscored⟩ := Prod.mk.inj shown
  obtain ⟨dated, found', unscored'⟩ := Option.map_eq_some_iff.mp old
  exact ⟨fun time => ⟨Drill.cheapScan_captured time, Drill.dearScan_captured time⟩,
    ⟨route, found, turns, unscored⟩, dated, found', unscored'⟩

end Starlane
