import Mathlib.Data.Int.ConditionallyCompleteOrder
import Mathlib.Data.List.MinMax
import Starlane.Proofs.Itinerary
import Starlane.Proofs.Search

/-!
# The choice of a route

A route is chosen among the trips between any two scans. What makes a pair of scans a
trip, and what the trip brings, is said here without the search that looks for them; the
route suggested is the first trip, in the order of commodities and then of the scans, of
those with the highest score.
-/

namespace Starlane

/-- A list is gone through by its places. -/
theorem filterMap_places {α β : Type} (list : List α) (f : α → Option β) :
    list.filterMap f = (List.range list.length).filterMap fun place => list[place]?.bind f := by
  induction list with
  | nil => rfl
  | cons first rest ih =>
    rw [List.length_cons, List.range_succ_eq_map, List.filterMap_cons, List.filterMap_cons,
      List.filterMap_map, ih]
    rfl

/-- Those of a list that pass a test are gone through by the places of the list. -/
theorem flatMap_filter_places {α β : Type} (list : List α) (test : α → Bool) (f : α → List β) :
    (list.filter test).flatMap f = (List.range list.length).flatMap fun place =>
      (list[place]?.map fun a => if test a then f a else []).getD [] := by
  induction list with
  | nil => rfl
  | cons first rest ih =>
    rw [List.length_cons, List.range_succ_eq_map, List.flatMap_cons, List.flatMap_map,
      List.filter_cons]
    have later : (rest.filter test).flatMap f = (List.range rest.length).flatMap fun place =>
        ((first :: rest)[place + 1]?.map fun a => if test a then f a else []).getD [] := ih
    rw [← later]
    by_cases passed : test first = true <;> simp [passed]

section Optima

variable {α β : Type} [LinearOrder β] {value : α → β} {list : List α} {best : α}

/-- The first of the greatest of a list: greater than all before it, and no less than
all after it. -/
theorem argmax_eq_some_iff_first : list.argmax value = some best ↔
    ∃ before after, list = before ++ best :: after ∧
      (∀ other ∈ before, value other < value best) ∧
      ∀ other ∈ after, value other ≤ value best := by
  classical
  rw [List.argmax_eq_some_iff]
  constructor
  · rintro ⟨listed, greatest, first⟩
    obtain ⟨before, after, rfl, new⟩ := List.eq_append_cons_of_mem listed
    refine ⟨before, after, rfl, fun other earlier => ?_, fun other later => ?_⟩
    · by_contra tie
      have index := first other (List.mem_append_left _ earlier) (not_lt.mp tie)
      rw [List.idxOf_append_of_notMem new, List.idxOf_append_of_mem earlier] at index
      have inside := List.idxOf_lt_length_of_mem earlier
      simp only [List.idxOf_cons_self] at index
      omega
    · apply greatest
      simp [later]
  · rintro ⟨before, after, rfl, less, most⟩
    have new : best ∉ before := fun earlier => (less best earlier).false
    refine ⟨by simp, fun other listed => ?_, fun other _ tie => ?_⟩
    · rcases List.mem_append.mp listed with earlier | later
      · exact (less other earlier).le
      · rcases List.mem_cons.mp later with rfl | later
        · exact le_rfl
        · exact most other later
    · have late : other ∉ before := fun earlier => (less other earlier).not_ge tie
      rw [List.idxOf_append_of_notMem new, List.idxOf_append_of_notMem late, List.idxOf_cons_self]
      omega

variable {γ : Type} {find : γ → Option α} {sources : List γ}

/-- The best of what is found in a list is found first at some place of it. -/
theorem argmax_filterMap_eq_some_iff : (sources.filterMap find).argmax value = some best ↔
    ∃ earlier source later, sources = earlier ++ source :: later ∧ find source = some best ∧
      (∀ other ∈ earlier, ∀ rival, find other = some rival → value rival < value best) ∧
      ∀ other ∈ later, ∀ rival, find other = some rival → value rival ≤ value best := by
  rw [argmax_eq_some_iff_first]
  constructor
  · rintro ⟨before, after, split, less, most⟩
    obtain ⟨earlier, rest, rfl, rfl, tail⟩ := List.filterMap_eq_append_iff.mp split
    obtain ⟨idle, source, later, rfl, nothing, found, rfl⟩ := List.filterMap_eq_cons_iff.mp tail
    refine ⟨earlier ++ idle, source, later, (List.append_assoc _ _ _).symm, found, ?_, ?_⟩
    · intro other listed rival finds
      rcases List.mem_append.mp listed with before | between
      · exact less rival (List.mem_filterMap.mpr ⟨other, before, finds⟩)
      · rw [nothing other between] at finds
        cases finds
    · intro other listed rival finds
      exact most rival (List.mem_filterMap.mpr ⟨other, listed, finds⟩)
  · rintro ⟨earlier, source, later, rfl, found, less, most⟩
    refine ⟨earlier.filterMap find, later.filterMap find, ?_, ?_, ?_⟩
    · rw [List.filterMap_append, List.filterMap_cons_some found]
    · intro rival listed
      obtain ⟨other, before, finds⟩ := List.mem_filterMap.mp listed
      exact less other before rival finds
    · intro rival listed
      obtain ⟨other, after, finds⟩ := List.mem_filterMap.mp listed
      exact most other after rival finds

theorem argmin_filterMap_eq_some_iff : (sources.filterMap find).argmin value = some best ↔
    ∃ earlier source later, sources = earlier ++ source :: later ∧ find source = some best ∧
      (∀ other ∈ earlier, ∀ rival, find other = some rival → value best < value rival) ∧
      ∀ other ∈ later, ∀ rival, find other = some rival → value best ≤ value rival :=
  argmax_filterMap_eq_some_iff (β := βᵒᵈ)

end Optima

namespace Route

variable {routes : List Route} {route : Route}

/-- Whether a route scores higher than all before it in a list, and none after it scores
higher. -/
def Leads (routes : List Route) (route : Route) : Prop :=
  ∃ before after, routes = before ++ route :: after ∧
    (∀ other ∈ before, other.score < route.score) ∧ ∀ other ∈ after, other.score ≤ route.score

/-- The route chosen is the first of those with the highest score. -/
theorem first?_eq_argmax (routes : List Route) : first? routes = routes.argmax score := by
  unfold first? List.argmax
  congr
  funext best route
  cases best with
  | none => rfl
  | some found =>
    dsimp only [List.argAux]
    by_cases lower : route.score ≤ found.score
    · rw [if_pos lower, if_neg (not_lt.mpr lower)]
    · rw [if_neg lower, if_pos (not_le.mp lower)]

/-- The route chosen is the one that leads. -/
theorem first?_eq_some : first? routes = some route ↔ Leads routes route := by
  rw [first?_eq_argmax]
  exact argmax_eq_some_iff_first

/-- None is chosen only of none. -/
theorem first?_eq_none : first? routes = none ↔ routes = [] := by
  rw [first?_eq_argmax, List.argmax_eq_none]

/-- Of the routes of some trips, one leads if its trip does. -/
theorem leads_filterMap {α : Type} {trips : List α} {find : α → Option Route} :
    Leads (trips.filterMap find) route ↔
      ∃ earlier trip later, trips = earlier ++ trip :: later ∧ find trip = some route ∧
        (∀ other ∈ earlier, ∀ rival, find other = some rival → rival.score < route.score) ∧
        ∀ other ∈ later, ∀ rival, find other = some rival → rival.score ≤ route.score :=
  argmax_eq_some_iff_first.symm.trans argmax_filterMap_eq_some_iff

theorem freshness_pos (age : Int) : 0 < freshness age := by
  unfold freshness
  split_ifs <;> decide

/-- Nothing scored is below zero, so that to round down is to drop what is behind the
point. -/
theorem score_truncated {profit : Int} (earning : 0 ≤ profit) (turns : Nat) (age : Int) :
    profit * 1000 / turns * freshness age / 1000 =
      ((profit * 1000).tdiv turns * freshness age).tdiv 1000 := by
  have raised : 0 ≤ profit * 1000 := Int.mul_nonneg earning (by decide)
  have weight := Int.le_of_lt (freshness_pos age)
  rw [Int.tdiv_eq_ediv_of_nonneg raised, Int.tdiv_eq_ediv_of_nonneg]
  exact Int.mul_nonneg (Int.ediv_nonneg raised (Int.natCast_nonneg turns)) weight

end Route

/-- What a route is chosen by: the time, the sector to start from, the capacity of the
ship, the discovered sectors and the warps, the scans in their order, and the commodity
that is asked for, if it is only one. -/
structure Outlook where
  now : Int
  current : SectorId
  cargoMax : Nat
  sectors : List SectorId
  warps : List (SectorId × SectorId)
  scans : List Intel
  filter : Option Commodity

/-- What is traded, and the places among the scans of where to buy and where to sell. -/
structure Trip where
  commodity : Commodity
  buy : Nat
  sell : Nat

/-- Whether a trip comes before another one: in the order of commodities, then of where
to buy, then of where to sell. -/
def Trip.Before (trip other : Trip) : Prop :=
  Commodity.all.idxOf trip.commodity < Commodity.all.idxOf other.commodity ∨
    trip.commodity = other.commodity ∧
      (trip.buy < other.buy ∨ trip.buy = other.buy ∧ trip.sell < other.sell)

theorem Trip.Before.asymm {trip other : Trip} (before : trip.Before other) :
    ¬ other.Before trip := by
  intro after
  rcases before with less | ⟨same, less⟩ <;> rcases after with less' | ⟨same', less'⟩
  · omega
  · rw [same'] at less
    omega
  · rw [same] at less'
    omega
  · omega

namespace Outlook

variable {outlook : Outlook} {trip : Trip} {seller buyer : Intel} {route : Route}

/-- The route chosen. -/
def best? (outlook : Outlook) : Option Route :=
  Route.best? outlook.now outlook.current outlook.cargoMax
    (.ofDiscovered outlook.sectors outlook.warps) outlook.scans outlook.filter

/-- Whether a trip from the port of one scan to that of another one is worth it. The one
has the commodity to sell, the other one takes it for more, and ways lead to either. -/
structure Candidate (outlook : Outlook) (trip : Trip) (seller buyer : Intel) : Prop where
  asked : outlook.filter = none ∨ outlook.filter = some trip.commodity
  buy : outlook.scans[trip.buy]? = some seller
  sell : outlook.scans[trip.sell]? = some buyer
  selling : (seller.quote trip.commodity).mode = .sell
  stocked : 0 < (seller.quote trip.commodity).qty
  buying : (buyer.quote trip.commodity).mode = .buy
  demanded : (buyer.quote trip.commodity).qty < (buyer.quote trip.commodity).baseQty
  apart : buyer.sector ≠ seller.sector
  earning : (seller.quote trip.commodity).price < (buyer.quote trip.commodity).price
  there : ∃ stops, Chart.Way outlook.sectors outlook.warps outlook.current stops seller.sector
  onward : ∃ stops, Chart.Way outlook.sectors outlook.warps seller.sector stops buyer.sector

/-- Whether a route is what a trip comes to: by shortest ways, with as many units as the
ship, the stock and the demand allow, its score the profit per turn in thousandths, less
by the age of the older scan. Both divisions drop what is behind the point. -/
structure Describes (outlook : Outlook) (trip : Trip) (seller buyer : Intel)
    (route : Route) : Prop where
  commodity : route.commodity = trip.commodity
  buySector : route.buySector = seller.sector
  buySectorName : route.buySectorName = seller.sectorName
  sellSector : route.sellSector = buyer.sector
  sellSectorName : route.sellSectorName = buyer.sectorName
  buyPrice : route.buyPrice = (seller.quote trip.commodity).price
  sellPrice : route.sellPrice = (buyer.quote trip.commodity).price
  buyScannedAt : route.buyScannedAt = seller.scannedAt
  sellScannedAt : route.sellScannedAt = buyer.scannedAt
  movesToBuy : Chart.Shortest outlook.sectors outlook.warps outlook.current route.movesToBuy
    seller.sector
  movesBuyToSell : Chart.Shortest outlook.sectors outlook.warps seller.sector
    route.movesBuyToSell buyer.sector
  totalMoves : route.totalMoves = route.movesToBuy + route.movesBuyToSell
  totalTurns : route.totalTurns = route.totalMoves + 2
  qty : route.qty = min (max outlook.cargoMax 1) (min (seller.quote trip.commodity).qty
    ((buyer.quote trip.commodity).baseQty - (buyer.quote trip.commodity).qty))
  profitPerUnit : route.profitPerUnit = route.sellPrice - route.buyPrice
  profitPerTrip : route.profitPerTrip = route.profitPerUnit * route.qty
  score : route.score = (((route.profitPerTrip * 1000).tdiv route.totalTurns) *
    Route.freshness (max (outlook.now - seller.scannedAt) (outlook.now - buyer.scannedAt))).tdiv
      1000

/-- Whether a route is what a candidate comes to. -/
def Brings (outlook : Outlook) (trip : Trip) (route : Route) : Prop :=
  ∃ seller buyer, outlook.Candidate trip seller buyer ∧
    outlook.Describes trip seller buyer route

/-- All trips between two scans in the order in which they are compared, worth it or not. -/
def trips (outlook : Outlook) : List Trip :=
  (Market.admitted outlook.filter).flatMap fun commodity =>
    (List.range outlook.scans.length).flatMap fun buy =>
      (List.range outlook.scans.length).map fun sell => ⟨commodity, buy, sell⟩

/-- The route of a trip, if it is worth it. -/
def route? (outlook : Outlook) (trip : Trip) : Option Route :=
  let c := trip.commodity
  let chart := Chart.ofDiscovered outlook.sectors outlook.warps
  outlook.scans[trip.buy]?.bind fun seller =>
    outlook.scans[trip.sell]?.bind fun buyer =>
      if (seller.quote c).mode == .sell && decide (0 < (seller.quote c).qty) then
        if (buyer.quote c).mode == .buy && decide (0 < (buyer.quote c).demand) then
          Route.candidate? outlook.now outlook.cargoMax c seller buyer
            ((chart.distances outlook.current).lookup seller.sector)
            ((chart.distances seller.sector).lookup buyer.sector)
        else none
      else none

theorem mem_trips : trip ∈ outlook.trips ↔
    (outlook.filter = none ∨ outlook.filter = some trip.commodity) ∧
      trip.buy < outlook.scans.length ∧ trip.sell < outlook.scans.length := by
  have admitted : trip.commodity ∈ Market.admitted outlook.filter ↔
      outlook.filter = none ∨ outlook.filter = some trip.commodity := by
    cases outlook.filter with
    | none => simp [Market.admitted, Commodity.mem_all]
    | some c => simp [Market.admitted, eq_comm]
  simp only [trips, List.mem_flatMap, List.mem_map, List.mem_range]
  rw [← admitted]
  constructor
  · rintro ⟨c, listed, buy, first, sell, second, rfl⟩
    exact ⟨listed, first, second⟩
  · rintro ⟨listed, first, second⟩
    exact ⟨_, listed, _, first, _, second, rfl⟩

/-- Every trip is compared after those before it. -/
theorem trips_ordered (outlook : Outlook) : outlook.trips.Pairwise Trip.Before := by
  have commodities : (Market.admitted outlook.filter).Pairwise fun c d =>
      Commodity.all.idxOf c < Commodity.all.idxOf d := by
    cases outlook.filter with
    | none => decide
    | some c => exact List.pairwise_singleton _ _
  refine List.pairwise_flatMap.mpr ⟨fun c _ => List.pairwise_flatMap.mpr ⟨fun buy _ => ?_, ?_⟩, ?_⟩
  · refine List.pairwise_map.mpr (List.pairwise_lt_range.imp fun less => ?_)
    exact .inr ⟨rfl, .inr ⟨rfl, less⟩⟩
  · refine List.pairwise_lt_range.imp fun less first listed second listed' => ?_
    obtain ⟨_, _, rfl⟩ := List.mem_map.mp listed
    obtain ⟨_, _, rfl⟩ := List.mem_map.mp listed'
    exact .inr ⟨rfl, .inl less⟩
  · refine commodities.imp fun less first listed second listed' => .inl ?_
    simp only [List.mem_flatMap, List.mem_map] at listed listed'
    obtain ⟨_, _, _, _, rfl⟩ := listed
    obtain ⟨_, _, _, _, rfl⟩ := listed'
    exact less

/-- Where a trip is in the list tells which ones come before it, and which ones it comes
before. -/
theorem before_after {earlier later : List Trip}
    (split : outlook.trips = earlier ++ trip :: later) :
    (∀ other ∈ earlier, other.Before trip) ∧ ∀ other ∈ later, trip.Before other := by
  have ordered := outlook.trips_ordered
  rw [split] at ordered
  obtain ⟨_, after, before⟩ := List.pairwise_append.mp ordered
  exact ⟨fun other listed => before other listed trip (.head _), (List.pairwise_cons.mp after).1⟩

/-- The routes compared are those of the trips that are worth it, in their order. -/
theorem candidates_eq (outlook : Outlook) :
    Route.candidates outlook.now outlook.current outlook.cargoMax
        (.ofDiscovered outlook.sectors outlook.warps) outlook.scans outlook.filter =
      outlook.trips.filterMap outlook.route? := by
  unfold Route.candidates trips Route.sellers Route.buyers
  dsimp only
  rw [List.filterMap_flatMap]
  refine List.flatMap_congr fun c _ => ?_
  rw [flatMap_filter_places, List.filterMap_flatMap]
  refine List.flatMap_congr fun place inside => ?_
  have found := List.getElem?_eq_getElem (List.mem_range.mp inside)
  rw [List.filterMap_map, found, Option.map_some, Option.getD_some]
  split
  · next sells =>
    rw [List.filterMap_filter, filterMap_places]
    refine List.filterMap_congr fun place' _ => ?_
    simp only [Function.comp_apply, route?, found, Option.bind_some, sells, if_true]
  · next idle =>
    refine (List.filterMap_eq_nil_iff.mpr fun place' _ => ?_).symm
    simp only [Function.comp_apply, route?, found, Option.bind_some, idle]
    exact Option.bind_eq_none_iff.mpr fun _ _ => rfl

/-- A trip comes to one route only. -/
theorem Describes.unique {other : Route} (one : outlook.Describes trip seller buyer route)
    (another : outlook.Describes trip seller buyer other) : route = other := by
  have there : route.movesToBuy = other.movesToBuy := one.movesToBuy.unique another.movesToBuy
  have onward : route.movesBuyToSell = other.movesBuyToSell :=
    one.movesBuyToSell.unique another.movesBuyToSell
  have moves : route.totalMoves = other.totalMoves := by
    rw [one.totalMoves, another.totalMoves, there, onward]
  have turns : route.totalTurns = other.totalTurns := by
    rw [one.totalTurns, another.totalTurns, moves]
  have qty : route.qty = other.qty := one.qty.trans another.qty.symm
  have spread : route.profitPerUnit = other.profitPerUnit := by
    rw [one.profitPerUnit, another.profitPerUnit, one.sellPrice, another.sellPrice, one.buyPrice,
      another.buyPrice]
  have profit : route.profitPerTrip = other.profitPerTrip := by
    rw [one.profitPerTrip, another.profitPerTrip, spread, qty]
  have score : route.score = other.score := by
    rw [one.score, another.score, profit, turns]
  cases route
  cases other
  rw [Route.mk.injEq]
  exact ⟨one.commodity.trans another.commodity.symm, one.buySector.trans another.buySector.symm,
    one.buySectorName.trans another.buySectorName.symm,
    one.sellSector.trans another.sellSector.symm,
    one.sellSectorName.trans another.sellSectorName.symm, one.buyPrice.trans another.buyPrice.symm,
    one.sellPrice.trans another.sellPrice.symm, one.buyScannedAt.trans another.buyScannedAt.symm,
    one.sellScannedAt.trans another.sellScannedAt.symm, there, onward, moves, turns, qty, spread,
    profit, score⟩

theorem Brings.unique {other : Route} (one : outlook.Brings trip route)
    (another : outlook.Brings trip other) : route = other := by
  obtain ⟨seller, buyer, candidate, describes⟩ := one
  obtain ⟨seller', buyer', candidate', describes'⟩ := another
  cases candidate.buy.symm.trans candidate'.buy
  cases candidate.sell.symm.trans candidate'.sell
  exact describes.unique describes'

/-- What is found for a trip is what it comes to. -/
theorem brings_of_route? (asked : outlook.filter = none ∨ outlook.filter = some trip.commodity)
    (found : outlook.route? trip = some route) : outlook.Brings trip route := by
  obtain ⟨seller, buy, found⟩ := Option.bind_eq_some_iff.mp found
  obtain ⟨buyer, sell, found⟩ := Option.bind_eq_some_iff.mp found
  obtain ⟨sells, found⟩ := Option.ite_none_right_eq_some.mp found
  obtain ⟨buys, found⟩ := Option.ite_none_right_eq_some.mp found
  obtain ⟨toBuy, firstLeg, found⟩ := Option.bind_eq_some_iff.mp found
  obtain ⟨_, apart, found⟩ := Option.bind_eq_some_iff.mp found
  obtain ⟨toSell, secondLeg, found⟩ := Option.bind_eq_some_iff.mp found
  obtain ⟨_, earning, found⟩ := Option.bind_eq_some_iff.mp found
  rw [Option.guard_eq_some'] at apart earning
  rw [Bool.and_eq_true, beq_iff_eq, decide_eq_true_eq] at sells buys
  have there := Chart.lookup_iff_shortest.mp firstLeg
  have onward := Chart.lookup_iff_shortest.mp secondLeg
  have demanded : (buyer.quote trip.commodity).qty < (buyer.quote trip.commodity).baseQty :=
    Nat.lt_of_sub_pos buys.2
  cases found
  refine ⟨seller, buyer, {
    asked
    buy
    sell
    selling := sells.1
    stocked := sells.2
    buying := buys.1
    demanded
    apart
    earning := Int.lt_of_sub_pos earning
    there := there.1.imp fun _ way => way.1
    onward := onward.1.imp fun _ way => way.1 }, {
    commodity := rfl
    buySector := rfl
    buySectorName := rfl
    sellSector := rfl
    sellSectorName := rfl
    buyPrice := rfl
    sellPrice := rfl
    buyScannedAt := rfl
    sellScannedAt := rfl
    movesToBuy := there
    movesBuyToSell := onward
    totalMoves := rfl
    totalTurns := rfl
    qty := Nat.min_assoc _ _ _
    profitPerUnit := rfl
    profitPerTrip := rfl
    score := ?_ }⟩
  exact Route.score_truncated (Int.mul_nonneg (Int.le_of_lt earning) (Int.natCast_nonneg _)) _ _

/-- For every candidate a route is found. -/
theorem Candidate.route? (candidate : outlook.Candidate trip seller buyer) :
    ∃ route, outlook.route? trip = some route := by
  have reached : ∀ {start target}, (∃ stops, Chart.Way outlook.sectors outlook.warps start stops
      target) → ∃ hops, ((Chart.ofDiscovered outlook.sectors outlook.warps).distances start).lookup
        target = some hops := fun ⟨stops, way⟩ =>
    (Chart.closed_ofDiscovered _ _).reaches (Chart.walk_iff_way.mpr ⟨stops, way, rfl⟩)
  obtain ⟨toBuy, firstLeg⟩ := reached candidate.there
  obtain ⟨toSell, secondLeg⟩ := reached candidate.onward
  have demanded : 0 < (buyer.quote trip.commodity).demand := Nat.sub_pos_of_lt candidate.demanded
  simp [Outlook.route?, Route.candidate?, candidate.buy, candidate.sell, candidate.selling,
    candidate.stocked, candidate.buying, demanded, candidate.apart, candidate.earning, firstLeg,
    secondLeg]

/-- A trip between two scans has a route if it is a candidate. -/
theorem route?_eq_some (asked : outlook.filter = none ∨ outlook.filter = some trip.commodity) :
    outlook.route? trip = some route ↔ outlook.Brings trip route := by
  refine ⟨brings_of_route? asked, fun brings => ?_⟩
  obtain ⟨seller, buyer, candidate, _⟩ := id brings
  obtain ⟨other, found⟩ := candidate.route?
  rw [found, brings.unique (brings_of_route? asked found)]

/-- The candidates are the trips that come to a route, each to one only. -/
theorem candidate_iff_brings :
    (∃ seller buyer, outlook.Candidate trip seller buyer) ↔
      ∃! route, outlook.Brings trip route := by
  constructor
  · rintro ⟨seller, buyer, candidate⟩
    obtain ⟨route, found⟩ := candidate.route?
    have brings := brings_of_route? candidate.asked found
    exact ⟨route, brings, fun _ other => other.unique brings⟩
  · rintro ⟨_, ⟨seller, buyer, candidate, _⟩, _⟩
    exact ⟨seller, buyer, candidate⟩

theorem Brings.asked (brings : outlook.Brings trip route) :
    outlook.filter = none ∨ outlook.filter = some trip.commodity := by
  obtain ⟨_, _, candidate, _⟩ := brings
  exact candidate.asked

/-- A trip that comes to a route is compared. -/
theorem Brings.mem_trips (brings : outlook.Brings trip route) : trip ∈ outlook.trips := by
  obtain ⟨_, _, candidate, _⟩ := brings
  exact Outlook.mem_trips.mpr ⟨candidate.asked, (List.getElem?_eq_some_iff.mp candidate.buy).1,
    (List.getElem?_eq_some_iff.mp candidate.sell).1⟩

/-- Whether a trip comes to a route that no trip before it matches, and none after it
surpasses. -/
def Wins (outlook : Outlook) (trip : Trip) (route : Route) : Prop :=
  outlook.Brings trip route ∧ ∀ other rival, outlook.Brings other rival →
    rival.score < route.score ∨
      rival.score = route.score ∧ (other = trip ∨ trip.Before other)

theorem best?_eq_none :
    outlook.best? = none ↔ ∀ trip seller buyer, ¬ outlook.Candidate trip seller buyer := by
  rw [best?, Route.best?, Route.first?_eq_none, candidates_eq, List.filterMap_eq_nil_iff]
  constructor
  · intro nothing trip seller buyer candidate
    obtain ⟨route, found⟩ := candidate.route?
    have listed := (brings_of_route? candidate.asked found).mem_trips
    cases (nothing trip listed).symm.trans found
  · intro nothing trip listed
    cases found : outlook.route? trip with
    | none => rfl
    | some route =>
      obtain ⟨seller, buyer, candidate, _⟩ := brings_of_route? (mem_trips.mp listed).1 found
      exact absurd candidate (nothing trip seller buyer)

/-- A route that leads is that of a trip that wins. -/
theorem best?_eq_some : outlook.best? = some route ↔ ∃ trip, outlook.Wins trip route := by
  rw [best?, Route.best?, Route.first?_eq_some, candidates_eq, Route.leads_filterMap]
  constructor
  · rintro ⟨earlier, trip, later, split, found, lower, others⟩
    have compared := mem_trips.mp (split ▸ List.mem_append_right _ (.head _) : trip ∈ outlook.trips)
    refine ⟨trip, brings_of_route? compared.1 found, fun other rival brings => ?_⟩
    have found' := (route?_eq_some brings.asked).mpr brings
    rcases List.mem_append.mp (split ▸ brings.mem_trips) with before | rest
    · exact .inl (lower other before rival found')
    · rcases List.mem_cons.mp rest with rfl | after
      · cases found.symm.trans found'
        exact .inr ⟨rfl, .inl rfl⟩
      · rcases Int.lt_or_eq_of_le (others other after rival found') with less | level
        · exact .inl less
        · exact .inr ⟨level, .inr ((before_after split).2 other after)⟩
  · rintro ⟨trip, brings, wins⟩
    obtain ⟨earlier, later, split⟩ := List.append_of_mem brings.mem_trips
    have won : ∀ other ∈ outlook.trips, ∀ rival, outlook.route? other = some rival →
        rival.score < route.score ∨
          rival.score = route.score ∧ (other = trip ∨ trip.Before other) :=
      fun other listed rival found =>
        wins other rival (brings_of_route? (mem_trips.mp listed).1 found)
    rw [split] at won
    refine ⟨earlier, trip, later, split, (route?_eq_some brings.asked).mpr brings,
      fun other before rival found => ?_, fun other after rival found => ?_⟩
    · have precedes := (before_after split).1 other before
      rcases won other (List.mem_append_left _ before) rival found with less | ⟨_, rfl | follows⟩
      · exact less
      · exact absurd precedes precedes.asymm
      · exact absurd follows precedes.asymm
    · rcases won other (List.mem_append_right _ (.tail _ after)) rival found with less | ⟨level, _⟩
      · exact Int.le_of_lt less
      · exact Int.le_of_eq level

end Outlook

/-- The route suggested is the best one. There is none exactly if there is no candidate;
else it is what some candidate comes to, and every other candidate has a lower score, or
the same one and comes later. What a candidate comes to is determined. -/
theorem best_route_is_optimal (outlook : Outlook) :
    (outlook.best? = none ↔ ∀ trip seller buyer, ¬ outlook.Candidate trip seller buyer) ∧
    (∀ route, outlook.best? = some route ↔ ∃ trip, outlook.Wins trip route) ∧
    ∀ trip, (∃ seller buyer, outlook.Candidate trip seller buyer) ↔
      ∃! route, outlook.Brings trip route :=
  ⟨Outlook.best?_eq_none, fun _ => Outlook.best?_eq_some, fun _ => Outlook.candidate_iff_brings⟩

/-- Of two ports that sell for the same, the one whose scan is listed first counts. -/
example :
    let scan := fun sector mode price =>
      Intel.mk sector "" 0 (Goods.ofFn fun _ => Quote.mk mode 5 10 price)
    (Outlook.best? {
      now := 0
      current := 1
      cargoMax := 3
      sectors := [1, 2, 3, 4]
      warps := [(1, 2), (1, 3), (2, 4), (3, 4)]
      scans := [scan 3 .sell 10, scan 4 .buy 20, scan 2 .sell 10]
      filter := some .ore }).map (fun route => (route.buySector, route.qty, route.score)) =
    some (3, 3, 7500) := by
  decide

end Starlane
