import Starlane.Proofs.Exploration
import Starlane.Proofs.Flight

/-!
# Suggested routes can be flown

A suggested route leads along shortest walks of the chart from where the player
is to a port that sells, and on to one that buys. Where the scans show the ports
as they are and there is nothing to fear, the player can fly it as suggested, and
it brings exactly the profit that was promised.
-/

namespace Starlane

namespace Route

/-- Whether a route buys at the port of one scan what it sells at that of another
one, as many as the ship, the stock and the demand allow, on shortest walks. -/
structure Joins (chart : Chart) (current : SectorId) (cargoMax : Nat) (seller buyer : Intel)
    (route : Route) : Prop where
  start : route.buySector = seller.sector
  goal : route.sellSector = buyer.sector
  apart : route.sellSector ≠ route.buySector
  there : chart.Away current route.movesToBuy route.buySector
  onward : chart.Away route.buySector route.movesBuyToSell route.sellSector
  moves : route.totalMoves = route.movesToBuy + route.movesBuyToSell
  turns : route.totalTurns = route.totalMoves + 2
  selling : (seller.quote route.commodity).mode = .sell
  buying : (buyer.quote route.commodity).mode = .buy
  stocked : 0 < (seller.quote route.commodity).qty
  demanded : 0 < (buyer.quote route.commodity).demand
  qty : route.qty = min (min (max cargoMax 1) (seller.quote route.commodity).qty)
    (buyer.quote route.commodity).demand
  price : route.buyPrice = (seller.quote route.commodity).price
  profit : route.profitPerTrip =
    ((buyer.quote route.commodity).price - (seller.quote route.commodity).price) * route.qty

variable {now : Int} {current : SectorId} {cargoMax : Nat} {chart : Chart} {list : List Intel}
  {filter : Option Commodity} {route : Route}

/-- Where each step keeps what it has or takes what it sees, the last one had or
seen is what the fold ends with. -/
theorem chosen_mem {choose : Option Route → Route → Option Route}
    (chooses : ∀ best route, choose best route = best ∨ choose best route = some route)
    {routes : List Route} {start : Option Route}
    (chosen : routes.foldl choose start = some route) : start = some route ∨ route ∈ routes := by
  induction routes generalizing start with
  | nil => exact .inl chosen
  | cons first rest ih =>
    rcases ih chosen with kept | later
    · rcases chooses start first with same | taken
      · exact .inl (same.symm.trans kept)
      · exact .inr (Option.some.inj (taken.symm.trans kept) ▸ .head _)
    · exact .inr (.tail _ later)

/-- The best route is one of those compared. -/
theorem first?_mem {routes : List Route} (best : first? routes = some route) : route ∈ routes := by
  refine (chosen_mem (fun best route => ?_) best).resolve_left (by simp)
  cases best with
  | none => exact .inr rfl
  | some found =>
    dsimp only
    split
    · exact .inl rfl
    · exact .inr rfl

/-- The best route joins two of the scans. -/
theorem best?_joins (best : best? now current cargoMax chart list filter = some route) :
    ∃ seller ∈ list, ∃ buyer ∈ list, route.Joins chart current cargoMax seller buyer := by
  have listed := first?_mem best
  simp only [candidates, List.mem_flatMap, List.mem_filterMap] at listed
  obtain ⟨c, _, seller, sells, buyer, buys, offered⟩ := listed
  unfold candidate? at offered
  obtain ⟨toBuy, firstLeg, offered⟩ := Option.bind_eq_some_iff.mp offered
  obtain ⟨_, apart, offered⟩ := Option.bind_eq_some_iff.mp offered
  obtain ⟨toSell, secondLeg, offered⟩ := Option.bind_eq_some_iff.mp offered
  obtain ⟨_, _, offered⟩ := Option.bind_eq_some_iff.mp offered
  cases offered
  obtain ⟨sellerListed, selling⟩ := List.mem_filter.mp sells
  obtain ⟨buyerListed, buying⟩ := List.mem_filter.mp buys
  rw [Bool.and_eq_true, beq_iff_eq, decide_eq_true_eq] at selling buying
  have different : buyer.sector ≠ seller.sector := by
    refine fun same => ?_
    rw [guard, if_neg (not_not_intro same)] at apart
    cases apart
  exact ⟨seller, sellerListed, buyer, buyerListed, {
    start := rfl
    goal := rfl
    apart := different
    there := Chart.distances_away firstLeg
    onward := Chart.distances_away secondLeg
    moves := rfl
    turns := rfl
    selling := selling.1
    buying := buying.1
    stocked := selling.2
    demanded := buying.2
    qty := rfl
    price := rfl
    profit := rfl }⟩

end Route

namespace World

variable {world after : World} {settings : Settings} {now : Int} {player : PlayerId}
  {row : Player} {sector : SectorId}

/-- The chart of what a player has discovered. -/
def chartOf (world : World) (player : PlayerId) : Chart :=
  let known := world.lookup.discovered player
  .ofDiscovered known (world.lookup.warpsAmong known)

/-- The route that is suggested to a player. -/
def suggestion (world : World) (now : Int) (player : Player) (filter : Option Commodity) :
    Option Route :=
  Route.best? now player.sector player.cargoMax (world.chartOf player.id)
    (world.intelOf player.id) filter

/-- The suggestion is what a player is told on request. -/
theorem suggestion_told {commander : Commander} {filter : Option Commodity} {route : Route}
    (suggested : world.suggestion now commander.toPlayer filter = some route) :
    Plan.route world.lookup now commander filter =
      .ok (Plan.briefing commander (route.text now)) := by
  obtain ⟨seller, listed, _⟩ := Route.best?_joins suggested
  have scanned : ¬ (world.intelOf commander.id).isEmpty = true := by
    intro none
    rw [List.isEmpty_iff.mp none] at listed
    cases listed
  have report : Route.report now commander.sector commander.cargoMax (world.chartOf commander.id)
      (world.intelOf commander.id) filter = route.text now := by
    unfold suggestion at suggested
    unfold Route.report
    rw [if_neg scanned, suggested]
  exact congrArg (fun text => Except.ok (Plan.briefing commander text)) report

theorem mem_chartOf {source target : SectorId} :
    (source, target) ∈ (world.chartOf player).warps ↔
      world.warps.contains (source, target) = true ∧
        world.discoveries.contains (player, source) = true ∧
        world.discoveries.contains (player, target) = true := by
  have known : ∀ sector, sector ∈ world.lookup.discovered player ↔
      world.discoveries.contains (player, sector) = true :=
    fun _ => mem_under.trans Table.mem_keys_iff
  have drawn : (source, target) ∈ world.lookup.warpsAmong (world.lookup.discovered player) ↔
      world.warps.contains (source, target) = true ∧
        source ∈ world.lookup.discovered player ∧ target ∈ world.lookup.discovered player := by
    rw [← Table.mem_keys_iff]
    exact List.mem_filter.trans (by simp)
  rw [chartOf, Chart.mem_ofDiscovered, drawn, known, known]
  tauto

/-- Whether a player's scans show the ports as they are at a time. -/
def Fresh (world : World) (player : PlayerId) (now : Int) : Prop :=
  ∀ sector scan, world.intel.get? (player, sector) = some scan →
    ∃ port name time, world.ports.get? sector = some port ∧
      scan = Intel.capture port name (world.eventAt sector now) time

/-- A fresh scan quotes what the port of its sector has and asks. -/
theorem Fresh.quotes (fresh : world.Fresh player now) (filed : world.Filed) {scan : Intel}
    (listed : scan ∈ world.intelOf player) :
    ∃ port, world.ports.get? scan.sector = some port ∧ ∀ c, scan.quote c =
      { mode := (port.stock c).mode, qty := (port.stock c).qty, baseQty := (port.stock c).baseQty
        price := world.priceAt scan.sector now c } := by
  rw [intelOf, Intel.sortNewestFirst, (List.mergeSort_perm _ _).mem_iff] at listed
  obtain ⟨⟨⟨owner, sector⟩, found⟩, among, rfl⟩ := List.mem_map.mp listed
  obtain ⟨entry, own⟩ := List.mem_filter.mp among
  cases eq_of_beq own
  obtain ⟨port, name, time, present, rfl⟩ :=
    fresh sector found ((Table.mem_entries_iff _ _ _).mp entry)
  have located : port.sector = sector := filed.ports sector port present
  subst located
  refine ⟨port, present, fun c => ?_⟩
  rw [World.priceAt, show (Intel.capture port name (world.eventAt port.sector now) time).sector =
    port.sector from rfl, present]
  simp [Intel.quote, Intel.capture]

/-- The flights of a player along warps to sectors that they have discovered, by
the number of moves. -/
inductive Tour (world : World) (player : PlayerId) (start : SectorId) : Nat → SectorId → Prop
  | here : Tour world player start 0 start
  | move {moves : Nat} {source target : SectorId} (tour : Tour world player start moves source)
      (warp : world.warps.contains (source, target) = true)
      (known : world.discoveries.contains (player, target) = true) :
      Tour world player start (moves + 1) target

/-- A tour from a discovered sector is a walk on the chart. -/
theorem Tour.walk {start : SectorId} {moves : Nat} (tour : world.Tour player start moves sector)
    (known : world.discoveries.contains (player, start) = true) :
    (world.chartOf player).Walk start moves sector ∧
      world.discoveries.contains (player, sector) = true := by
  induction tour with
  | here => exact ⟨.here, known⟩
  | move _ warp there ih => exact ⟨.hop ih.1 (mem_chartOf.mpr ⟨warp, ih.2, there⟩), there⟩

end World

namespace Route

/-- The orders of a route on given ways. -/
def orders (route : Route) (outbound inbound : List SectorId) : List Command :=
  Command.moves outbound ++ .trade (some .buy) (some route.commodity) route.qty ::
    (Command.moves inbound ++ [.trade (some .sell) (some route.commodity) route.qty])

variable {world : World} {settings : Settings} {now : Int} {player : PlayerId} {row : Player}
  {current : SectorId} {cargoMax : Nat} {seller buyer : Intel} {route : Route}

/-- The port to buy at is discovered: the way on leads from it. -/
theorem Joins.known (joins : route.Joins (world.chartOf player) current cargoMax seller buyer) :
    world.discoveries.contains (player, route.buySector) = true := by
  obtain ⟨_, warp⟩ := joins.onward.walk.leaves joins.apart
  exact (World.mem_chartOf.mp warp).2.1

/-- The port to sell at is discovered: the way leads to it. -/
theorem Joins.known_goal
    (joins : route.Joins (world.chartOf player) current cargoMax seller buyer) :
    world.discoveries.contains (player, route.sellSector) = true := by
  obtain ⟨_, warp⟩ := joins.onward.walk.arrives joins.apart
  exact (World.mem_chartOf.mp warp).2.2

/-- No tour by way of the port to buy at is shorter than the route. -/
theorem Joins.shortest (joins : route.Joins (world.chartOf player) current cargoMax seller buyer)
    {first second : Nat} (outbound : world.Tour player current first route.buySector)
    (inbound : world.Tour player route.buySector second route.sellSector) :
    route.totalMoves ≤ first + second := by
  have known : world.discoveries.contains (player, current) = true := by
    by_cases here : route.buySector = current
    · exact here ▸ joins.known
    · obtain ⟨_, warp⟩ := joins.there.walk.leaves here
      exact (World.mem_chartOf.mp warp).2.1
  have there := joins.there.shortest first (outbound.walk known).1
  have onward := joins.onward.shortest second (inbound.walk joins.known).1
  have moves := joins.moves
  omega

/-- What is traded fits on board, is in stock and is wanted. -/
theorem Joins.bounds {chart : Chart} (joins : route.Joins chart current cargoMax seller buyer)
    (hold : 1 ≤ cargoMax) : 1 ≤ route.qty ∧ route.qty ≤ cargoMax ∧
      route.qty ≤ (seller.quote route.commodity).qty ∧
      route.qty ≤ (buyer.quote route.commodity).demand := by
  have stocked := joins.stocked
  have demanded := joins.demanded
  rw [joins.qty, Nat.max_eq_left hold]
  omega

/-- A pilot flies along a route between ports that are as their scans show. -/
theorem Joins.flown (joins : route.Joins (world.chartOf player) row.sector row.cargoMax seller
      buyer) (pilot : world.Pilot settings now player row) (calm : world.Calm player now)
    (charted : world.Charts (world.chartOf player)) (explored : world.Explored)
    (scanned : seller ∈ world.intelOf player) (scanned' : buyer ∈ world.intelOf player)
    (fresh : world.Fresh player now) (unladen : row.cargo = Goods.empty)
    (hold : 1 ≤ row.cargoMax) (bound : row.cargoMax ≤ 1000000)
    (turns : route.totalTurns ≤ row.turns) (funds : route.buyPrice * route.qty ≤ row.credits) :
    ∃ outbound inbound : List SectorId,
      outbound.length = route.movesToBuy ∧ inbound.length = route.movesBuyToSell ∧
      ∃ after final, Flight settings now player world (route.orders outbound inbound) after ∧
        after.players.get? player = some final ∧
        final.turns + route.totalTurns = row.turns ∧
        final.credits = row.credits + route.profitPerTrip := by
  obtain ⟨sells, offered, asked⟩ := fresh.quotes pilot.reachable.filed scanned
  obtain ⟨buys, wanted, bid⟩ := fresh.quotes pilot.reachable.filed scanned'
  obtain ⟨positive, fits, stocked, demanded⟩ := joins.bounds hold
  have few : route.qty ≤ 1000000 := Nat.le_trans fits bound
  have selling := joins.selling
  have buying := joins.buying
  have price := joins.price
  have profit := joins.profit
  rw [asked] at selling stocked price profit
  rw [bid] at buying demanded profit
  rw [← joins.start] at offered price profit
  rw [← joins.goal] at wanted profit
  rw [price] at funds
  dsimp only [Quote.demand] at demanded
  have total := joins.turns
  have moves := joins.moves
  have roomy : route.qty ≤ row.freeCargo := by
    rw [Player.freeCargo, unladen]
    exact fits
  obtain ⟨outbound, mid, bought, length, way, ⟨xp, level, rfl⟩, ports⟩ :=
    pilot.fly_and_buy calm charted joins.there.walk (by omega) (explored _ _ joins.known) offered
      positive few selling stocked roomy funds
  -- The port to sell at is another one, and still as it was.
  have kept : mid.ports.get? route.sellSector = world.ports.get? route.sellSector := by
    rw [ports]
    exact Table.get?_insert_of_ne _ _ joins.apart
  have exist : mid.sectors.contains route.sellSector = true := by
    rw [way.scene.sectors]
    exact explored _ _ joins.known_goal
  have left : route.movesBuyToSell < row.turns - route.movesToBuy - 1 := by omega
  have carried : route.qty ≤ (row.cargo.set route.commodity
      (row.cargo.get route.commodity + route.qty)).get route.commodity := by
    rw [Goods.get_set_self]
    exact Nat.le_add_left _ _
  obtain ⟨inbound, after, sold, length', way', spent, earned, stored⟩ :=
    way.pilot.fly_and_sell (way.scene.calm calm) (way.scene.charts charted) joins.onward.walk
      left exist (kept.trans wanted) positive few buying carried (by omega)
  have flight := (way.trans way').flight
  rw [List.append_assoc] at flight
  refine ⟨outbound, inbound, length, length', after, sold, flight, stored, ?_, ?_⟩
  · dsimp only at spent
    omega
  · rw [earned, way.scene.priceAt kept, profit, Int.sub_mul]
    dsimp only
    omega

end Route

/-- A suggested route can be flown as promised. Given scans that show the ports as
they are and nothing to fear, a player with the turns and the credits for it has
ways on which all of its orders are accepted; they take exactly the turns and
bring exactly the profit. No ways through discovered sectors are shorter. -/
theorem suggestions_can_be_flown {world : World} (inhabited : world.Inhabited)
    (numbered : ∀ sector, world.sectors.contains sector = true → 1 ≤ sector ∧ sector ≤ counterMax)
    {settings : Settings} {now : Int} {player : PlayerId} {row : Player}
    (ready : world.granted settings now player = some row) (plain : row.isAdmin = false)
    (free : row.mustChangePassword = false) (unladen : row.cargo = Goods.empty)
    (hold : 1 ≤ row.cargoMax) (bound : row.cargoMax ≤ 1000000)
    (fresh : world.Fresh player now) (calm : world.Calm player now)
    {filter : Option Commodity} {route : Route}
    (suggested : world.suggestion now row filter = some route)
    (turns : route.totalTurns ≤ row.turns) (funds : route.buyPrice * route.qty ≤ row.credits) :
    (∃ outbound inbound : List SectorId,
      outbound.length = route.movesToBuy ∧ inbound.length = route.movesBuyToSell ∧
      ∃ after final, Flight settings now player world (route.orders outbound inbound) after ∧
        after.players.get? player = some final ∧
        final.turns + route.totalTurns = row.turns ∧
        final.credits = row.credits + route.profitPerTrip) ∧
    ∀ first second, world.Tour player row.sector first route.buySector →
      world.Tour player route.buySector second route.sellSector →
        route.totalMoves ≤ first + second := by
  have pilot : world.Pilot settings now player row := ⟨inhabited.reachable, ready, plain, free⟩
  have explored := inhabited.explored
  have charted : world.Charts (world.chartOf player) := by
    intro source target drawn
    obtain ⟨warp, _, known⟩ := World.mem_chartOf.mp drawn
    have exist := explored player target known
    exact ⟨warp, exist, numbered target exist⟩
  obtain ⟨seller, scanned, buyer, scanned', joins⟩ := Route.best?_joins suggested
  rw [pilot.own] at scanned scanned' joins
  exact ⟨joins.flown pilot calm charted explored scanned scanned' fresh unladen hold bound turns
    funds, fun _ _ outbound inbound => joins.shortest outbound inbound⟩

/-- Sectors 2 and 3 of the drill and their ports, apart from the others. -/
def Drill.crossing : World :=
  let sectors := (World.empty.addSector 2 "Vega").addSector 3 "Rigel"
  let linked := (sectors.addWarp (2, 3)).addWarp (3, 2)
  (linked.addPort ⟨2, ⟨fullStock 1000 10 25, demand 300 1000 16 20, demand 200 600 32 10⟩⟩).addPort
    ⟨3, ⟨demand 200 1000 12 20, fullStock 800 14 20, fullStock 400 28 8⟩⟩

theorem Drill.crossing_inhabited : crossing.Inhabited :=
  .lay (.lay (.lay (.lay (.lay (.lay .empty (.sector 2 "Vega") rfl) (.sector 3 "Rigel") rfl)
    (.warp (2, 3)) rfl) (.warp (3, 2)) rfl) (.port _) rfl) (.port _) rfl

/-- Ada, who has just been put into a sector. -/
def Drill.ada (sector : SectorId) : Player :=
  Settings.standard.newPlayer 7 "ada" sector ⟨1, "Season 1", startTime⟩ startTime

/-- A look around by the pilot of the drill. -/
def Drill.looked (world : World) : World :=
  (Storage.execute Settings.standard startTime 7 (.ofKind "SCAN") (.ofWorld world)).2.world

/-- The pilot of the drill has seen the ports of sectors 3 and 2, in turn. -/
def Drill.scouted : World :=
  looked ((looked (crossing.addPlayer (ada 3))).addPlayer (ada 2))

theorem Drill.scouted_inhabited : scouted.Inhabited :=
  .step (.place (.step (.place crossing_inhabited (by decide)) (.command rfl))
    (by decide +kernel)) (.command rfl)

theorem Drill.scouted_calm : scouted.Calm 7 startTime where
  mines := by decide +kernel
  raiders := by decide +kernel

theorem Drill.scouted_granted :
    scouted.granted Settings.standard startTime 7 = some { ada 2 with xp := 10, turns := 99 } := by
  decide +kernel

theorem Drill.scouted_fresh : scouted.Fresh 7 startTime := by
  intro sector scan found
  have checked : ∀ entry ∈ scouted.intel.entries,
      ∃ port ∈ scouted.ports.get? entry.1.2, entry.2 = Intel.capture port entry.2.sectorName
        (scouted.eventAt entry.1.2 startTime) entry.2.scannedAt := by
    decide +kernel
  obtain ⟨port, present, same⟩ := checked _ ((Table.mem_entries_iff _ _ _).mpr found)
  exact ⟨port, scan.sectorName, scan.scannedAt, present, same⟩

/-- What the pilot of the drill is told to do: buy equipment in sector 3 and bring
it back to sector 2. -/
def Drill.errand : Route where
  commodity := .equipment
  buySector := 3
  buySectorName := "Rigel"
  sellSector := 2
  sellSectorName := "Vega"
  buyPrice := 28
  sellPrice := 53
  buyScannedAt := startTime
  sellScannedAt := startTime
  movesToBuy := 1
  movesBuyToSell := 1
  totalMoves := 2
  totalTurns := 4
  qty := 30
  profitPerUnit := 25
  profitPerTrip := 750
  score := 187500

theorem Drill.scouted_suggestion :
    scouted.suggestion startTime { ada 2 with xp := 10, turns := 99 } none = some errand := by
  -- The scans are listed as they are sorted.
  have listed : scouted.intelOf 7 =
      (scouted.intel.entries.filter fun entry => entry.1.1 == 7).map (·.2) := by
    refine List.mergeSort_of_pairwise ?_
    decide +kernel
  change Route.best? _ _ _ _ (scouted.intelOf 7) _ = _
  rw [listed]
  decide +kernel

theorem Drill.scouted_numbered (sector : SectorId)
    (exist : scouted.sectors.contains sector = true) : 1 ≤ sector ∧ sector ≤ counterMax := by
  have checked : ∀ sector ∈ scouted.sectors.keys, 1 ≤ sector ∧ sector ≤ counterMax := by
    decide +kernel
  exact checked sector (Table.mem_keys_iff.mpr exist)

/-- The errand is two moves and two trades, and brings 750 credits. -/
theorem suggestions_can_be_flown_errand :
    ∃ outbound inbound after final, outbound.length = 1 ∧ inbound.length = 1 ∧
      Flight Settings.standard Drill.startTime 7 Drill.scouted
        (Drill.errand.orders outbound inbound) after ∧
      after.players.get? 7 = some final ∧ final.turns + 4 = 99 ∧ final.credits = 1750 := by
  obtain ⟨⟨outbound, inbound, out, back, after, final, flight, stored, spent, earned⟩, _⟩ :=
    suggestions_can_be_flown Drill.scouted_inhabited Drill.scouted_numbered Drill.scouted_granted
      rfl rfl rfl (by decide) (by decide) Drill.scouted_fresh Drill.scouted_calm
      Drill.scouted_suggestion (by decide) (by decide)
  exact ⟨outbound, inbound, after, final, out, back, flight, stored, spent, earned⟩

end Starlane
