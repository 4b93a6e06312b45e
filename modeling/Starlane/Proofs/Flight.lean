import Starlane.Proofs.Chart
import Starlane.Proofs.Response
import Starlane.Proofs.Roster
import Starlane.Proofs.Ruling

/-!
# Flights

When the conditions of a move along a warp, of a purchase or of a sale are met,
the order is accepted, and the pilot afterwards is known exactly. A flight is a
list of orders that were all accepted, one after the other and at one time. Where
there is nothing to fear, a pilot can fly along any warps that they have the
turns for.
-/

namespace Starlane

namespace Player

/-- Whether a player has been granted the turns that are due by a time. -/
def UpToDate (interval now : Int) (player : Player) : Prop :=
  ∃ stamp, player.regenStamp = some stamp ∧ now - stamp < max interval regenIntervalMin

variable {interval now : Int} {player : Player}

/-- Nothing is granted twice at one time. -/
theorem UpToDate.regenerate (upToDate : player.UpToDate interval now) :
    (player.regenerate interval now).1 = player := by
  obtain ⟨stamp, stamped, recent⟩ := upToDate
  unfold Player.regenerate
  rw [stamped]
  dsimp only
  rw [if_pos recent]

theorem regenerate_upToDate (interval now : Int) (player : Player) :
    (player.regenerate interval now).1.UpToDate interval now := by
  have positive : 0 < max interval regenIntervalMin := by
    unfold regenIntervalMin
    omega
  unfold Player.regenerate
  dsimp only
  split
  · exact ⟨now, rfl, by omega⟩
  · next stamp stamped =>
    split
    · next recent => exact ⟨stamp, stamped, recent⟩
    · refine ⟨_, rfl, ?_⟩
      have rest := Int.emod_lt_of_pos (now - stamp) positive
      have whole := Int.emod_add_mul_ediv (now - stamp) (max interval regenIntervalMin)
      rw [Int.mul_comm] at whole
      omega

end Player

namespace World

/-- A player's row when they give a command: with the turns that are due by then. -/
def granted (world : World) (settings : Settings) (now : Int) (player : PlayerId) :
    Option Player :=
  (world.players.get? player).map fun row => (row.regenerate settings.turnRegenSeconds now).1

/-- Whether a player may fly: they are no administrator, need not change their
password, and have the given row when they give a command. -/
structure Pilot (world : World) (settings : Settings) (now : Int) (player : PlayerId)
    (row : Player) : Prop where
  reachable : world.Reachable
  ready : world.granted settings now player = some row
  plain : row.isAdmin = false
  free : row.mustChangePassword = false

/-- Whether a player has nothing to fear anywhere: no mines are hostile to them,
and no raiders are about. -/
structure Calm (world : World) (player : PlayerId) (now : Int) : Prop where
  mines : ∀ field ∈ world.minefields.values,
    field.isHostileTo player ((world.membershipOf player).map (·.corp)) = false
  raiders : ∀ event ∈ world.activeEvents now, event.kind ≠ .invasion

/-- Whether two worlds have the same sectors, warps, events, mines and rosters. -/
structure SameScene (world after : World) : Prop where
  sectors : after.sectors = world.sectors
  warps : after.warps = world.warps
  events : after.events = world.events
  minefields : after.minefields = world.minefields
  corps : after.corps = world.corps
  members : after.members = world.members

variable {world mid after : World} {settings : Settings} {now : Int} {player : PlayerId}
  {row : Player}

theorem SameScene.refl : world.SameScene world :=
  ⟨rfl, rfl, rfl, rfl, rfl, rfl⟩

theorem SameScene.trans (first : world.SameScene mid) (second : mid.SameScene after) :
    world.SameScene after where
  sectors := second.sectors.trans first.sectors
  warps := second.warps.trans first.warps
  events := second.events.trans first.events
  minefields := second.minefields.trans first.minefields
  corps := second.corps.trans first.corps
  members := second.members.trans first.members

theorem SameScene.eventAt (scene : world.SameScene after) (sector : SectorId) (now : Int) :
    after.eventAt sector now = world.eventAt sector now := by
  simp only [World.eventAt, activeEvents, scene.events]

theorem SameScene.priceAt (scene : world.SameScene after) {sector : SectorId}
    (port : after.ports.get? sector = world.ports.get? sector) (now : Int) (c : Commodity) :
    after.priceAt sector now c = world.priceAt sector now c := by
  unfold World.priceAt
  rw [port, scene.eventAt]

theorem SameScene.calm (scene : world.SameScene after) (calm : world.Calm player now) :
    after.Calm player now where
  mines field member := by
    rw [scene.minefields] at member
    rw [membershipOf_congr scene.members scene.corps]
    exact calm.mines field member
  raiders event member := by
    refine calm.raiders event ?_
    rw [activeEvents, scene.events] at member
    exact member

/-- Where there are no raiders nothing is taken on entry. -/
theorem Calm.toll (calm : world.Calm player now) (sector : SectorId) (credits : Int) :
    Plan.toll (world.eventAt sector now) credits = 0 := by
  unfold Plan.toll
  split
  · next event happening =>
    have active := List.mem_of_mem_filter (List.minOn?_mem happening)
    exact if_neg (calm.raiders event active)
  · rfl

/-- Where no mines are hostile none go off. -/
theorem Calm.strike (calm : world.Calm player now) (sector : SectorId) :
    Plan.strike (world.minefieldsIn sector) player ((world.membershipOf player).map (·.corp)) =
      (0, []) := by
  have none : Minefield.hostile (world.minefieldsIn sector) player
      ((world.membershipOf player).map (·.corp)) = [] := by
    refine List.filter_eq_nil_iff.mpr fun field member threat => ?_
    have friendly := calm.mines field (List.mem_of_mem_filter member)
    simp [friendly] at threat
  simp [Plan.strike, Minefield.strikeOrder, none, Minefield.consume]

/-- A pilot who has paid the turn of an order. -/
def paying (world : World) (player : PlayerId) (row : Player) : Commander :=
  { toPlayer := { row with turns := row.turns - 1 }, membership := world.membershipOf player }

end World

namespace Plan

variable {look : Lookup} {now : Int} {commander : Commander}

theorem destination?_eq_some {target : Int} {there : Nat} :
    destination? target = some there ↔ 1 ≤ there ∧ there ≤ counterMax ∧ (there : Int) = target := by
  unfold destination?
  constructor
  · intro named
    split at named
    · cases named
      omega
    · cases named
  · rintro ⟨low, high, rfl⟩
    rw [if_pos (by omega), Int.toNat_natCast]

/-- An arrival where the event can be read is planned. -/
theorem arrive_planned {there : SectorId} {event : Option Event}
    (happening : look.event there now = .ok event) :
    arrive look now commander there = .ok (arrival look now commander there event) := by
  unfold arrive
  rw [happening]
  change writing _ (writing _ (pure _)) = _
  rw [writing_pure _ rfl]
  rfl

/-- A move to a destination that is reached is planned. -/
theorem move_planned {target : Int} {there : SectorId} {event : Option Event}
    (destined : destination? target = some there)
    (reached : if commander.isAdmin then (look.sector there).isSome = true
      else look.hasWarp commander.sector there = true)
    (happening : look.event there now = .ok event) :
    move look now commander target = .ok (arrival look now commander there event) := by
  simp only [move, destined, expect, bind, Except.bind]
  split at reached
  · next admin =>
    rw [if_pos admin, reached]
    exact arrive_planned happening
  · next ordinary =>
    rw [if_neg ordinary, reached]
    exact arrive_planned happening

/-- A move along a warp is planned. -/
theorem move_made {there : SectorId} {event : Option Event} (plain : commander.isAdmin = false)
    (low : 1 ≤ there) (high : there ≤ counterMax)
    (reached : look.hasWarp commander.sector there = true)
    (happening : look.event there now = .ok event) :
    move look now commander there = .ok (arrival look now commander there event) := by
  refine move_planned (destination?_eq_some.mpr ⟨low, high, rfl⟩) ?_ happening
  rw [if_neg (by simp [plain])]
  exact reached

/-- A quantity within the limits is one. -/
theorem quantity_counted {qty : Nat} (positive : 1 ≤ qty) (few : qty ≤ 1000000) :
    quantity? (qty : Int) = some qty := by
  have valid : 1 ≤ (qty : Int) ∧ (qty : Int) ≤ quantityMax := by
    unfold quantityMax
    omega
  rw [quantity?, if_pos valid, Int.toNat_natCast]

/-- What the port has in stock and the commander can stow and pay for is bought. -/
theorem trade_bought {port : Port} {event : Option Event} {c : Commodity} {qty : Nat}
    (positive : 1 ≤ qty) (few : qty ≤ 1000000)
    (found : look.port commander.sector = .ok (some port))
    (happening : look.event commander.sector now = .ok event)
    (selling : (port.stock c).mode = .sell) (stocked : qty ≤ (port.stock c).qty)
    (roomy : qty ≤ commander.freeCargo)
    (funded : Price.ofStock (port.stock c) c event * qty ≤ commander.credits) :
    ∃ text, trade look now commander (some .buy) (some c) qty =
      .ok (.logged { commander with
          credits := commander.credits - Price.ofStock (port.stock c) c event * qty
          cargo := commander.cargo.set c (commander.cargo.get c + qty) }
        [.savePort (port.setQty c ((port.stock c).qty - qty))] .action text) := by
  have made : purchase port c qty (Price.ofStock (port.stock c) c event) commander = .ok {
      price := Price.ofStock (port.stock c) c event
      total := Price.ofStock (port.stock c) c event * qty
      commander := { commander with
        credits := commander.credits - Price.ofStock (port.stock c) c event * qty
        cargo := commander.cargo.set c (commander.cargo.get c + qty) }
      port := port.setQty c ((port.stock c).qty - qty) } := by
    unfold purchase
    simp only [selling, beq_self_eq_true, stocked, roomy, funded, decide_true]
    rfl
  unfold trade
  rw [quantity_counted positive few, found, happening]
  simp only [expect, read, bind, Except.bind, made]
  exact ⟨_, rfl⟩

/-- What the commander has and the port still takes is sold. -/
theorem trade_sold {port : Port} {event : Option Event} {c : Commodity} {qty : Nat}
    (positive : 1 ≤ qty) (few : qty ≤ 1000000)
    (found : look.port commander.sector = .ok (some port))
    (happening : look.event commander.sector now = .ok event)
    (buying : (port.stock c).mode = .buy) (carried : qty ≤ commander.cargo.get c)
    (demanded : (port.stock c).qty + qty ≤ (port.stock c).baseQty) :
    ∃ text, trade look now commander (some .sell) (some c) qty =
      .ok (.logged { commander with
          credits := commander.credits + Price.ofStock (port.stock c) c event * qty
          cargo := commander.cargo.set c (commander.cargo.get c - qty) }
        [.savePort (port.setQty c ((port.stock c).qty + qty))] .action text) := by
  have made : sale port c qty (Price.ofStock (port.stock c) c event) commander = .ok {
      price := Price.ofStock (port.stock c) c event
      total := Price.ofStock (port.stock c) c event * qty
      commander := { commander with
        credits := commander.credits + Price.ofStock (port.stock c) c event * qty
        cargo := commander.cargo.set c (commander.cargo.get c - qty) }
      port := port.setQty c ((port.stock c).qty + qty) } := by
    unfold sale
    simp only [buying, beq_self_eq_true, carried, demanded, decide_true]
    rfl
  unfold trade
  rw [quantity_counted positive few, found, happening]
  simp only [expect, read, bind, Except.bind, made]
  exact ⟨_, rfl⟩

end Plan

/-- A command whose cost is paid and that is planned comes to its effects, with the
reward. -/
theorem Command.outcome_made {look : Lookup} {now : Int} {command : Command}
    {commander : Commander} {effects : Effects} (free : commander.mustChangePassword = false)
    (affordable : command.costFor commander ≤ commander.turns)
    (planned : command.plan look now (command.paidBy commander) = .ok effects) :
    command.outcome look now commander =
      .ok (effects.rewarded (command.rewardFor commander)) := by
  have charged : command.charge commander = .ok (command.paidBy commander) := by
    have allowed : Plan.require (!commander.mustChangePassword) .passwordChange = .ok () := by
      rw [free]
      rfl
    have paid : Plan.require (decide (command.costFor commander ≤ commander.turns)) .turnsShort =
        .ok () := by
      rw [decide_eq_true affordable]
      rfl
    simp only [charge, allowed, paid]
    rfl
  unfold outcome
  rw [charged]
  simp only [bind, Except.bind, planned]
  rfl

/-- A local command that comes to effects is accepted. -/
theorem Storage.execute_made {world : World} (filed : world.Filed) (rostered : world.Rostered)
    {settings : Settings} {now : Int} {player : PlayerId} {request : Request}
    (isLocal : (Command.ofRequest request).isLocal = true) {row : Player}
    (found : world.players.get? player = some row) {effects : Effects}
    (outcome : (Command.ofRequest request).outcome world.lookup now
      (world.present settings now player row) = .ok effects)
    (there : world.sectors.contains effects.commander.sector = true) :
    ∃ response, execute settings now player request (.ofWorld world) =
        (.ok response, .ofWorld (world.writtenAll (effects.allWrites now))) ∧
      response.ok = true := by
  have ruled : world.ruling settings now player (.ofRequest request) =
      .verdict effects.commander effects.message none (effects.allWrites now) := by
    unfold World.ruling
    rw [found]
    dsimp only
    rw [outcome]
    exact if_pos there
  have stays : (world.writtenAll (effects.allWrites now)).sectors.contains
      effects.commander.sector = true := by
    rw [(world.writtenAll_map _).1]
    exact there
  obtain ⟨response, answered⟩ := World.respond_located stays
    (Settings.shownLogs settings.recentLogLimit) now effects.message none
  rw [execute_ruled filed rostered isLocal, ruled]
  refine ⟨response, congrArg (·, _) answered, ?_⟩
  rw [Response.ok, (Lookup.respond_success answered).2.1]
  rfl

/-- The commands that a player gives at one time, each of them accepted, and the
world after them. -/
inductive Flight (settings : Settings) (now : Int) (player : PlayerId) (start : World) :
    List Command → World → Prop
  | start : Flight settings now player start [] start
  | order {commands : List Command} {world after : World} {request : Request}
      {response : Response} (flight : Flight settings now player start commands world)
      (executed : Storage.execute settings now player request (.ofWorld world) =
        (.ok response, .ofWorld after))
      (accepted : response.ok = true) :
      Flight settings now player start (commands ++ [.ofRequest request]) after

variable {settings : Settings} {now : Int} {player : PlayerId} {world mid after : World}
  {row : Player}

/-- A flight goes on with another one. -/
theorem Flight.trans {commands later : List Command}
    (first : Flight settings now player world commands mid)
    (second : Flight settings now player mid later after) :
    Flight settings now player world (commands ++ later) after := by
  induction second with
  | start =>
    rw [List.append_nil]
    exact first
  | order _ executed accepted ih =>
    rw [← List.append_assoc]
    exact ih.order executed accepted

/-- The moves through some sectors, in order. -/
def Command.moves (path : List SectorId) : List Command :=
  path.map fun sector : SectorId => .move sector

/-- Every move is asked for by some request. -/
theorem Command.move_asked (target : Int) :
    ∃ request, Command.ofRequest request = .move target := by
  have kind : Text.upper (Text.trim "MOVE") = "MOVE" := by decide +kernel
  refine ⟨{ Request.ofKind "MOVE" with target }, ?_⟩
  simp [ofRequest, ofNormalized, Request.normalized, Request.ofKind, kind]

/-- Every trade is asked for by some request. -/
theorem Command.trade_asked (side : TradeSide) (c : Commodity) (quantity : Int) :
    ∃ request, Command.ofRequest request = .trade (some side) (some c) quantity := by
  have kind : Text.upper (Text.trim "TRADE") = "TRADE" := by decide +kernel
  have buy : Text.upper (Text.trim "BUY") = "BUY" := by decide +kernel
  have sell : Text.upper (Text.trim "SELL") = "SELL" := by decide +kernel
  have code : Commodity.ofCode? (Text.upper (Text.trim c.code)) = some c := by
    cases c <;> decide +kernel
  cases side with
  | buy =>
    refine ⟨{ Request.ofKind "TRADE" with action := "BUY", commodity := c.code, quantity }, ?_⟩
    simp [ofRequest, ofNormalized, Request.normalized, Request.ofKind, kind, buy, code,
      TradeSide.ofAction?]
  | sell =>
    refine ⟨{ Request.ofKind "TRADE" with action := "SELL", commodity := c.code, quantity }, ?_⟩
    simp [ofRequest, ofNormalized, Request.normalized, Request.ofKind, kind, sell, code,
      TradeSide.ofAction?]

namespace World

/-- Whether a pilot can give some commands, and what world and what row come of
it; the scene stays the same. -/
structure Flown (world : World) (settings : Settings) (now : Int) (player : PlayerId)
    (commands : List Command) (after : World) (row : Player) : Prop where
  flight : Flight settings now player world commands after
  pilot : after.Pilot settings now player row
  scene : world.SameScene after

theorem Pilot.own (pilot : world.Pilot settings now player row) : row.id = player := by
  obtain ⟨stored, found, loaded⟩ := Option.map_eq_some_iff.mp pilot.ready
  rw [← loaded, Player.regenerate_id]
  exact pilot.reachable.filed.players player stored found

theorem Pilot.rested (pilot : world.Pilot settings now player row) :
    row.UpToDate settings.turnRegenSeconds now := by
  obtain ⟨stored, _, loaded⟩ := Option.map_eq_some_iff.mp pilot.ready
  exact loaded ▸ stored.regenerate_upToDate settings.turnRegenSeconds now

theorem Pilot.stays (pilot : world.Pilot settings now player row) :
    world.Flown settings now player [] world row :=
  ⟨.start, pilot, .refl⟩

theorem Flown.trans {commands later : List Command} {arrived final : Player}
    (first : world.Flown settings now player commands mid arrived)
    (second : mid.Flown settings now player later after final) :
    world.Flown settings now player (commands ++ later) after final where
  flight := first.flight.trans second.flight
  pilot := second.pilot
  scene := first.scene.trans second.scene

/-- An order that costs one turn and is planned comes to its effects, with some
experience. -/
theorem Pilot.outcome (pilot : world.Pilot settings now player row) {command : Command}
    (cost : command.turnCost = 1) (turn : 1 ≤ row.turns) {effects : Effects}
    (planned : command.plan world.lookup now (world.paying player row) = .ok effects) :
    ∃ stored experience, world.players.get? player = some stored ∧
      command.outcome world.lookup now (world.present settings now player stored) =
        .ok (effects.rewarded experience) := by
  obtain ⟨stored, found, loaded⟩ := Option.map_eq_some_iff.mp pilot.ready
  have present : world.present settings now player stored =
      { toPlayer := row, membership := world.membershipOf player } := by
    rw [World.present, loaded]
  have fee : command.costFor { toPlayer := row, membership := world.membershipOf player } = 1 := by
    rw [Command.costFor, if_neg (by simp [pilot.plain]), cost]
  have paid : command.paidBy { toPlayer := row, membership := world.membershipOf player } =
      world.paying player row := by
    rw [Command.paidBy, fee]
    rfl
  have made := Command.outcome_made pilot.free (fee.trans_le turn) (paid ▸ planned)
  exact ⟨stored, _, found, present ▸ made⟩

/-- A planned order that costs one turn is accepted; it does to the pilot and to
the ports what it says. -/
theorem Pilot.ordered (pilot : world.Pilot settings now player row) {command : Command}
    (asked : ∃ request, Command.ofRequest request = command) (isLocal : command.isLocal = true)
    (cost : command.turnCost = 1) (turn : 1 ≤ row.turns) {effects : Effects} {sector : SectorId}
    {credits : Int} {cargo : Goods Nat}
    (planned : command.plan world.lookup now (world.paying player row) = .ok effects)
    (kept : effects.commander.toPlayer =
      { row with turns := row.turns - 1, sector, credits, cargo })
    (there : world.sectors.contains sector = true)
    (scenic : world.SameScene (world.writtenAll effects.writes)) :
    ∃ after rewarded, world.Flown settings now player [command] after rewarded ∧
      (∃ xp level, rewarded =
        { row with turns := row.turns - 1, sector, credits, cargo, xp, level }) ∧
      after.players.get? player = some rewarded ∧
      after.ports = (world.writtenAll effects.writes).ports := by
  obtain ⟨request, rfl⟩ := asked
  obtain ⟨stored, experience, found, outcome⟩ := pilot.outcome cost turn planned
  have next := Rank.award_frame experience effects.commander.toPlayer
  have saved := effects.rewarded_player experience
  rw [kept] at next saved
  obtain ⟨response, executed, accepted⟩ := Storage.execute_made pilot.reachable.filed
    pilot.reachable.rostered isLocal found outcome (by rw [saved, next]; exact there)
  obtain ⟨logs, same⟩ := world.writtenAll_rewarded effects experience now
  have claimed : effects.commander.id = player := (congrArg Player.id kept).trans pilot.own
  rw [claimed, kept] at same
  generalize (Rank.award experience _).1 = rewarded at next same
  have rested : rewarded.UpToDate settings.turnRegenSeconds now := by
    rw [next]
    exact pilot.rested
  have held : (world.writtenAll ((effects.rewarded experience).allWrites now)).players.get?
      player = some rewarded := by
    rw [same]
    exact Table.get?_insert_self _ _ _
  refine ⟨_, rewarded, ⟨.order .start executed accepted, ?_, ?_⟩, ⟨_, _, next⟩, held, ?_⟩
  · refine ⟨pilot.reachable.step (.command executed), ?_, ?_, ?_⟩
    · rw [granted, held]
      exact congrArg some rested.regenerate
    · rw [next]
      exact pilot.plain
    · rw [next]
      exact pilot.free
  · rw [same]
    exact { scenic with }
  · rw [same]

/-- Where there is nothing to fear, who arrives only gets to know the sector. -/
theorem Calm.arrival (calm : world.Calm player now) (own : row.id = player) (there : SectorId) :
    (Plan.arrival world.lookup now (world.paying player row) there
        (world.eventAt there now)).commander.toPlayer =
      { row with turns := row.turns - 1, sector := there } ∧
    (Plan.arrival world.lookup now (world.paying player row) there
        (world.eventAt there now)).writes = [.discover player there] := by
  have quiet : Plan.strike (world.lookup.minefields there) (world.paying player row).id
      (world.paying player row).corp? = (0, []) := by
    have clear := calm.strike there
    rw [← own] at clear ⊢
    exact clear
  have unharmed : Plan.repairs world.lookup (world.paying player row) there
      (world.eventAt there now) = 0 := by
    rw [Plan.repairs, Plan.detonated, quiet, calm.toll]
    unfold Minefield.strikeDamage
    omega
  rw [Plan.arrival_eq, quiet, unharmed, calm.toll]
  refine ⟨?_, by rw [← own]; rfl⟩
  simp [paying]

/-- A pilot who has a turn left moves along a warp. -/
theorem Pilot.move (pilot : world.Pilot settings now player row) (calm : world.Calm player now)
    {there : SectorId} (low : 1 ≤ there) (high : there ≤ counterMax)
    (exist : world.sectors.contains there = true)
    (warp : world.warps.contains (row.sector, there) = true) (turn : 1 ≤ row.turns) :
    ∃ after moved, world.Flown settings now player [.move there] after moved ∧
      (∃ xp level, moved = { row with turns := row.turns - 1, sector := there, xp, level }) ∧
      after.ports = world.ports := by
  have happening : world.lookup.event there now = .ok (world.eventAt there now) := rfl
  obtain ⟨kept, writes⟩ := calm.arrival pilot.own there
  have scenic : world.SameScene (world.writtenAll [.discover player there]) :=
    ⟨rfl, rfl, rfl, rfl, rfl, rfl⟩
  obtain ⟨after, moved, flown, same, _, ports⟩ := pilot.ordered (Command.move_asked there) rfl rfl
    turn (Plan.move_made pilot.plain low high (hasWarp_iff.mpr warp) happening) kept exist
    (writes ▸ scenic)
  rw [writes] at ports
  exact ⟨after, moved, flown, same, ports⟩

/-- A pilot who has a turn left buys what the port of the sector has, if there is
space and money for it. -/
theorem Pilot.buy (pilot : world.Pilot settings now player row) (turn : 1 ≤ row.turns)
    (here : world.sectors.contains row.sector = true) {port : Port}
    (found : world.ports.get? row.sector = some port) {c : Commodity} {qty : Nat}
    (positive : 1 ≤ qty) (few : qty ≤ 1000000) (selling : (port.stock c).mode = .sell)
    (stocked : qty ≤ (port.stock c).qty) (roomy : qty ≤ row.freeCargo)
    (funded : world.priceAt row.sector now c * qty ≤ row.credits) :
    ∃ after bought, world.Flown settings now player [.trade (some .buy) (some c) qty] after bought ∧
      (∃ xp level, bought = { row with
        turns := row.turns - 1
        credits := row.credits - world.priceAt row.sector now c * qty
        cargo := row.cargo.set c (row.cargo.get c + qty), xp, level }) ∧
      after.ports = world.ports.insert row.sector (port.setQty c ((port.stock c).qty - qty)) := by
  have offered : world.lookup.port (world.paying player row).sector = .ok (some port) :=
    congrArg Except.ok found
  have happening : world.lookup.event (world.paying player row).sector now =
    .ok (world.eventAt row.sector now) := rfl
  have price : world.priceAt row.sector now c = _ := world.price_found offered happening c
  have located : port.sector = row.sector := pilot.reachable.filed.ports _ _ found
  rw [price] at funded ⊢
  obtain ⟨text, planned⟩ :=
    Plan.trade_bought positive few offered happening selling stocked roomy funded
  obtain ⟨after, bought, flown, same, _, ports⟩ := pilot.ordered (Command.trade_asked .buy c qty)
    rfl rfl turn planned rfl here ⟨rfl, rfl, rfl, rfl, rfl, rfl⟩
  exact ⟨after, bought, flown, same, located ▸ ports⟩

/-- A pilot who has a turn left sells what they have to a port of the sector that
takes it. -/
theorem Pilot.sell (pilot : world.Pilot settings now player row) (turn : 1 ≤ row.turns)
    (here : world.sectors.contains row.sector = true) {port : Port}
    (found : world.ports.get? row.sector = some port) {c : Commodity} {qty : Nat}
    (positive : 1 ≤ qty) (few : qty ≤ 1000000) (buying : (port.stock c).mode = .buy)
    (carried : qty ≤ row.cargo.get c)
    (demanded : (port.stock c).qty + qty ≤ (port.stock c).baseQty) :
    ∃ after sold, world.Flown settings now player [.trade (some .sell) (some c) qty] after sold ∧
      (∃ xp level, sold = { row with
        turns := row.turns - 1
        credits := row.credits + world.priceAt row.sector now c * qty
        cargo := row.cargo.set c (row.cargo.get c - qty), xp, level }) ∧
      after.players.get? player = some sold := by
  have offered : world.lookup.port (world.paying player row).sector = .ok (some port) :=
    congrArg Except.ok found
  have happening : world.lookup.event (world.paying player row).sector now =
    .ok (world.eventAt row.sector now) := rfl
  have price : world.priceAt row.sector now c = _ := world.price_found offered happening c
  rw [price]
  obtain ⟨text, planned⟩ :=
    Plan.trade_sold positive few offered happening buying carried demanded
  obtain ⟨after, sold, flown, same, stored, _⟩ := pilot.ordered (Command.trade_asked .sell c qty)
    rfl rfl turn planned rfl here ⟨rfl, rfl, rfl, rfl, rfl, rfl⟩
  exact ⟨after, sold, flown, same, stored⟩

/-- Whether a chart shows warps that lead to sectors that exist and can be named. -/
def Charts (world : World) (chart : Chart) : Prop :=
  ∀ source target, (source, target) ∈ chart.warps →
    world.warps.contains (source, target) = true ∧ world.sectors.contains target = true ∧
      1 ≤ target ∧ target ≤ counterMax

theorem SameScene.charts (scene : world.SameScene after) {chart : Chart}
    (charted : world.Charts chart) : after.Charts chart := by
  intro source target drawn
  rw [scene.warps, scene.sectors]
  exact charted source target drawn

/-- A pilot with enough turns flies along a walk on a chart. -/
theorem Pilot.fly (pilot : world.Pilot settings now player row) (calm : world.Calm player now)
    {chart : Chart} (charted : world.Charts chart) {hops : Nat} {target : SectorId}
    (walk : chart.Walk row.sector hops target)
    (turns : hops ≤ row.turns) :
    ∃ (path : List SectorId) (after : World) (moved : Player), path.length = hops ∧
      world.Flown settings now player (Command.moves path) after moved ∧
      (∃ xp level, moved =
        { row with turns := row.turns - hops, sector := target, xp, level }) ∧
      after.ports = world.ports := by
  induction walk with
  | here => exact ⟨[], world, row, rfl, pilot.stays, ⟨row.xp, row.level, rfl⟩, rfl⟩
  | @hop hops source target _ warp ih =>
    obtain ⟨path, mid, arrived, length, first, ⟨xp, level, rfl⟩, ports⟩ := ih (by omega)
    obtain ⟨open', exist, low, high⟩ := charted source target warp
    have left : 1 ≤ row.turns - hops := by omega
    obtain ⟨after, moved, next, ⟨xp, level, rfl⟩, ports'⟩ :=
      first.pilot.move (first.scene.calm calm) low high (first.scene.sectors ▸ exist)
        (first.scene.warps ▸ open') left
    refine ⟨path ++ [target], after, _, ?_, ?_, ⟨xp, level, rfl⟩, ports'.trans ports⟩
    · rw [List.length_append, length]
      rfl
    · rw [Command.moves, List.map_append]
      exact first.trans next

/-- A pilot flies to a port and buys there. -/
theorem Pilot.fly_and_buy (pilot : world.Pilot settings now player row)
    (calm : world.Calm player now) {chart : Chart} (charted : world.Charts chart) {hops : Nat}
    {target : SectorId} (walk : chart.Walk row.sector hops target) (turns : hops < row.turns)
    (exist : world.sectors.contains target = true) {port : Port}
    (found : world.ports.get? target = some port) {c : Commodity} {qty : Nat}
    (positive : 1 ≤ qty) (few : qty ≤ 1000000) (selling : (port.stock c).mode = .sell)
    (stocked : qty ≤ (port.stock c).qty) (roomy : qty ≤ row.freeCargo)
    (funded : world.priceAt target now c * qty ≤ row.credits) :
    ∃ (path : List SectorId) (after : World) (bought : Player), path.length = hops ∧
      world.Flown settings now player
        (Command.moves path ++ [.trade (some .buy) (some c) qty]) after bought ∧
      (∃ xp level, bought = { row with
        turns := row.turns - hops - 1
        sector := target
        credits := row.credits - world.priceAt target now c * qty
        cargo := row.cargo.set c (row.cargo.get c + qty), xp, level }) ∧
      after.ports = world.ports.insert target (port.setQty c ((port.stock c).qty - qty)) := by
  obtain ⟨path, mid, arrived, length, way, ⟨xp, level, rfl⟩, ports⟩ :=
    pilot.fly calm charted walk (by omega)
  have price := way.scene.priceAt (congrArg (·.get? target) ports) now c
  have left : 1 ≤ row.turns - hops := by omega
  obtain ⟨after, bought, purchase, ⟨xp', level', rfl⟩, ports'⟩ :=
    way.pilot.buy left (way.scene.sectors ▸ exist) (ports ▸ found) positive few selling stocked
      roomy (price ▸ funded)
  rw [ports] at ports'
  exact ⟨path, after, _, length, way.trans purchase, ⟨xp', level', by rw [← price]⟩, ports'⟩

/-- A pilot flies to a port and sells there. -/
theorem Pilot.fly_and_sell (pilot : world.Pilot settings now player row)
    (calm : world.Calm player now) {chart : Chart} (charted : world.Charts chart) {hops : Nat}
    {target : SectorId} (walk : chart.Walk row.sector hops target) (turns : hops < row.turns)
    (exist : world.sectors.contains target = true) {port : Port}
    (found : world.ports.get? target = some port) {c : Commodity} {qty : Nat}
    (positive : 1 ≤ qty) (few : qty ≤ 1000000) (buying : (port.stock c).mode = .buy)
    (carried : qty ≤ row.cargo.get c)
    (demanded : (port.stock c).qty + qty ≤ (port.stock c).baseQty) :
    ∃ (path : List SectorId) (after : World) (sold : Player), path.length = hops ∧
      world.Flown settings now player
        (Command.moves path ++ [.trade (some .sell) (some c) qty]) after sold ∧
      sold.turns = row.turns - hops - 1 ∧
      sold.credits = row.credits + world.priceAt target now c * qty ∧
      after.players.get? player = some sold := by
  obtain ⟨path, mid, arrived, length, way, ⟨xp, level, rfl⟩, ports⟩ :=
    pilot.fly calm charted walk (by omega)
  have price := way.scene.priceAt (congrArg (·.get? target) ports) now c
  have left : 1 ≤ row.turns - hops := by omega
  obtain ⟨after, sold, sale, ⟨xp', level', rfl⟩, stored⟩ :=
    way.pilot.sell left (way.scene.sectors ▸ exist) (ports ▸ found) positive few buying carried
      demanded
  exact ⟨path, after, _, length, way.trans sale, rfl, by rw [← price], stored⟩

end World

end Starlane
