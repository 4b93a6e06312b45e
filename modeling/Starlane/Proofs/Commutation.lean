import Mathlib.Data.Fintype.EquivFin
import Starlane.Proofs.Renumbering
import Starlane.Proofs.Response

/-!
# Commands far apart commute

Two players give local commands that concern different sectors. Neither command
reads what the other one writes, so in either order each comes to the same
ruling, and its writes meet the same rows. Only the numbers of what both found
are exchanged.
-/

namespace Starlane

/-- Whether two lookups agree on what local commands read in some sectors. -/
structure Lookup.AgreesOn (look other : Lookup) (sectors : List SectorId) : Prop where
  sector : other.sector = look.sector
  warpsFrom : other.warpsFrom = look.warpsFrom
  event : other.event = look.event
  port : ∀ sector ∈ sectors, other.port sector = look.port sector
  planet : ∀ sector ∈ sectors, other.planet sector = look.planet sector
  minefields : ∀ sector ∈ sectors, other.minefields sector = look.minefields sector

namespace Plan

variable {look other : Lookup} {now : Int} {commander : Commander} {sectors : List SectorId}

theorem scan_agrees (agrees : look.AgreesOn other sectors) (here : commander.sector ∈ sectors) :
    scan other now commander = scan look now commander := by
  simp only [scan, Lookup.sectorOrFail, agrees.sector, agrees.event, agrees.port _ here]

theorem arrive_agrees (agrees : look.AgreesOn other sectors) {there : SectorId}
    (listed : there ∈ sectors) :
    arrive other now commander there = arrive look now commander there := by
  unfold arrive
  rw [agrees.event, agrees.minefields _ listed]

theorem move_agrees (agrees : look.AgreesOn other sectors) {target : Int}
    (there : ∀ sector, destination? target = some sector → sector ∈ sectors) :
    move other now commander target = move look now commander target := by
  unfold move
  cases destined : destination? target with
  | none => rfl
  | some sector =>
    simp only [Lookup.hasWarp, agrees.sector, agrees.warpsFrom, expect, bind, Except.bind,
      arrive_agrees agrees (there sector destined)]

theorem trade_agrees (agrees : look.AgreesOn other sectors) (here : commander.sector ∈ sectors)
    (side : Option TradeSide) (commodity : Option Commodity) (quantity : Int) :
    trade other now commander side commodity quantity =
      trade look now commander side commodity quantity := by
  unfold trade
  rw [agrees.event, agrees.port _ here]

theorem planet_agrees (agrees : look.AgreesOn other sectors) (here : commander.sector ∈ sectors)
    (order : PlanetOrder) : planet other commander order = planet look commander order := by
  cases order with
  | info =>
    change planetInfo other commander = planetInfo look commander
    rw [planetInfo, agrees.planet _ here]
    rfl
  | colonize name =>
    change colonize other commander name = colonize look commander name
    unfold colonize
    dsimp only
    rw [agrees.planet _ here]
  | load => simp only [planet, load, accessiblePlanet, agrees.planet _ here]
  | unload => simp only [planet, unload, accessiblePlanet, agrees.planet _ here]
  | upgradeCitadel =>
    simp only [planet, upgradeCitadel, accessiblePlanet, agrees.planet _ here]
  | unknown => rfl

theorem mine_agrees (agrees : look.AgreesOn other sectors) (here : commander.sector ∈ sectors)
    (order : MineOrder) : mine other now commander order = mine look now commander order := by
  cases order with
  | deploy quantity =>
    have sector : other.sectorOrFail commander.sector = look.sectorOrFail commander.sector := by
      rw [Lookup.sectorOrFail, agrees.sector, Lookup.sectorOrFail]
    change deploy other now commander quantity = deploy look now commander quantity
    unfold deploy
    dsimp only
    rw [sector, agrees.minefields _ here]
  | sweep => simp only [mine, sweep, agrees.minefields _ here]
  | info | unknown => rfl

theorem shipyard_agrees (agrees : look.AgreesOn other sectors) (order : YardOrder) :
    shipyard other commander order = shipyard look commander order := by
  simp only [shipyard, Lookup.sectorOrFail, agrees.sector]

end Plan

/-- On lookups that agree where the commander is and where the command leads, a
local command comes to the same. -/
theorem Command.outcome_agrees {look other : Lookup} {now : Int} {commander : Commander}
    {command : Command} {sectors : List SectorId} (agrees : look.AgreesOn other sectors)
    (isLocal : command.isLocal = true) (here : commander.sector ∈ sectors)
    (there : ∀ sector, command.destination? = some sector → sector ∈ sectors) :
    command.outcome other now commander = command.outcome look now commander := by
  unfold outcome
  cases charged : command.charge commander with
  | error halt => rfl
  | ok paid =>
    have located : paid.sector ∈ sectors := by
      obtain ⟨_, _, charged⟩ := Plan.bind_success charged
      obtain ⟨_, _, charged⟩ := Plan.bind_success charged
      cases charged
      exact here
    have planned : command.plan other now paid = command.plan look now paid := by
      cases command with
      | scan => exact Plan.scan_agrees agrees located
      | move target => exact Plan.move_agrees agrees there
      | trade side commodity quantity =>
        exact Plan.trade_agrees agrees located side commodity quantity
      | planet order => exact Plan.planet_agrees agrees located order
      | mine order => exact Plan.mine_agrees agrees located order
      | shipyard order => exact Plan.shipyard_agrees agrees order
      | _ => cases isLocal
    simp only [bind, Except.bind, planned]

namespace World

variable {world other : World} {player rival : PlayerId} {there : SectorId}

/-- A command far away changes nothing of what is read in other sectors. -/
theorem LeavesAlone.agreesOn (alone : world.LeavesAlone rival there other)
    {sectors : List SectorId} (apart : there ∉ sectors) :
    world.lookup.AgreesOn other.lookup sectors where
  sector := by simp only [lookup, alone.sectors]
  warpsFrom := by simp only [lookup, alone.warps]
  event := by
    funext sector now
    simp only [lookup, activeEvents, alone.events]
  port sector among := by
    have elsewhere : sector ≠ there := fun same => apart (same ▸ among)
    simp only [lookup, alone.ports sector elsewhere]
  planet sector among := by
    have elsewhere : sector ≠ there := fun same => apart (same ▸ among)
    rw [lookup_planet, lookup_planet]
    exact congrArg List.head? (alone.planets.filter_values _ fun _ located =>
      eq_of_beq located ▸ elsewhere)
  minefields sector among := by
    have elsewhere : sector ≠ there := fun same => apart (same ▸ among)
    exact alone.minefields.filter_values _ fun _ located => eq_of_beq located ▸ elsewhere

/-- A command far away changes no ruling on a local command. -/
theorem LeavesAlone.ruling (alone : world.LeavesAlone rival there other)
    (different : player ≠ rival) {command : Command} (isLocal : command.isLocal = true)
    (apart : there ∉ world.concerned player command) (settings : Settings) (now : Int) :
    other.ruling settings now player command = world.ruling settings now player command := by
  unfold World.ruling
  rw [alone.players player different]
  cases found : world.players.get? player with
  | none => rfl
  | some row =>
    have present : other.present settings now player row =
        world.present settings now player row := by
      simp only [World.present, membershipOf_congr alone.members alone.corps]
    have outcome : command.outcome other.lookup now (world.present settings now player row) =
        command.outcome world.lookup now (world.present settings now player row) := by
      refine Command.outcome_agrees (alone.agreesOn apart) isLocal ?_ fun sector leads => ?_
      · obtain ⟨turns, stamp, granted⟩ := row.regenerate_frame settings.turnRegenSeconds now
        simp [World.present, granted, concerned, found]
      · simp [concerned, leads]
    dsimp only
    rw [present, outcome]
    simp only [verdict, alone.sectors]

end World

/-- The numbers after `last`, with the `first` ones that were given out and the
`second` ones that followed in exchanged order. -/
def exchange (last first second id : Nat) : Nat :=
  if id ≤ last then id
  else if id ≤ last + first then id + second
  else if id ≤ last + first + second then id - first
  else id

theorem exchange_exchange (last first second id : Nat) :
    exchange last second first (exchange last first second id) = id := by
  unfold exchange
  split_ifs <;> omega

/-- The exchange of numbers as a renaming of all numbers. -/
def exchanging (last first second : Nat) : Equiv.Perm Nat where
  toFun := exchange last first second
  invFun := exchange last second first
  left_inv := exchange_exchange last first second
  right_inv := exchange_exchange last second first

theorem exchanging_old {last id : Nat} (old : id ≤ last) (first second : Nat) :
    exchanging last first second id = id :=
  if_pos old

/-- The first numbers are pushed by the second ones. -/
theorem exchanging_first {last first id : Nat} (given : id ≤ last + first) (second : Nat) :
    exchanging last first second id = pushed last second id := by
  change exchange last first second id = _
  unfold exchange pushed
  split_ifs <;> omega

/-- The second numbers are pulled back from where the first ones pushed them. -/
theorem exchanging_pushed {last second id : Nat} (given : id ≤ last + second) (first : Nat) :
    exchanging last first second (pushed last first id) = id := by
  change exchange last first second _ = _
  unfold exchange pushed
  split_ifs <;> omega

/-- Whether two worlds are the same but for the numbers of planets and
minefields, and for the order in which the logs of different players were
written. -/
structure World.Alike (rename : Equiv.Perm Nat) (world other : World) : Prop where
  players : other.players = world.players
  sectors : other.sectors = world.sectors
  warps : other.warps = world.warps
  discoveries : other.discoveries = world.discoveries
  ports : other.ports = world.ports
  planets : ∀ id, other.planets.get? (rename id) =
    (world.planets.get? id).map (Planet.renumbered rename)
  corps : other.corps = world.corps
  members : other.members = world.members
  messages : other.messages = world.messages
  minefields : ∀ id, other.minefields.get? (rename id) =
    (world.minefields.get? id).map (Minefield.renumbered rename)
  events : other.events = world.events
  intel : other.intel = world.intel
  logs : ∀ player, other.logOf player = world.logOf player
  seasons : other.seasons = world.seasons
  lastId : other.lastId = world.lastId

namespace World

/-- Whether two players, each staying with themselves and with their own sector,
have some things to write in either order. -/
structure Parted (world : World) (player rival : PlayerId) (here there : SectorId)
    (first second : List Write) : Prop where
  different : player ≠ rival
  elsewhere : here ≠ there
  filed : world.Filed
  filedFirst : (world.writtenAll first).Filed
  filedSecond : (world.writtenAll second).Filed
  mine : ∀ change ∈ first, change.Stays world player here
  theirs : ∀ change ∈ second, change.Stays world rival there
  mineLate : ∀ change ∈ first, change.Stays (world.writtenAll second) player here
  theirsLate : ∀ change ∈ second, change.Stays (world.writtenAll first) rival there

variable {world : World} {player rival : PlayerId} {here there : SectorId}
  {first second : List Write}

theorem Parted.symm (parted : world.Parted player rival here there first second) :
    world.Parted rival player there here second first where
  different := parted.different.symm
  elsewhere := parted.elsewhere.symm
  filed := parted.filed
  filedFirst := parted.filedSecond
  filedSecond := parted.filedFirst
  mine := parted.theirs
  theirs := parted.mine
  mineLate := parted.theirsLate
  theirsLate := parted.mineLate

/-- The numbers as they are given out in the other order. -/
def exchanged (world : World) (first second : List Write) : Equiv.Perm Nat :=
  exchanging world.lastId ((world.writtenAll first).lastId - world.lastId)
    ((world.writtenAll second).lastId - world.lastId)

namespace Parted

/-- The second writes leave alone what the first ones concern. -/
theorem alone (parted : world.Parted player rival here there first second) :
    world.LeavesAlone rival there (world.writtenAll second) :=
  leavesAlone parted.filed parted.theirs

theorem aloneLate (parted : world.Parted player rival here there first second) :
    (world.writtenAll first).LeavesAlone rival there
      ((world.writtenAll first).writtenAll second) :=
  leavesAlone parted.filedFirst parted.theirsLate

/-- The first writes, after the second ones, echo what they do alone. -/
theorem echoes (parted : world.Parted player rival here there first second) :
    Echoes world.lastId ((world.writtenAll second).lastId - world.lastId) rival there
      (world.writtenAll first) ((world.writtenAll second).writtenAll first) :=
  (parted.alone.echoes parted.filed).writeAll parted.filed parted.mine

/-- Both orders end on the same background. -/
theorem background (parted : world.Parted player rival here there first second) :
    (world.writtenAll first).SameBackground ((world.writtenAll second).writtenAll first) :=
  parted.symm.alone.background.symm.trans
    (parted.alone.background.trans parted.symm.aloneLate.background)

/-- What the first writes number is pushed by the second ones. -/
theorem exchanged_first (parted : world.Parted player rival here there first second) {id : Nat}
    (given : id ≤ (world.writtenAll first).lastId) :
    pushed world.lastId ((world.writtenAll second).lastId - world.lastId) id =
      world.exchanged first second id := by
  have counted := parted.symm.alone.counted
  exact (exchanging_first (by omega) _).symm

/-- What the second writes number is pulled back. -/
theorem exchanged_second (parted : world.Parted player rival here there first second) {id : Nat}
    (given : id ≤ (world.writtenAll second).lastId) :
    world.exchanged first second
      (pushed world.lastId ((world.writtenAll first).lastId - world.lastId) id) = id := by
  have counted := parted.alone.counted
  exact exchanging_pushed (by omega) _

theorem apart (parted : world.Parted player rival here there first second) (sector : SectorId) :
    sector ≠ there ∨ sector ≠ here := by
  by_cases same : sector = there
  · exact .inr (same ▸ parted.elsewhere.symm)
  · exact .inl same

/-- In either order there are the same planets, under exchanged numbers. -/
theorem planets_exchanged (parted : world.Parted player rival here there first second) (id : Nat) :
    ((world.writtenAll second).writtenAll first).planets.get? (world.exchanged first second id) =
      (((world.writtenAll first).writtenAll second).planets.get? id).map
        (Planet.renumbered (world.exchanged first second)) := by
  refine Table.Renamed.meet Planet.renumbered (fun _ _ => Iff.rfl) (fun _ _ => Iff.rfl)
    parted.echoes.planets parted.aloneLate.planets parted.symm.echoes.planets
    parted.symm.aloneLate.planets
    (fun id planet present => ?_) (fun id planet present => ?_)
    (fun planet => parted.apart planet.sector) (world.exchanged first second).injective id
  · have own : planet.id = id := parted.filedFirst.planets id planet present
    have same := parted.exchanged_first (parted.filedFirst.planetsUpTo id planet present)
    exact ⟨same, by rw [Planet.renumbered, Planet.renumbered, own, same]⟩
  · have own : planet.id = id := parted.filedSecond.planets id planet present
    have back := parted.exchanged_second (parted.filedSecond.planetsUpTo id planet present)
    exact ⟨back, by rw [Planet.renumbered, Planet.renumbered, own, back, ← own]⟩

/-- In either order there are the same minefields, under exchanged numbers. -/
theorem minefields_exchanged (parted : world.Parted player rival here there first second)
    (id : Nat) :
    ((world.writtenAll second).writtenAll first).minefields.get? (world.exchanged first second id) =
      (((world.writtenAll first).writtenAll second).minefields.get? id).map
        (Minefield.renumbered (world.exchanged first second)) := by
  refine Table.Renamed.meet Minefield.renumbered (fun _ _ => Iff.rfl) (fun _ _ => Iff.rfl)
    parted.echoes.minefields parted.aloneLate.minefields parted.symm.echoes.minefields
    parted.symm.aloneLate.minefields
    (fun id field present => ?_) (fun id field present => ?_)
    (fun field => parted.apart field.sector) (world.exchanged first second).injective id
  · have own : field.id = id := parted.filedFirst.minefields id field present
    have same := parted.exchanged_first (parted.filedFirst.minefieldsUpTo id field present)
    exact ⟨same, by rw [Minefield.renumbered, Minefield.renumbered, own, same]⟩
  · have own : field.id = id := parted.filedSecond.minefields id field present
    have back := parted.exchanged_second (parted.filedSecond.minefieldsUpTo id field present)
    exact ⟨back, by rw [Minefield.renumbered, Minefield.renumbered, own, back, ← own]⟩

/-- In either order the writes come to the same. -/
theorem alike (parted : world.Parted player rival here there first second) :
    World.Alike (world.exchanged first second) ((world.writtenAll first).writtenAll second)
      ((world.writtenAll second).writtenAll first) := by
  have background := parted.aloneLate.background.symm.trans parted.background
  have mine := parted.echoes
  have theirs := parted.symm.echoes
  have late := parted.aloneLate
  have early := parted.symm.aloneLate
  have others : ∀ id, id ≠ rival ∨ id ≠ player := by
    intro id
    by_cases same : id = rival
    · exact .inr (same ▸ parted.different.symm)
    · exact .inl same
  refine {
    background with
    players := ?_
    discoveries := ?_
    ports := ?_
    planets := ?_
    minefields := ?_
    intel := ?_
    logs := fun id => ?_
    lastId := ?_ }
  · refine Table.eq_of_get? fun id => ?_
    rcases others id with different | different
    · rw [mine.players id different, late.players id different]
    · rw [theirs.players id different, early.players id different]
  · refine Table.eq_of_get? fun ⟨id, sector⟩ => ?_
    rcases others id with different | different
    · rw [mine.discoveries id sector different, late.discoveries id sector different]
    · rw [theirs.discoveries id sector different, early.discoveries id sector different]
  · refine Table.eq_of_get? fun sector => ?_
    rcases parted.apart sector with elsewhere | elsewhere
    · rw [mine.ports sector elsewhere, late.ports sector elsewhere]
    · rw [theirs.ports sector elsewhere, early.ports sector elsewhere]
  · exact parted.planets_exchanged
  · exact parted.minefields_exchanged
  · refine Table.eq_of_get? fun ⟨id, sector⟩ => ?_
    rcases others id with different | different
    · rw [mine.intel id sector different, late.intel id sector different]
    · rw [theirs.intel id sector different, early.intel id sector different]
  · rcases others id with different | different
    · rw [mine.logs id different, late.logs id different]
    · rw [theirs.logs id different, early.logs id different]
  · have counted := parted.alone.counted
    have counted' := parted.symm.alone.counted
    have ahead := mine.ahead
    have ahead' := theirs.ahead
    omega

end Parted

/-- A response is renumbered alike by all that agree on the numbers given out. -/
theorem respond_renumbered (filed : world.Filed) {rename number : Nat → Nat}
    (agree : ∀ id ≤ world.lastId, rename id = number id) (shown : Nat) (now : Int)
    (commander : Commander) (message : String) (refusal : Option Refusal) :
    (world.lookup.respond shown now commander message refusal).map (Response.renumbered rename) =
      (world.lookup.respond shown now commander message refusal).map
        (Response.renumbered number) := by
  have shownPlanet : ((world.lookup.planet commander.sector).map
        (PlanetView.ofPlanet world.lookup)).map (fun planet =>
          { planet with id := rename planet.id }) =
      ((world.lookup.planet commander.sector).map (PlanetView.ofPlanet world.lookup)).map
        (fun planet => { planet with id := number planet.id }) := by
    cases found : world.lookup.planet commander.sector with
    | none => rfl
    | some planet =>
      have given : planet.id ≤ world.lastId :=
        filed.planetsUpTo planet.id planet (filed.planet_found found)
      simp only [Option.map_some, PlanetView.ofPlanet, agree planet.id given]
  unfold Lookup.respond Lookup.view
  cases world.lookup.sectorOrFail commander.sector with
  | error failure => rfl
  | ok sector =>
    cases world.lookup.event commander.sector now with
    | error failure => rfl
    | ok event =>
      cases world.lookup.port commander.sector with
      | error failure => rfl
      | ok port =>
        cases world.lookup.recentLogs commander.id shown with
        | error failure => rfl
        | ok logs =>
          exact congrArg (fun planet => Except.ok ({
            message, refusal, logs
            status := .ofCommander commander
            sector := {
              sector, planet
              warps := world.lookup.warpsFrom commander.sector
              port := port.map fun port => port.quotes event
              event := event.map EventView.ofEvent
              mines := world.lookup.mineTotal commander.sector } } : Response)) shownPlanet

end World

/-- Whether a ruling answers a player in a sector, if it answers at all. -/
def Ruling.Concerns (player : PlayerId) (here : SectorId) : Ruling → Prop
  | failure _ => True
  | verdict commander _ _ _ => commander.id = player ∧ commander.sector = here

namespace World

variable {world : World} {player : PlayerId} {command : Command} {settings : Settings} {now : Int}

/-- The ruling on a local command concerns its player and some sector, which is
none of those that the command does not concern. -/
theorem ruling_concerns (filed : world.Filed) (isLocal : command.isLocal = true)
    {away : List SectorId} (apart : List.Disjoint (world.concerned player command) away)
    (settings : Settings) (now : Int) :
    ∃ here ∉ away, (world.ruling settings now player command).Concerns player here := by
  cases ruled : world.ruling settings now player command with
  | failure cause =>
    -- A failure answers nobody, so that any sector will do.
    obtain ⟨here, fresh⟩ := Infinite.exists_notMem_finset away.toFinset
    exact ⟨here, fun among => fresh (List.mem_toFinset.mpr among), trivial⟩
  | verdict commander message refusal writes =>
    obtain ⟨own, concerned, _⟩ := ruling_stays filed isLocal ruled
    exact ⟨commander.sector, apart concerned, own, rfl⟩

/-- The ruling on a local command writes what is its player's, in the sector that
it concerns. -/
theorem ruling_writes_stay (filed : world.Filed) (isLocal : command.isLocal = true)
    {here : SectorId} (concerns : (world.ruling settings now player command).Concerns player here) :
    ∀ change ∈ (world.ruling settings now player command).writes,
      change.Stays world player here := by
  cases ruled : world.ruling settings now player command with
  | failure cause => exact fun _ member => absurd member List.not_mem_nil
  | verdict commander message refusal writes =>
    obtain ⟨_, _, stays⟩ := ruling_stays filed isLocal ruled
    rw [ruled] at concerns
    exact concerns.2 ▸ stays

end World

namespace World.Parted

variable {world : World} {player rival : PlayerId} {here there : SectorId}
  {first second : List Write} {settings : Settings} {now : Int} {ruling : Ruling}

/-- The first player gets the same answer after the other one, under exchanged
numbers. -/
theorem answer_first (parted : world.Parted player rival here there first second)
    (concerns : ruling.Concerns player here) :
    ruling.answer settings now ((world.writtenAll second).writtenAll first) =
      (ruling.answer settings now (world.writtenAll first)).map
        (Response.renumbered (world.exchanged first second)) := by
  cases ruling with
  | failure cause => rfl
  | verdict commander message refusal writes =>
    obtain ⟨own, located⟩ := concerns
    simp only [Ruling.answer]
    rw [parted.echoes.respond parted.background (own ▸ parted.different)
      (located ▸ parted.elsewhere)]
    exact respond_renumbered parted.filedFirst (fun id given => parted.exchanged_first given)
      _ _ _ _ _

/-- The second player gets, alone, the answer that they get after the other one,
under exchanged numbers. -/
theorem answer_second (parted : world.Parted player rival here there first second)
    (concerns : ruling.Concerns rival there) :
    ruling.answer settings now (world.writtenAll second) =
      (ruling.answer settings now ((world.writtenAll first).writtenAll second)).map
        (Response.renumbered (world.exchanged first second)) := by
  cases ruling with
  | failure cause => rfl
  | verdict commander message refusal writes =>
    obtain ⟨own, located⟩ := concerns
    have mirrored := parted.symm
    simp only [Ruling.answer]
    rw [mirrored.echoes.respond mirrored.background (own ▸ mirrored.different)
      (located ▸ mirrored.elsewhere)]
    have back := respond_renumbered parted.filedSecond
      (fun id given => parted.exchanged_second given)
      (Settings.shownLogs settings.recentLogLimit) now commander message refusal
    cases answered : (world.writtenAll second).lookup.respond
        (Settings.shownLogs settings.recentLogLimit) now commander message refusal with
    | error failure => rfl
    | ok response =>
      rw [answered] at back
      have same := (Except.ok.inj back).trans response.renumbered_id
      simp only [Except.map, Response.renumbered_renumbered, same]

end World.Parted

/-- Local commands of two players that concern different sectors commute: in
either order both get the same responses, and the game ends up the same, but for
the numbers that the two gave out. -/
theorem separate_commands_commute {world : World} (reachable : world.Reachable)
    {settings : Settings} {player rival : PlayerId} (different : player ≠ rival)
    {mine theirs : Request} (mineLocal : (Command.ofRequest mine).isLocal = true)
    (theirsLocal : (Command.ofRequest theirs).isLocal = true)
    (apart : List.Disjoint (world.concerned player (.ofRequest mine))
      (world.concerned rival (.ofRequest theirs)))
    {now later : Int} {myFirst theirSecond theirFirst mySecond : Except StoreFailure Response}
    {afterMine both afterTheirs other : Storage}
    (first : Storage.execute settings now player mine (.ofWorld world) = (myFirst, afterMine))
    (second : Storage.execute settings later rival theirs afterMine = (theirSecond, both))
    (first' : Storage.execute settings later rival theirs (.ofWorld world) =
      (theirFirst, afterTheirs))
    (second' : Storage.execute settings now player mine afterTheirs = (mySecond, other)) :
    ∃ rename : Equiv.Perm Nat, (∀ id ≤ world.lastId, rename id = id) ∧
      mySecond = myFirst.map (Response.renumbered rename) ∧
      theirFirst = theirSecond.map (Response.renumbered rename) ∧
      World.Alike rename both.world other.world := by
  have filed := reachable.filed
  have mid := World.Reachable.step reachable (.command first)
  have mid' := World.Reachable.step reachable (.command first')
  rw [Storage.execute_ruled filed reachable.rostered mineLocal] at first
  rw [Storage.execute_ruled filed reachable.rostered theirsLocal] at first'
  cases first
  cases first'
  change World.Reachable (world.writtenAll _) at mid mid'
  obtain ⟨there, far, theirsConcern⟩ :=
    World.ruling_concerns filed theirsLocal apart.symm settings later
  obtain ⟨here, near, mineConcern⟩ := World.ruling_concerns filed mineLocal
    (List.disjoint_cons_right.mpr ⟨far, apart⟩) settings now
  obtain ⟨elsewhere, near⟩ := List.ne_and_not_mem_of_not_mem_cons near
  have mineStay := World.ruling_writes_stay filed mineLocal mineConcern
  have theirsStay := World.ruling_writes_stay filed theirsLocal theirsConcern
  -- Neither ruling reads what the other one writes.
  have theirRuling := (World.leavesAlone filed mineStay).ruling different.symm theirsLocal near
    settings later
  have myRuling := (World.leavesAlone filed theirsStay).ruling different mineLocal far settings now
  rw [Storage.execute_ruled mid.filed mid.rostered theirsLocal, theirRuling] at second
  rw [Storage.execute_ruled mid'.filed mid'.rostered mineLocal, myRuling] at second'
  cases second
  cases second'
  have parted : world.Parted player rival here there _ _ := {
    different
    elsewhere
    filed
    filedFirst := mid.filed
    filedSecond := mid'.filed
    mine := mineStay
    theirs := theirsStay
    mineLate := myRuling ▸ World.ruling_writes_stay mid'.filed mineLocal (myRuling ▸ mineConcern)
    theirsLate :=
      theirRuling ▸ World.ruling_writes_stay mid.filed theirsLocal (theirRuling ▸ theirsConcern) }
  exact ⟨_, fun id old => exchanging_old old _ _, parted.answer_first mineConcern,
    parted.answer_second theirsConcern, parted.alike⟩

/-- The universe of the drill with two wealthy pilots in different sectors. -/
def Drill.neighbours : World :=
  let pilot (id : PlayerId) (username : String) (sector : SectorId) : Player :=
    { Settings.standard.newPlayer id username sector ⟨1, "Season 1", startTime⟩ startTime with
      credits := 5000 }
  ((World.empty.addUniverse layout).addPlayer (pilot 7 "ada" 2)).addPlayer (pilot 8 "bea" 3)

theorem Drill.neighbours_reachable : neighbours.Reachable :=
  .seed (.seed (.seed .empty (.layout _)) (.player _)) (.player _)

/-- Both found a colony where they are: in either order each of them gets the same
response, and the first colony is there under its other number. -/
theorem separate_commands_commute_colonies :
    let ada := Storage.execute Settings.standard 1000010 7
      (Drill.namedRequest "PLANET" "COLONIZE" "Ada")
    let bea := Storage.execute Settings.standard 1000020 8
      (Drill.namedRequest "PLANET" "COLONIZE" "Bea")
    let start := Storage.ofWorld Drill.neighbours
    (ada start).1.toOption.map Response.ok = some true ∧
      (bea (ada start).2).1.toOption.map Response.ok = some true ∧
      ∃ rename : Equiv.Perm Nat,
        (ada (bea start).2).1 = (ada start).1.map (Response.renumbered rename) ∧
        (bea start).1 = (bea (ada start).2).1.map (Response.renumbered rename) ∧
        ((ada (bea start).2).2.world.planets.get? (rename 1)).map (·.name) = some "Ada" := by
  intro ada bea start
  obtain ⟨rename, _, mine, theirs, alike⟩ :=
    separate_commands_commute Drill.neighbours_reachable (by decide)
      (show (Command.ofRequest (Drill.namedRequest "PLANET" "COLONIZE" "Ada")).isLocal = true by
        decide +kernel)
      (show (Command.ofRequest (Drill.namedRequest "PLANET" "COLONIZE" "Bea")).isLocal = true by
        decide +kernel)
      (by
        have here : Drill.neighbours.concerned 7 (.ofRequest
            (Drill.namedRequest "PLANET" "COLONIZE" "Ada")) = [2] := by decide +kernel
        have there : Drill.neighbours.concerned 8 (.ofRequest
            (Drill.namedRequest "PLANET" "COLONIZE" "Bea")) = [3] := by decide +kernel
        simp [here, there])
      (Prod.mk.eta (p := ada start)).symm (Prod.mk.eta (p := bea (ada start).2)).symm
      (Prod.mk.eta (p := bea start)).symm (Prod.mk.eta (p := ada (bea start).2)).symm
  refine ⟨by decide +kernel, by decide +kernel, rename, mine, theirs, ?_⟩
  have founded : ((bea (ada start).2).2.world.planets.get? 1).map (·.name) = some "Ada" := by
    decide +kernel
  rw [alike.planets 1, Option.map_map]
  exact founded

end Starlane
