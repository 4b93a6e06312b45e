import Starlane.Chance.Stream
import Starlane.Drill.Basic
import Starlane.World.Tick

/-!
# The universe and its tickers

The parts of the drill without players: whether the universe hangs together, and what many rounds
of the tickers do to it.
-/

namespace Starlane.Drill

open Chance

/-- A number in a column of three. -/
def column (n : Nat) : String :=
  let digits := toString n
  "".pushn ' ' (3 - digits.length) ++ digits

/-- The universe has sectors and ports, and all of it can be reached. -/
def universePart (layout : Universe) : Part :=
  let ids := layout.sectors.map (·.id)
  let start := ids.min?.getD 0
  let reach := (Chart.ofDiscovered ids layout.edges).distances start
  let unreachable := ids.filter fun id => (reach.lookup id).isNone
  let listed := ", ".intercalate (unreachable.map toString)
  let protectorates := layout.sectors.countP (·.isProtectorate)
  let hops := reach.mergeSort fun a b => decide (a.1 ≤ b.1)
  { title := "Universe"
    notes :=
      s!"  Hops from sector {start}:" ::
        hops.map fun hop => s!"    {column hop.1}: {hop.2}"
    checks := [
      ⟨"universe_not_empty", decide (5 ≤ layout.sectors.length) && !layout.ports.isEmpty,
        s!"{layout.sectors.length} sectors, {layout.warps.length} warp links, " ++
          s!"{layout.ports.length} ports"⟩,
      ⟨"universe_connected", unreachable.isEmpty,
        if unreachable.isEmpty then s!"every sector reachable from {start}"
        else s!"unreachable from {start}: [{listed}]"⟩,
      ⟨"universe_has_protectorate", decide (0 < protectorates),
        s!"{protectorates} protectorate sectors"⟩] }

/-- Whether the port of a sector has all its ore. -/
def isOreFull (world : World) (sector : SectorId) : Bool :=
  (world.ports.get? sector).any fun port => port.stocks.ore.qty == port.stocks.ore.baseQty

/-- Restocks until the port of a sector has all its ore, at most so many times.  Also returns the
number of rounds. -/
def restockOre (sector : SectorId) : Nat → World → World × Nat
  | 0, world => (world, 0)
  | rounds + 1, world =>
    let world := world.portTick.1
    if isOreFull world sector then (world, 1)
    else
      let (world, more) := restockOre sector rounds world
      (world, more + 1)

/-- Musters so many times.  Also returns whether the protectorates stayed within their bounds. -/
def musterRounds : Nat → World → Stream → Bool × World × Stream
  | 0, world, dice => (true, world, dice)
  | rounds + 1, world, dice =>
    let (world, _, dice) := world.protectorateTick dice
    let bounded := (world.sectors.values.filter (·.isProtectorate)).all fun sector =>
      decide (Protectorate.fightersMin ≤ sector.fighters) &&
        decide (sector.fighters ≤ Protectorate.fightersMax)
    let (rest, world, dice) := musterRounds rounds world dice
    (bounded && rest, world, dice)

/-- What many rounds of events came to. -/
structure EventCount where
  spawned : Nat
  misplaced : Nat
  activeMost : Nat

/-- Runs so many rounds of events, a minute apart. -/
def eventRounds (ports : List SectorId) : Nat → Session → Stream → EventCount × Session × Stream
  | 0, session, dice => (⟨0, 0, 0⟩, session, dice)
  | rounds + 1, session, dice =>
    let session := { session with now := session.now + 60 }
    let (world, round, dice) := session.world.eventTick session.now dice
    let session := session.change fun _ => world
    let misplaced := round.spawned.any fun event =>
      event.kind.affectsPrices && !ports.contains event.sector
    let active := (world.activeEvents session.now).length
    let (rest, session, dice) := eventRounds ports rounds session dice
    (⟨rest.spawned + round.spawned.isSome.toNat, rest.misplaced + misplaced.toNat,
      max active rest.activeMost⟩, session, dice)

/-- An event that is left after the last round. -/
def eventNote (event : Event) : String :=
  s!"    [{event.kind.code}] sector {event.sector} {event.title} | {event.summary}"

/-- The tickers restock a port, muster the protectorates and turn events over. -/
def tickers (layout : Universe) : Part :=
  let session := Session.ofLayout layout
  let drained := { session.world with
    ports := session.world.ports.modify 2 fun port => port.setQty .ore 0 }
  let (world, rounds) := restockOre 2 100 drained
  let restocked := isOreFull world 2
  let (bounded, world, dice) := musterRounds 50 world (Stream.ofSeed 7)
  let session := session.change fun _ => world
  let (count, session, _) := eventRounds (layout.ports.map (·.sector)) 500 session dice
  let live := Event.sortByEnd (session.world.activeEvents session.now)
  { title := "Tickers"
    notes := "  Events live at the end of the run:" :: live.map eventNote
    checks := [
      ⟨"port_regen_caps_at_base", restocked && rounds == 40, s!"ore restocked in {rounds} ticks"⟩,
      ⟨"protectorate_fighters_in_range", bounded,
        s!"50 re-rolls within {Protectorate.fightersMin}..={Protectorate.fightersMax}"⟩,
      ⟨"events_bounded",
        decide (0 < count.spawned) && decide (count.activeMost ≤ Event.activeMax),
        s!"{count.spawned} spawned, at most {count.activeMost} active at once"⟩,
      ⟨"price_events_need_ports", count.misplaced == 0,
        s!"{count.misplaced} price events outside port sectors"⟩] }

end Starlane.Drill
