import Starlane.Text.Casing
import Starlane.World.Basic

/-!
# Looking things up in a world

Nothing in a world is encoded, so of all lookups only the one of a player can fail.
-/

namespace Starlane.World

/-- What a player's record says about their corporation. -/
def membershipOf (world : World) (player : PlayerId) : Option Membership := do
  let member ← world.memberOf? player
  let corp ← world.corps.get? member.corp
  return ⟨corp.id, corp.name, member.role, corp.bank⟩

/-- A player with their membership. -/
def commander (world : World) (id : PlayerId) : Except StoreFailure Commander :=
  match world.players.get? id with
  | none => .error (.missing .player id)
  | some player => .ok { toPlayer := player, membership := world.membershipOf id }

/-- The second parts of the keys with a first part, ascending. -/
def under (table : Table (Nat × Nat) Unit) (first : Nat) : List Nat :=
  (table.keys.filter fun key => key.1 == first).map (·.2)

theorem mem_under {table : Table (Nat × Nat) Unit} {first second : Nat} :
    second ∈ under table first ↔ (first, second) ∈ table.keys := by
  simp [under]

/-- The warps with both ends among some sectors. -/
def warpsAmong (world : World) (sectors : List SectorId) : List (SectorId × SectorId) :=
  world.warps.keys.filter fun warp => sectors.contains warp.1 && sectors.contains warp.2

/-- The corporation with a name, in any case. -/
def corpNamed (world : World) (name : String) : Option Corporation :=
  let wanted := Text.lower name
  world.corps.values.find? fun corp => Text.lower corp.name == wanted

/-- The minefields of a sector, in order of their numbers. -/
def minefieldsIn (world : World) (sector : SectorId) : List Minefield :=
  world.minefields.values.filter fun field => field.sector == sector

/-- The events at a time, in order of their numbers. -/
def activeEvents (world : World) (now : Int) : List Event :=
  world.events.values.filter fun event => event.isActive now

/-- A player's scans, newest first. -/
def intelOf (world : World) (player : PlayerId) : List Intel :=
  Intel.sortNewestFirst
    ((world.intel.entries.filter fun entry => entry.1.1 == player).map (·.2))

/-- The richest players of a season. -/
def rankings (world : World) (season : SeasonId) (limit : Nat) : List Ranking :=
  let row := fun player : Player =>
    { username := player.username, credits := player.credits,
      corpName := (world.membershipOf player.id).map (·.name) : Ranking }
  Ranking.top limit ((world.players.values.filter fun player => player.season == season).map row)

/-- All lookups. -/
def lookup (world : World) : Lookup where
  commander := world.commander
  username id := (world.players.get? id).map (·.username)
  sector := world.sectors.get?
  warpsFrom := under world.warps
  warpsAmong := world.warpsAmong
  discovered := under world.discoveries
  port sector := .ok (world.ports.get? sector)
  planet sector := world.planets.values.find? fun planet => planet.sector == sector
  planetCount corp := world.planets.values.countP fun planet => planet.owner.corp? == some corp
  corp := world.corps.get?
  corpNamed := world.corpNamed
  nextCorp := world.lastId + 1
  members corp :=
    .ok (Member.sortByJoining (world.members.filter fun member => member.corp == corp))
  minefields := world.minefieldsIn
  event sector now :=
    .ok (Event.soonest? ((world.activeEvents now).filter fun event => event.sector == sector))
  events now := .ok (Event.sortByEnd (world.activeEvents now))
  intel player := .ok (world.intelOf player)
  recentLogs player limit := .ok ((world.logOf player).reverse.take limit)
  season := world.seasons.get?
  rankings := world.rankings

end Starlane.World
