import Starlane.Settings
import Starlane.Universe
import Starlane.World.Change

/-!
# Laying out a world

What exists before players give commands: sectors, warps, ports and seasons, and how a player
joins.
-/

namespace Starlane.World

/-- The world with a plain sector. -/
def addSector (world : World) (id : SectorId) (name : String) : World :=
  { world with sectors := world.sectors.insert id ⟨id, name, false, 0⟩ }

/-- The world with a sector, if it exists, under protection. -/
def protect (world : World) (id : SectorId) (fighters : Nat) : World :=
  { world with
    sectors := world.sectors.modify id fun sector =>
      { sector with isProtectorate := true, fighters } }

/-- The world with a warp. -/
def addWarp (world : World) (warp : SectorId × SectorId) : World :=
  { world with warps := world.warps.insert warp () }

/-- The world with warps both ways between two sectors. -/
def link (world : World) (a b : SectorId) : World :=
  (world.addWarp (a, b)).addWarp (b, a)

/-- The world with a port, in place of the one before. -/
def addPort (world : World) (port : Port) : World :=
  { world with ports := world.ports.insert port.sector port }

/-- The world with a universe laid out in it; sectors and ports take the place of those with the
same numbers. -/
def addUniverse (world : World) (layout : Universe) : World :=
  let sectors := layout.sectors.foldl (fun table sector => table.insert sector.id sector)
    world.sectors
  let warps := layout.edges.foldl (fun table warp => table.insert warp ()) world.warps
  let ports := layout.ports.foldl (fun table port => table.insert port.sector port) world.ports
  { world with sectors, warps, ports }

/-- The world with a season. -/
def addSeason (world : World) (season : Season) : World :=
  { world with seasons := world.seasons.insert season.id season }

/-- The world with a player, who knows the sector they are in. -/
def addPlayer (world : World) (player : Player) : World :=
  { world with
    discoveries := world.discoveries.insert (player.id, player.sector) ()
    players := world.players.insert player.id player }

/-- The season that new players join: the latest one, or else the first of all. -/
def currentSeason (world : World) (now : Int) : Season :=
  world.seasons.values.getLast?.getD ⟨1, "Season 1", now⟩

/-- A player joins the current season in the first sector.  Without any season the first one
starts. -/
def join (world : World) (settings : Settings) (now : Int) (id : PlayerId) (username : String) :
    Except StoreFailure Player × World :=
  let season := world.currentSeason now
  let world := if world.seasons.values.isEmpty then world.addSeason season else world
  match world.sectors.keys.head? with
  | none => (.error .noStart, world)
  | some start =>
    let player := settings.newPlayer id username start season now
    (.ok player, world.addPlayer player)

end Starlane.World
