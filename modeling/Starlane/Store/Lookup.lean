import Starlane.Corporation
import Starlane.Intel
import Starlane.Minefield
import Starlane.Planet
import Starlane.Store.Failure

/-!
# Lookups

What a command may look at.  A lookup answers from one state of the storage; only records that a
store keeps in an encoded form can turn out unreadable.
-/

namespace Starlane

/-- The answers of a store in one state. -/
structure Lookup where
  /-- A player with the snapshot of their corporation. -/
  commander : PlayerId → Except StoreFailure Commander
  /-- The name of a player. -/
  username : PlayerId → Option String
  /-- A sector. -/
  sector : SectorId → Option Sector
  /-- The ends of the warps out of a sector, ascending. -/
  warpsFrom : SectorId → List SectorId
  /-- The warps with both ends among some sectors. -/
  warpsAmong : List SectorId → List (SectorId × SectorId)
  /-- The sectors that a player has discovered, ascending. -/
  discovered : PlayerId → List SectorId
  /-- The port of a sector. -/
  port : SectorId → Except StoreFailure (Option Port)
  /-- The planet of a sector. -/
  planet : SectorId → Option Planet
  /-- The number of planets that a corporation holds. -/
  planetCount : CorpId → Nat
  /-- A corporation. -/
  corp : CorpId → Option Corporation
  /-- A corporation by its name in any case. -/
  corpNamed : String → Option Corporation
  /-- The number that the next new corporation gets. -/
  nextCorp : CorpId
  /-- The roster of a corporation by joining time, then by order of joining. -/
  members : CorpId → Except StoreFailure (List Member)
  /-- The minefields of a sector. -/
  minefields : SectorId → List Minefield
  /-- The event of a sector at a time. -/
  event : SectorId → Int → Except StoreFailure (Option Event)
  /-- The events at a time, the first to end first. -/
  events : Int → Except StoreFailure (List Event)
  /-- The scans of a player, newest first. -/
  intel : PlayerId → Except StoreFailure (List Intel)
  /-- The newest lines of a player's log, newest first. -/
  recentLogs : PlayerId → Nat → Except StoreFailure (List LogEntry)
  /-- A season. -/
  season : SeasonId → Option Season
  /-- The richest players of a season. -/
  rankings : SeasonId → Nat → List Ranking

namespace Lookup

/-- A sector that must be there. -/
def sectorOrFail (look : Lookup) (id : SectorId) : Except StoreFailure Sector :=
  match look.sector id with
  | some sector => .ok sector
  | none => .error (.missing .sector id)

/-- A corporation that must be there. -/
def corpOrFail (look : Lookup) (id : CorpId) : Except StoreFailure Corporation :=
  match look.corp id with
  | some corp => .ok corp
  | none => .error (.missing .corporation id)

/-- Whether a warp leads from one sector to another. -/
def hasWarp (look : Lookup) (source target : SectorId) : Bool :=
  (look.warpsFrom source).contains target

/-- The mines in a sector. -/
def mineTotal (look : Lookup) (sector : SectorId) : Nat :=
  Minefield.total (look.minefields sector)

end Lookup

end Starlane
