import Starlane.Store.Write
import Starlane.Table

/-!
# Worlds

The whole state of a game in memory.  One counter numbers planets, corporations, minefields and
events alike, so that no two of them ever share a number.
-/

namespace Starlane

/-- The state of a game.  Rosters, messages and logs are in order of entry. -/
structure World where
  players : Table PlayerId Player
  sectors : Table SectorId Sector
  warps : Table (SectorId × SectorId) Unit
  discoveries : Table (PlayerId × SectorId) Unit
  ports : Table SectorId Port
  planets : Table PlanetId Planet
  corps : Table CorpId Corporation
  members : List Member
  messages : List CorpMessage
  minefields : Table MinefieldId Minefield
  events : Table EventId Event
  intel : Table (PlayerId × SectorId) Intel
  logs : List (PlayerId × LogEntry)
  seasons : Table SeasonId Season
  /-- The last number given to a planet, a corporation, a minefield or an event. -/
  lastId : Nat

namespace World

/-- The world without anything in it. -/
def empty : World where
  players := .empty
  sectors := .empty
  warps := .empty
  discoveries := .empty
  ports := .empty
  planets := .empty
  corps := .empty
  members := []
  messages := []
  minefields := .empty
  events := .empty
  intel := .empty
  logs := []
  seasons := .empty
  lastId := 0

/-- A player's log, the oldest line first. -/
def logOf (world : World) (player : PlayerId) : List LogEntry :=
  (world.logs.filter fun line => line.1 == player).map (·.2)

/-- How many of a player's lines exceed what is to be kept. -/
def excessLogs (world : World) (player : PlayerId) (keep : Nat) : Nat :=
  (world.logOf player).length - keep

/-- The roster line of a player. -/
def memberOf? (world : World) (player : PlayerId) : Option Member :=
  world.members.find? fun member => member.player == player

end World

end Starlane
