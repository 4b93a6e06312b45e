import Starlane.World.Basic

/-!
# Changing a world

How a world carries out each write.  A write that fails changes nothing.
-/

namespace Starlane.World

/-- The table with another value under a key that must be there. -/
def replace {α : Type} (table : Table Nat α) (entity : Entity) (key : Nat) (value : α) :
    Except StoreFailure (Table Nat α) :=
  if table.contains key then .ok (table.insert key value) else .error (.missing entity key)

/-- The lines without the first so many of a player. -/
def dropOldest (player : PlayerId) : Nat → List (PlayerId × LogEntry) → List (PlayerId × LogEntry)
  | 0, lines => lines
  | _, [] => []
  | excess + 1, line :: rest =>
    if line.1 = player then dropOldest player excess rest
    else line :: dropOldest player (excess + 1) rest

/-- The world with a new planet. -/
def addPlanet (world : World) (planet : Planet) : World :=
  let id := world.lastId + 1
  { world with planets := world.planets.insert id { planet with id }, lastId := id }

/-- The world with a new minefield. -/
def addMinefield (world : World) (field : Minefield) : World :=
  let id := world.lastId + 1
  { world with minefields := world.minefields.insert id { field with id }, lastId := id }

/-- The world with a new event. -/
def addEvent (world : World) (event : Event) : World :=
  let id := world.lastId + 1
  { world with events := world.events.insert id { event with id }, lastId := id }

/-- The world with a new corporation. -/
def addCorp (world : World) (name : String) : World :=
  let id := world.lastId + 1
  { world with corps := world.corps.insert id ⟨id, name, 0⟩, lastId := id }

/-- The world with a new roster line; a player has at most one. -/
def addMember (world : World) (member : Member) : Except StoreFailure World :=
  if (world.memberOf? member.player).isSome then .error (.alreadyMember member.player)
  else .ok { world with members := world.members ++ [member] }

/-- Whether a roster line is that of a player in a corporation. -/
def isMember (corp : CorpId) (player : PlayerId) (member : Member) : Bool :=
  member.corp == corp && member.player == player

/-- The world with another role of a member. -/
def setRole (world : World) (corp : CorpId) (player : PlayerId) (role : Role) :
    Except StoreFailure World :=
  if world.members.any (isMember corp player) then
    .ok { world with
      members := world.members.map fun member =>
        if isMember corp player member then { member with role } else member }
  else .error (.missing .member player)

/-- The world after a write. -/
def apply (world : World) : Write → Except StoreFailure World
  | .savePlayer player => do
    return { world with players := ← replace world.players .player player.id player }
  | .discover player sector =>
    .ok { world with discoveries := world.discoveries.insert (player, sector) () }
  | .savePort port => do
    return { world with ports := ← replace world.ports .port port.sector port }
  | .insertPlanet planet => .ok (world.addPlanet planet)
  | .savePlanet planet => do
    return { world with planets := ← replace world.planets .planet planet.id planet }
  | .insertCorp name _ => .ok (world.addCorp name)
  | .saveCorp corp => do
    return { world with corps := ← replace world.corps .corporation corp.id corp }
  | .deleteCorp corp =>
    .ok { world with
      corps := world.corps.erase corp
      members := world.members.filter fun member => member.corp != corp }
  | .insertMember member => world.addMember member
  | .setRole corp player role => world.setRole corp player role
  | .deleteMember corp player =>
    .ok { world with
      members := world.members.filter fun member => !isMember corp player member }
  | .insertMessage message => .ok { world with messages := world.messages ++ [message] }
  | .insertMinefield field => .ok (world.addMinefield field)
  | .saveMinefield field => do
    return { world with minefields := ← replace world.minefields .minefield field.id field }
  | .deleteMinefield field => .ok { world with minefields := world.minefields.erase field }
  | .saveIntel player intel =>
    .ok { world with intel := world.intel.insert (player, intel.sector) intel }
  | .deleteIntel player sector => .ok { world with intel := world.intel.erase (player, sector) }
  | .insertLog player entry => .ok { world with logs := world.logs ++ [(player, entry)] }
  | .pruneLogs player keep =>
    .ok { world with logs := dropOldest player (world.excessLogs player keep) world.logs }

end Starlane.World
