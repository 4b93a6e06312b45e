import Starlane.Server.Lookup
import Starlane.Store.Write

/-!
# Changing a database

How a database carries out each write.  An insertion that fails has still used up a generated key.
-/

namespace Starlane.Server.Database

/-- Whether a row was stored, or else why not. -/
def stored {ρ : Type} (failure : StoreFailure) : Option ρ → Except StoreFailure Unit
  | some _ => .ok ()
  | none => .error failure

/-- Saves a player. -/
def savePlayer (db : Database) (player : Player) : Except StoreFailure Unit × Database :=
  match db.players.find? player.id with
  | none => (.error (.missing .player player.id), db)
  | some row => (.ok (), { db with players := db.players.update (row.save player) })

/-- Notes that a player has discovered a sector, once. -/
def discover (db : Database) (player : PlayerId) (sector : SectorId) :
    Except StoreFailure Unit × Database :=
  if db.discoveries.all.any fun row => row.player == player && row.sector == sector then
    (.ok (), db)
  else
    let (row, discoveries) := db.discoveries.insert ⟨0, player, sector⟩
    (stored (.keyTaken "discovery") row, { db with discoveries })

/-- Saves a port. -/
def savePort (db : Database) (port : Port) : Except StoreFailure Unit × Database :=
  match db.ports.find? port.sector with
  | none => (.error (.missing .port port.sector), db)
  | some _ => (.ok (), { db with ports := db.ports.update (.ofPort port) })

/-- Stores a new planet. -/
def insertPlanet (db : Database) (planet : Planet) : Except StoreFailure Unit × Database :=
  let (row, planets) := db.planets.insert (.ofPlanet { planet with id := 0 })
  (stored (.duplicate "planet") row, { db with planets })

/-- Saves a planet. -/
def savePlanet (db : Database) (planet : Planet) : Except StoreFailure Unit × Database :=
  match db.planets.find? planet.id with
  | none => (.error (.missing .planet planet.id), db)
  | some _ => (.ok (), { db with planets := db.planets.update (.ofPlanet planet) })

/-- Stores a new corporation. -/
def insertCorp (db : Database) (name : String) (now : Int) :
    Except StoreFailure Unit × Database :=
  let (row, corps) := db.corps.insert ⟨0, name, 0, now⟩
  (stored (.duplicate "corporation") row, { db with corps })

/-- Saves a corporation. -/
def saveCorp (db : Database) (corp : Corporation) : Except StoreFailure Unit × Database :=
  match db.corps.find? corp.id with
  | none => (.error (.missing .corporation corp.id), db)
  | some row =>
    (.ok (), { db with corps := db.corps.update { row with name := corp.name, bank := corp.bank } })

/-- The roster row of a player in a corporation. -/
def memberIn? (db : Database) (corp : CorpId) (player : PlayerId) : Option MemberRow :=
  (db.memberOf? player).filter fun row => row.corp == corp

/-- Stores a new roster line. -/
def insertMember (db : Database) (member : Member) : Except StoreFailure Unit × Database :=
  let (row, members) := db.members.insert (.ofMember member)
  (stored (.duplicate "corp_member") row, { db with members })

/-- Gives a member another role. -/
def setRole (db : Database) (corp : CorpId) (player : PlayerId) (role : Role) :
    Except StoreFailure Unit × Database :=
  match db.memberIn? corp player with
  | none => (.error (.missing .member player), db)
  | some row => (.ok (), { db with members := db.members.update { row with role := role.code } })

/-- Takes a player off the roster of a corporation. -/
def deleteMember (db : Database) (corp : CorpId) (player : PlayerId) : Database :=
  match db.memberIn? corp player with
  | none => db
  | some row => { db with members := db.members.erase row.id }

/-- Stores a message to a corporation. -/
def insertMessage (db : Database) (message : CorpMessage) :
    Except StoreFailure Unit × Database :=
  let (row, messages) :=
    db.messages.insert ⟨0, message.corp, message.player, message.text, message.time⟩
  (stored (.keyTaken "corp_message") row, { db with messages })

/-- Stores a new minefield. -/
def insertMinefield (db : Database) (field : Minefield) : Except StoreFailure Unit × Database :=
  let (row, minefields) := db.minefields.insert (.ofMinefield { field with id := 0 })
  (stored (.keyTaken "minefield") row, { db with minefields })

/-- Saves a minefield. -/
def saveMinefield (db : Database) (field : Minefield) : Except StoreFailure Unit × Database :=
  match db.minefields.find? field.id with
  | none => (.error (.missing .minefield field.id), db)
  | some _ => (.ok (), { db with minefields := db.minefields.update (.ofMinefield field) })

/-- Whether a row is a player's scan of a sector. -/
def isScan (player : PlayerId) (sector : SectorId) (row : IntelRow) : Bool :=
  row.player == player && row.sector == sector

/-- Saves a scan in place of the player's last one of the sector. -/
def saveIntel (db : Database) (player : PlayerId) (intel : Intel) :
    Except StoreFailure Unit × Database :=
  let new := IntelRow.ofIntel player intel
  match db.intel.search? (isScan player intel.sector) with
  | some old => (.ok (), { db with intel := db.intel.update { new with id := old.id } })
  | none =>
    let (row, intel) := db.intel.insert new
    (stored (.keyTaken "port_intel") row, { db with intel })

/-- Stores a log line. -/
def insertLog (db : Database) (player : PlayerId) (entry : LogEntry) :
    Except StoreFailure Unit × Database :=
  let (row, logs) := db.logs.insert (.ofEntry player entry)
  (stored (.keyTaken "game_log") row, { db with logs })

/-- Drops all but the newest lines of a player's log. -/
def pruneLogs (db : Database) (player : PlayerId) (keep : Nat) : Database :=
  let stale := idsToPrune ((db.logRows player).map (·.id)) keep
  { db with logs := stale.foldl Relation.erase db.logs }

/-- Carries out a write. -/
def write (change : Write) (db : Database) : Except StoreFailure Unit × Database :=
  match change with
  | .savePlayer player => db.savePlayer player
  | .discover player sector => db.discover player sector
  | .savePort port => db.savePort port
  | .insertPlanet planet => db.insertPlanet planet
  | .savePlanet planet => db.savePlanet planet
  | .insertCorp name now => db.insertCorp name now
  | .saveCorp corp => db.saveCorp corp
  | .deleteCorp corp =>
    (.ok (), { db with
      members := db.members.eraseAll fun row => row.corp == corp
      corps := db.corps.erase corp })
  | .insertMember member => db.insertMember member
  | .setRole corp player role => db.setRole corp player role
  | .deleteMember corp player => (.ok (), db.deleteMember corp player)
  | .insertMessage message => db.insertMessage message
  | .insertMinefield field => db.insertMinefield field
  | .saveMinefield field => db.saveMinefield field
  | .deleteMinefield field => (.ok (), { db with minefields := db.minefields.erase field })
  | .saveIntel player intel => db.saveIntel player intel
  | .deleteIntel player sector =>
    (.ok (), { db with intel := db.intel.eraseAll (isScan player sector) })
  | .insertLog player entry => db.insertLog player entry
  | .pruneLogs player keep => (.ok (), db.pruneLogs player keep)

instance : Store Database where
  lookup := lookup
  write := write

end Starlane.Server.Database
