import Starlane.Server.Schedule

/-!
# Calls of administrators

Settings, the flags of players, and the import of a universe.
-/

namespace Starlane.Server.Database

/-- An administrator stores new settings, and the timers follow them. -/
def updateSettings (call : Call) (document : String) : Database → Answer :=
  transaction fun db =>
    if db.isAdmin call.sender then
      match Settings.read? document with
      | none => db.fail .invalidSettings
      | some settings => ((db.storeSettings call.sender settings).schedule settings).done
    else db.fail .adminOnly

/-- An administrator sets the flags of a player. -/
def setFlags (call : Call) (player : PlayerId) (isAdmin mustChangePassword : Bool) :
    Database → Answer :=
  transaction fun db =>
    if db.isAdmin call.sender then
      match db.players.find? player with
      | none => db.fail (.unknownPlayer player)
      | some row =>
        let players := db.players.update { row with isAdmin, mustChangePassword }
        ({ db with players } : Database).done
    else db.fail .adminOnly

/-- Stores warps one by one, up to the first whose key is taken. -/
def insertWarps : List (SectorId × SectorId) → Database → Answer
  | [], db => db.done
  | warp :: rest, db =>
    match db.warps.insert ⟨0, warp.1, warp.2⟩ with
    | (some _, warps) => insertWarps rest { db with warps }
    | (none, warps) => ({ db with warps } : Database).fail (.duplicate "warp")

/-- The warps of a universe that are not there yet. -/
def newWarps (db : Database) (layout : Universe) : List (SectorId × SectorId) :=
  let known := db.warps.all.map fun row => (row.source, row.target)
  layout.edges.filter fun warp => !known.contains warp

/-- Lays out a universe: sectors and ports take the place of those with the same numbers, and
warps are added. -/
def addUniverse (db : Database) (layout : Universe) : Answer :=
  let sectors := layout.sectors.foldl Relation.update db.sectors
  let ports := layout.ports.foldl (fun table port => table.update (.ofPort port)) db.ports
  insertWarps (db.newWarps layout) { db with sectors, ports }

/-- An administrator imports a universe. -/
def importUniverse (call : Call) (document : String) : Database → Answer :=
  transaction fun db =>
    if db.isAdmin call.sender then
      match Universe.read document with
      | .error error => db.fail (.layout error)
      | .ok layout => db.addUniverse layout
    else db.fail .adminOnly

end Starlane.Server.Database
