import Starlane.Overflow
import Starlane.Server.Call

/-!
# Calls of clients

Connecting, joining the game and giving commands.
-/

namespace Starlane.Server.Database

/-- A client connects; an older session of the same client ends. -/
def connect (call : Call) : Database → Answer :=
  transaction fun db =>
    let player := (db.playerOf? call.sender).map (·.id)
    ({ db with sessions := db.sessions.update ⟨call.sender, player, call.time⟩ } : Database).done

/-- A client disconnects. -/
def disconnect (call : Call) : Database → Answer :=
  transaction fun db => ({ db with sessions := db.sessions.erase call.sender } : Database).done

/-- The latest season. -/
def latestSeason? (db : Database) : Option Season :=
  db.seasons.rows.values.getLast?

/-- The first sector. -/
def firstSector? (db : Database) : Option SectorId :=
  db.sectors.rows.keys.head?

/-- The new player of a client, or why the client cannot join. -/
def recruit (db : Database) (call : Call) (username : String) : Except CallError Player := do
  if (db.playerOf? call.sender).isSome then throw .alreadyJoined
  let name := Text.singleLine username
  if name.length < usernameLengths.1 ∨ usernameLengths.2 < name.length then throw .usernameLength
  let wanted := Text.lower name
  if db.players.all.any fun row => Text.lower row.username == wanted then throw .usernameTaken
  match db.latestSeason?, db.firstSector? with
  | none, _ => throw .noSeason
  | _, none => throw .noSectors
  | some season, some start =>
    return db.currentSettings.newPlayer 0 name start season call.now

/-- Notes the player of a client in the client's session, if there is one. -/
def noteSession (db : Database) (identity : Identity) (player : PlayerId) : Database :=
  match db.sessions.find? identity with
  | some session => { db with sessions := db.sessions.update { session with player := some player } }
  | none => db

/-- A client joins the game with a new player in the latest season and the first sector. -/
def join (call : Call) (username : String) : Database → Answer :=
  transaction fun db =>
    match db.recruit call username with
    | .error error => db.fail error
    | .ok player =>
      let (row, players) := db.players.insert (.ofPlayer call.sender call.time player)
      let joined := { db with players }
      match row with
      | none => joined.fail .playerNotCreated
      | some row =>
        match joined.discover row.id row.sector with
        | (.error failure, after) => after.fail (.store failure)
        | (.ok _, after) => (after.noteSession call.sender row.id).done

/-- A client gives a command as a document; the response is kept as the player's last result. -/
def submit (call : Call) (document : String) : Database → Answer :=
  transaction fun db =>
    match Request.read? document with
    | none => db.fail .malformedCommand
    | some request =>
      match db.playerOf? call.sender with
      | none => db.fail .notJoined
      | some player =>
        match Store.execute db.currentSettings call.now player.id request db with
        | (.error failure, after) => after.fail (.store failure)
        | (.ok response, after) =>
          let result : ResultRow :=
            ⟨player.id, call.sender, response.toJson.render, call.time⟩
          ({ after with results := after.results.update result } : Database).done

/-- Whether a client's command ends the program with an overflow. -/
def overflows (call : Call) (document : String) (db : Database) : Bool :=
  match Request.read? document, db.playerOf? call.sender with
  | some request, some player =>
    Store.aborts db.currentSettings call.now player.id request db
  | _, _ => false

end Starlane.Server.Database
