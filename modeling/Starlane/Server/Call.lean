import Starlane.Execution
import Starlane.Server.Change
import Starlane.Universe

/-!
# Calls

What a client or the scheduler asks of a server.  A call is one transaction: after a failure every
row is as before, and only the generated keys that it took stay used.
-/

namespace Starlane.Server

/-- Who calls, and when. -/
structure Call where
  sender : Identity
  time : Micros
  deriving DecidableEq, Repr

/-- The time of a call in whole seconds, rounded toward zero. -/
def Call.now (call : Call) : Int :=
  call.time.tdiv 1000000

/-- The identity under which the scheduler runs the tickers. -/
def schedulerIdentity : Identity := 0

/-- A ticker. -/
inductive Ticker where
  | port
  | planet
  | event
  | protectorate
  deriving DecidableEq, Repr

/-- The name of a ticker. -/
def Ticker.name : Ticker → String
  | port => "port_tick"
  | planet => "planet_tick"
  | event => "event_tick"
  | protectorate => "protectorate_tick"

/-- The shortest and the longest username, in characters. -/
def usernameLengths : Nat × Nat := (3, 24)

/-- Why a call fails. -/
inductive CallError where
  | alreadyJoined
  | usernameLength
  | usernameTaken
  | noSeason
  | noSectors
  | playerNotCreated
  | malformedCommand
  | notJoined
  | store (failure : StoreFailure)
  | adminOnly
  | invalidSettings
  | unknownPlayer (player : PlayerId)
  | layout (error : UniverseError)
  | schedulerOnly (ticker : Ticker)
  | duplicate (table : String)
  deriving DecidableEq, Repr

namespace CallError

/-- What the caller is told. -/
def message : CallError → String
  | alreadyJoined => "You already have a player"
  | usernameLength => s!"Username must be {usernameLengths.1}-{usernameLengths.2} characters"
  | usernameTaken => "Username is taken"
  | noSeason => "No active season"
  | noSectors => "The universe has no sectors"
  | playerNotCreated => "Failed to create player: " ++ StoreFailure.rowReport "player"
  | malformedCommand => "Malformed command:"
  | notJoined => "Join the game first"
  | store failure => failure.message
  | adminOnly => "Admin only"
  | invalidSettings => "Invalid config:"
  | unknownPlayer player => s!"Player {player} not found"
  | layout error => error.message
  | schedulerOnly ticker => s!"{ticker.name} can only be run by the scheduler"
  | duplicate table => StoreFailure.rowReport table

end CallError

/-- The result of a call and the database after it. -/
abbrev Answer := Except CallError Unit × Database

namespace Database

/-- A successful call. -/
def done (db : Database) : Answer :=
  (.ok (), db)

/-- A failed call. -/
def fail (db : Database) (error : CallError) : Answer :=
  (.error error, db)

/-- Runs a call as one transaction. -/
def transaction (action : Database → Answer) (db : Database) : Answer :=
  match action db with
  | (.ok _, after) => (.ok (), after)
  | (.error error, after) => (.error error, db.restore after)

/-- Whether a client may administer the server: the owner of the settings may, and any client
whose player is an administrator. -/
def isAdmin (db : Database) (identity : Identity) : Bool :=
  (db.settings.find? 0).any (fun row => row.owner == identity) ||
    (db.playerOf? identity).any (·.isAdmin)

end Database

end Starlane.Server
