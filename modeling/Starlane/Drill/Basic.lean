import Starlane.Storage
import Starlane.World.Seed

/-!
# Drills

A drill plays scripted sessions on a small universe and checks what players are told.
-/

namespace Starlane.Drill

/-- A check: what was found, in words. -/
structure Check where
  name : String
  passed : Bool
  detail : String
  deriving DecidableEq, Repr

/-- A part of the drill: its checks, and notes for those who ask for them. -/
structure Part where
  title : String
  notes : List String
  checks : List Check
  deriving DecidableEq, Repr

/-- The time at which every session starts. -/
def startTime : Int := 1000000

/-- A session: a game of its own and a clock. -/
structure Session where
  storage : Storage
  now : Int

namespace Session

/-- A session on a universe. -/
def ofLayout (layout : Universe) : Session :=
  ⟨.ofWorld (World.empty.addUniverse layout), startTime⟩

/-- The world of the session. -/
def world (session : Session) : World :=
  session.storage.world

/-- The session with its world changed. -/
def change (session : Session) (f : World → World) : Session :=
  { session with storage := { session.storage with world := f session.world } }

/-- A player joins.  Also returns whether that worked. -/
def join (session : Session) (id : PlayerId) (username : String) : Bool × Session :=
  let (player, world) := session.world.join Settings.standard session.now id username
  (player.isOk, session.change fun _ => world)

/-- The session with a player's record changed. -/
def edit (session : Session) (id : PlayerId) (f : Player → Player) : Session :=
  session.change fun world => { world with players := world.players.modify id f }

/-- A player gives a command.  There is no response if the command fails. -/
def run (session : Session) (player : PlayerId) (request : Request) :
    Option Response × Session :=
  let (answer, storage) :=
    session.storage.execute Settings.standard session.now player request
  (answer.toOption, { session with storage })

/-- A player gives a command.  There is no response if it is refused or fails. -/
def runOk (session : Session) (player : PlayerId) (request : Request) :
    Option Response × Session :=
  let (response, session) := session.run player request
  (response.filter Response.ok, session)

end Session

/-- A request to move. -/
def moveTo (sector : Int) : Request :=
  { Request.ofKind "MOVE" with target := sector }

/-- A request with an action on a quantity of a commodity. -/
def cargoRequest (kind action commodity : String) (quantity : Int) : Request :=
  { Request.ofKind kind with action, commodity, quantity }

/-- A request with an action under a name. -/
def namedRequest (kind action name : String) : Request :=
  { Request.ofKind kind with action, name }

end Starlane.Drill
