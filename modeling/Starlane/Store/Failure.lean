import Starlane.Identity

/-!
# Store failures

What can go wrong with the storage of a game.  A failure, unlike a refusal, undoes the whole
command.
-/

namespace Starlane

/-- What a stored record describes. -/
inductive Entity where
  | player
  | sector
  | port
  | planet
  | corporation
  | member
  | minefield
  | event
  | intel
  | log
  deriving DecidableEq, Repr

/-- The word for a record. -/
def Entity.noun : Entity → String
  | player => "player"
  | sector => "sector"
  | port => "port"
  | planet => "planet"
  | corporation => "corporation"
  | member => "corp member"
  | minefield => "minefield"
  | event => "event"
  | intel => "intel"
  | log => "log"

/-- A failure of the storage. -/
inductive StoreFailure where
  /-- A record that must be there is not. -/
  | missing (entity : Entity) (id : Nat)
  /-- There is no sector in which a player could start. -/
  | noStart
  /-- The player is on a roster already. -/
  | alreadyMember (player : PlayerId)
  /-- A field of a record holds no value of its type. -/
  | unreadable (entity : Entity) (id : Nat) (field : String)
  /-- A new planet, corporation or roster line repeats a key or a unique value of another. -/
  | duplicate (table : String)
  /-- The number generated for a new log line, message, scan, minefield or discovery is taken. -/
  | keyTaken (table : String)
  /-- The storage takes no more writes. -/
  | writesExhausted
  deriving DecidableEq, Repr

namespace StoreFailure

/-- The storage's own report of a row that repeats a key or a unique value. -/
def rowReport (table : String) : String :=
  s!"insertion error on table `{table}`:duplicate unique column"

/-- What is reported. -/
def message : StoreFailure → String
  | missing entity id => s!"{entity.noun} {id} not found"
  | noStart => "sector start not found"
  | alreadyMember player => s!"transaction conflict: player {player} already has a corporation"
  | unreadable entity id field =>
    s!"transaction conflict: {entity.noun} {id} has an invalid {field}"
  | duplicate table => s!"transaction conflict: {rowReport table}"
  | keyTaken table => rowReport table
  | writesExhausted => "storage unavailable: injected write failure"

end StoreFailure

end Starlane
