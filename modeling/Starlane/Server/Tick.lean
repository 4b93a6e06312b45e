import Starlane.Chance.Stream
import Starlane.Event.Roll
import Starlane.Protectorate
import Starlane.Server.Call

/-!
# Tickers of a server

Only the scheduler runs the tickers.  Rows that mean nothing are passed over, or for events
dropped.
-/

namespace Starlane.Server.Database

open Chance

/-- The random numbers of a call, which depend on its time alone. -/
def dice (call : Call) : Stream :=
  Stream.reseeded (UInt64.ofInt call.time)

/-- The port row after one restocking round; an unreadable row stays. -/
def restockRow (row : PortRow) : PortRow :=
  match row.toPort with
  | .ok port => if port.restock = port then row else .ofPort port.restock
  | .error _ => row

/-- The planet row after one production cycle; one that changes nothing leaves the row as it
is. -/
def produceRow (row : PlanetRow) : PlanetRow :=
  let planet := row.toPlanet
  if planet.produce = planet then row else .ofPlanet planet.produce

/-- Every port restocks. -/
def restockPorts (db : Database) : Answer :=
  ({ db with ports := (db.ports.all.map restockRow).foldl Relation.update db.ports } :
    Database).done

/-- Every planet produces. -/
def producePlanets (db : Database) : Answer :=
  ({ db with planets := (db.planets.all.map produceRow).foldl Relation.update db.planets } :
    Database).done

/-- The event of a row, if it means one. -/
def event? (row : EventRow) : Option Event :=
  match row.toEvent with
  | .ok event => some event
  | .error _ => none

/-- Finished and unreadable events go, and perhaps a new one starts. -/
def turnEvents (call : Call) (db : Database) : Answer :=
  let readable := db.events.eraseAll fun row => (event? row).isNone
  let (round, _) := Event.round (readable.all.filterMap event?) db.sectors.rows.keys
    db.ports.rows.keys call.now (dice call)
  let lasting := round.expired.foldl Relation.erase readable
  match round.spawned with
  | none => ({ db with events := lasting } : Database).done
  | some event =>
    match lasting.insert (.ofEvent event) with
    | (some _, events) => ({ db with events } : Database).done
    | (none, events) => ({ db with events } : Database).fail (.duplicate "sector_event")

/-- Every protectorate musters. -/
def musterProtectorates (call : Call) (db : Database) : Answer :=
  let (mustered, _) := Protectorate.muster (dice call) db.sectors.all
  ({ db with sectors := mustered.foldl Relation.update db.sectors } : Database).done

/-- The scheduler runs a ticker. -/
def tick (call : Call) (ticker : Ticker) : Database → Answer :=
  transaction fun db =>
    if call.sender = schedulerIdentity then
      match ticker with
      | .port => db.restockPorts
      | .planet => db.producePlanets
      | .event => db.turnEvents call
      | .protectorate => db.musterProtectorates call
    else db.fail (.schedulerOnly ticker)

end Starlane.Server.Database
