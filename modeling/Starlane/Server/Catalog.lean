import Starlane.Server.Database
import Starlane.Server.Tabular

/-!
# The catalogue

The tables of a server by their names.  Whoever administers a server sees and edits rows here,
past all rules of the game; only keys and unique columns are still guarded.
-/

namespace Starlane.Server

/-- A table as reached by its name. -/
structure Catalog.Entry where
  name : String
  /-- All rows by ascending key. -/
  rows : Database → List Json
  /-- Inserts the row that an object describes, or replaces the one with its key.  Returns whether
  no unique value stood against it. -/
  put : Json → Database → Bool × Database
  /-- Replaces columns of the row with a key.  Returns whether there is one and no unique value
  stood against it. -/
  patch : Nat → Json → Database → Bool × Database
  /-- Removes the row with a key.  Returns whether there was one. -/
  delete : Nat → Database → Bool × Database

namespace Catalog

variable {ρ : Type} [Row ρ] [Tabular ρ] [DecidableEq ρ]

/-- The entry of a table of the database. -/
def entry (name : String) (get : Database → Relation ρ) (set : Database → Relation ρ → Database) :
    Entry where
  name
  rows db := (get db).rows.values.map Tabular.toJson
  put values db :=
    let (done, relation) := (get db).put (Tabular.ofJson values)
    (done, set db relation)
  patch key values db :=
    match (get db).find? key with
    | none => (false, db)
    | some row =>
      let row := Tabular.overwrite values row
      if (get db).hasClash row then (false, db) else (true, set db ((get db).update row))
  delete key db := (((get db).find? key).isSome, set db ((get db).erase key))

/-- All tables. -/
def entries : List Entry :=
  [entry "game_config" (·.settings) fun db settings => { db with settings },
    entry "season" (·.seasons) fun db seasons => { db with seasons },
    entry "player" (·.players) fun db players => { db with players },
    entry "online_player" (·.sessions) fun db sessions => { db with sessions },
    entry "command_result" (·.results) fun db results => { db with results },
    entry "game_log" (·.logs) fun db logs => { db with logs },
    entry "discovery" (·.discoveries) fun db discoveries => { db with discoveries },
    entry "port_intel" (·.intel) fun db intel => { db with intel },
    entry "sector" (·.sectors) fun db sectors => { db with sectors },
    entry "warp" (·.warps) fun db warps => { db with warps },
    entry "port" (·.ports) fun db ports => { db with ports },
    entry "planet" (·.planets) fun db planets => { db with planets },
    entry "minefield" (·.minefields) fun db minefields => { db with minefields },
    entry "sector_event" (·.events) fun db events => { db with events },
    entry "corporation" (·.corps) fun db corps => { db with corps },
    entry "corp_member" (·.members) fun db members => { db with members },
    entry "corp_message" (·.messages) fun db messages => { db with messages },
    entry "port_tick_timer" (·.portTimers) fun db portTimers => { db with portTimers },
    entry "planet_tick_timer" (·.planetTimers) fun db planetTimers => { db with planetTimers },
    entry "event_tick_timer" (·.eventTimers) fun db eventTimers => { db with eventTimers },
    entry "protectorate_tick_timer" (·.protectorateTimers)
      fun db protectorateTimers => { db with protectorateTimers }]

/-- The table of a name. -/
def find? (name : String) : Option Entry :=
  entries.find? fun entry => entry.name == name

end Catalog

/-- All tables that have rows, each under its name. -/
def Database.toJson (db : Database) : Json :=
  .ofFields (Catalog.entries.filterMap fun entry =>
    let rows := entry.rows db
    if rows.isEmpty then none else some (entry.name, .list rows))

end Starlane.Server
