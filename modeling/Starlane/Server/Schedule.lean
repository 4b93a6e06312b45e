import Starlane.Server.Call

/-!
# Schedules

The timers of the tickers follow the settings: one timer each, and none where the interval is
zero.
-/

namespace Starlane.Server

/-- The timers of one ticker with all old ones replaced. -/
def reschedule (seconds : Nat) (timers : Relation TimerRow) : Relation TimerRow :=
  let cleared := timers.clear
  if seconds = 0 then cleared else (cleared.insert ⟨0, seconds * 1000000⟩).2

namespace Database

/-- The database with the timers of all tickers as the settings say. -/
def schedule (db : Database) (settings : Settings) : Database :=
  { db with
    portTimers := reschedule settings.portTickSeconds db.portTimers
    planetTimers := reschedule settings.planetTickSeconds db.planetTimers
    eventTimers := reschedule settings.eventTickSeconds db.eventTimers
    protectorateTimers := reschedule settings.protectorateTickSeconds db.protectorateTimers }

/-- The database with settings stored: in place of the old ones, whose owner stays, or owned by
the caller. -/
def storeSettings (db : Database) (caller : Identity) (settings : Settings) : Database :=
  let owner := ((db.settings.find? 0).map (·.owner)).getD caller
  { db with settings := db.settings.update ⟨0, owner, settings.write⟩ }

/-- Stores the standard settings where there are none. -/
def ensureSettings (db : Database) (caller : Identity) : Database :=
  match db.settings.find? 0 with
  | some _ => db
  | none => db.storeSettings caller Settings.standard

/-- Starts the first season where there is none. -/
def ensureSeason (db : Database) (now : Int) : Database :=
  if db.seasons.all.isEmpty then
    { db with seasons := (db.seasons.insert ⟨0, "Season 1", now⟩).2 }
  else db

/-- Sets the server up. -/
def init (call : Call) : Database → Answer :=
  transaction fun db =>
    let ready := (db.ensureSettings call.sender).ensureSeason call.now
    (ready.schedule ready.currentSettings).done

end Database

end Starlane.Server
