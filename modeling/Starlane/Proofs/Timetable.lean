import Starlane.Proofs.Calling
import Starlane.Proofs.Settings

/-!
# Timers follow the settings

The settings in force are read from a stored document each time, and the timers
are set only where that document is. What is stored of settings is read as just
these, so the timers of a server that has been set up are always as the settings
in force say, whoever calls and whatever fails.
-/

namespace Starlane.Server

/-- Whether a ticker has one timer, at an interval of so many seconds. -/
def TicksEvery (timers : Relation TimerRow) (seconds : Nat) : Prop :=
  ∃ row, timers.rows.values = [row] ∧ row.interval = seconds * 1000000

theorem Runs.ticksEvery {timers : Relation TimerRow} {seconds : Nat} (runs : Runs timers seconds)
    (positive : 0 < seconds) : TicksEvery timers seconds := by
  unfold Runs at runs
  rw [if_neg (Nat.ne_of_gt positive)] at runs
  obtain ⟨row, listed, interval⟩ := List.map_eq_singleton_iff.mp runs
  exact ⟨row, listed, interval⟩

theorem Runs.idle {timers : Relation TimerRow} {seconds : Nat} (runs : Runs timers seconds)
    (off : seconds = 0) : timers.rows.values = [] := by
  unfold Runs at runs
  rw [if_pos off] at runs
  exact List.map_eq_nil_iff.mp runs

namespace Database

variable {db after : Database} {call : Call} {ask : Ask} {settings : Settings}

/-- The same timers follow the same settings. -/
theorem Timed.same (timed : db.Timed settings) (same : db.SameRule after) :
    after.Timed settings := by
  obtain ⟨port, planet, event, protectorate⟩ := timed
  unfold Runs at port planet event protectorate
  constructor <;> unfold Runs
  · rw [same.portTimers]
    exact port
  · rw [same.planetTimers]
    exact planet
  · rw [same.eventTimers]
    exact event
  · rw [same.protectorateTimers]
    exact protectorate

/-- Settings that are stored are in force. -/
theorem currentSettings_stored {caller : Identity} {document : String}
    (read : Settings.read? document = some settings)
    (stored : after.settings.rows = (db.storeSettings caller settings).settings.rows) :
    after.currentSettings = settings := by
  unfold currentSettings Relation.find?
  rw [stored]
  unfold storeSettings Relation.update
  dsimp only [Row.key]
  rw [Table.get?_insert_self, Option.bind_some, Settings.read?_write read, Option.getD_some]

/-- The settings of an administrator are stored, and the timers follow them. -/
theorem updateSettings_permitted {document : String} (permitted : db.isAdmin call.sender = true)
    (read : Settings.read? document = some settings) :
    db.updateSettings call document =
      (.ok (), (db.storeSettings call.sender settings).schedule settings) := by
  unfold updateSettings transaction
  dsimp only
  rw [if_pos permitted, read]
  rfl

/-- The settings in force are within their bounds. -/
theorem currentSettings_normalized (db : Database) :
    ∃ raw : Settings, db.currentSettings = raw.normalized := by
  unfold currentSettings
  cases read : (db.settings.find? 0).bind fun row => Settings.read? row.document with
  | none => exact ⟨Settings.standard, by decide⟩
  | some settings =>
    obtain ⟨row, _, given⟩ := Option.bind_eq_some_iff.mp read
    obtain ⟨raw, _, same⟩ := Option.map_eq_some_iff.mp given
    exact ⟨raw, same.symm⟩

/-- The tickers of ports and of planets cannot be turned off. -/
theorem currentSettings_ticking (db : Database) :
    0 < db.currentSettings.portTickSeconds ∧ 0 < db.currentSettings.planetTickSeconds := by
  obtain ⟨raw, same⟩ := db.currentSettings_normalized
  rw [same]
  unfold Settings.normalized
  dsimp only
  omega

/-- A server that is set up has its timers as the settings in force say. -/
theorem init_timed (db : Database) (call : Call) :
    (db.answer call .init).2.Timed (db.answer call .init).2.currentSettings :=
  schedule_timed _ _

/-- Every call leaves the timers as the settings in force say. -/
theorem Timed.next (timed : db.Timed db.currentSettings) (outcome : db.Outcome call ask after) :
    after.Timed after.currentSettings := by
  have kept : db.SameRule after → after.Timed after.currentSettings := by
    intro same
    rw [same.currentSettings]
    exact timed.same same
  cases outcome with
  | spared spares => exact kept spares.toSameRule
  | played plays => exact kept plays.1
  | joined rule => exact kept rule
  | readied _ ready => exact ready
  | updated _ read stored set =>
    rw [currentSettings_stored read stored]
    exact set
  | flagged _ _ rule => exact kept rule

end Database

/-- After the setting up of a server, whatever state it was in, and any calls by
anybody, the tickers of ports and of planets have one timer each, those of events
and of protectorates have one or, where their interval is zero, none, and every
interval is that of the settings in force. -/
theorem timers_follow_settings {start db : Database} {first : Call}
    (serves : (start.answer first .init).2.Serves db) :
    TicksEvery db.portTimers db.currentSettings.portTickSeconds ∧
    TicksEvery db.planetTimers db.currentSettings.planetTickSeconds ∧
    (0 < db.currentSettings.eventTickSeconds →
      TicksEvery db.eventTimers db.currentSettings.eventTickSeconds) ∧
    (db.currentSettings.eventTickSeconds = 0 → db.eventTimers.rows.values = []) ∧
    (0 < db.currentSettings.protectorateTickSeconds →
      TicksEvery db.protectorateTimers db.currentSettings.protectorateTickSeconds) ∧
    (db.currentSettings.protectorateTickSeconds = 0 →
      db.protectorateTimers.rows.values = []) := by
  have timed : db.Timed db.currentSettings := by
    induction serves with
    | refl => exact start.init_timed first
    | @tail db after _ called ih =>
      obtain ⟨call, ask, rfl⟩ := called
      exact ih.next (db.answer_outcome call ask)
  obtain ⟨port, planet⟩ := db.currentSettings_ticking
  exact ⟨timed.port.ticksEvery port, timed.planet.ticksEvery planet, timed.event.ticksEvery,
    timed.event.idle, timed.protectorate.ticksEvery, timed.protectorate.idle⟩

/-- Settings under which ports are slow and there are no events, as a document. -/
def Drill.slowdown : String :=
  "\x7b\"port_tick_seconds\": 90, \"event_tick_seconds\": 0\x7d"

/-- The settings that the document gives. -/
def Drill.slowSettings : Settings :=
  { Settings.standard with portTickSeconds := 90, eventTickSeconds := 0 }

/-- A server that its owner, client 7, has set up. -/
def Drill.ready : Database :=
  (Database.empty.answer ⟨7, 1000000⟩ .init).2

/-- The server after its owner has sent the document. -/
def Drill.slowed : Database :=
  (ready.answer ⟨7, 2000000⟩ (.updateSettings slowdown)).2

/-- Ports restock at the new interval, and there are no events. -/
theorem timers_follow_settings_slowed :
    TicksEvery Drill.slowed.portTimers 90 ∧ Drill.slowed.eventTimers.rows.values = [] := by
  have serves : Drill.ready.Serves Drill.slowed := .single ⟨_, _, rfl⟩
  obtain ⟨port, _, _, event, _⟩ := timers_follow_settings serves
  have permitted : Drill.ready.isAdmin 7 = true := by decide +kernel
  have read : Settings.read? Drill.slowdown = some Drill.slowSettings := by decide +kernel
  have called : Drill.slowed =
      (Drill.ready.storeSettings 7 Drill.slowSettings).schedule Drill.slowSettings := by
    unfold Drill.slowed Database.answer
    dsimp only
    rw [Database.updateSettings_permitted permitted read]
  have stored : Drill.slowed.settings.rows =
      (Drill.ready.storeSettings 7 Drill.slowSettings).settings.rows := by
    rw [called]
    rfl
  rw [Database.currentSettings_stored read stored] at port event
  exact ⟨port, event rfl⟩

end Starlane.Server
