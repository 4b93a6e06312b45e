import Mathlib.Logic.Relation
import Starlane.Proofs.Commit
import Starlane.Proofs.Hosting
import Starlane.Server.Admin
import Starlane.Server.Client
import Starlane.Server.Tick

/-!
# What calls make of a server

All calls as one type, and what each makes of the settings, the timers and the
players. `Database.Outcome` has one constructor for each way in which these
change, and `Database.answer_outcome` derives it from the calls, so later proofs
split on outcomes and never unfold a call.
-/

namespace Starlane

/-- The state after a request is the state after some writes. -/
theorem Store.execute_writes {σ : Type} [Store σ] (settings : Settings) (now : Int)
    (player : PlayerId) (request : Request) (store : σ) :
    ∃ changes, (execute settings now player request store).2 = (writeAll changes store).2 := by
  have settled : ∀ commander message refusal changes,
      (settle settings now commander message refusal changes store).2 =
        (writeAll changes store).2 := by
    intro commander message refusal changes
    unfold settle
    split <;> next wrote => rw [wrote]
  cases loads : (lookup store).commander player with
  | error failure =>
    rw [execute_unloaded loads]
    exact ⟨[], rfl⟩
  | ok loaded =>
    cases planned : (Command.ofRequest request).outcome (lookup store) now
        (loaded.regenerate settings.turnRegenSeconds now) with
    | ok effects =>
      rw [execute_planned loads rfl planned]
      exact ⟨_, settled _ _ _ _⟩
    | error halt =>
      cases halt with
      | refused written reason =>
        rw [execute_refused loads rfl planned]
        exact ⟨_, settled _ _ _ _⟩
      | failed written failure =>
        rw [execute_halted loads rfl planned]
        exact ⟨written, rfl⟩

namespace Server

instance : LawfulRow PlayerRow := ⟨fun _ _ => rfl⟩

instance : LawfulRow TimerRow := ⟨fun _ _ => rfl⟩

/-- What a client or the scheduler asks of a server. -/
inductive Ask where
  | init
  | connect
  | disconnect
  | join (username : String)
  | submit (document : String)
  | updateSettings (document : String)
  | setFlags (player : PlayerId) (isAdmin mustChangePassword : Bool)
  | importUniverse (document : String)
  | tick (ticker : Ticker)
  deriving DecidableEq, Repr

/-- Whether only administrators may ask for something. -/
def Ask.administers : Ask → Bool
  | updateSettings _ | setFlags _ _ _ | importUniverse _ => true
  | _ => false

/-- Whether a row is that of the same player of the same client, with the same
name and the same flags. -/
structure PlayerRow.SameRights (row later : PlayerRow) : Prop where
  id : later.id = row.id
  identity : later.identity = row.identity
  username : later.username = row.username
  isAdmin : later.isAdmin = row.isAdmin
  mustChangePassword : later.mustChangePassword = row.mustChangePassword

theorem PlayerRow.SameRights.refl (row : PlayerRow) : row.SameRights row :=
  ⟨rfl, rfl, rfl, rfl, rfl⟩

theorem PlayerRow.SameRights.trans {row mid later : PlayerRow} (first : row.SameRights mid)
    (second : mid.SameRights later) : row.SameRights later where
  id := second.id.trans first.id
  identity := second.identity.trans first.identity
  username := second.username.trans first.username
  isAdmin := second.isAdmin.trans first.isAdmin
  mustChangePassword := second.mustChangePassword.trans first.mustChangePassword

/-- Whether two tables have the same players, each with the same rights. -/
def SamePlayers (players later : Table Nat PlayerRow) : Prop :=
  ∀ id, Option.Rel PlayerRow.SameRights (players.get? id) (later.get? id)

theorem SamePlayers.refl (players : Table Nat PlayerRow) : SamePlayers players players := by
  intro id
  cases players.get? id with
  | none => exact .none
  | some row => exact .some (.refl row)

theorem SamePlayers.trans {players mid later : Table Nat PlayerRow}
    (first : SamePlayers players mid) (second : SamePlayers mid later) :
    SamePlayers players later := by
  intro id
  have early := first id
  have late := second id
  generalize players.get? id = row at early ⊢
  generalize mid.get? id = between at early late
  generalize later.get? id = row' at late ⊢
  cases early with
  | none => cases late; exact .none
  | some same => cases late with | some same' => exact .some (same.trans same')

/-- Players with the same rights are filed under their own numbers as before. -/
theorem SamePlayers.keyed {players later : Table Nat PlayerRow} (same : SamePlayers players later)
    (keyed : players.KeyedBy (·.id)) : later.KeyedBy (·.id) := by
  intro id row found
  have alike := same id
  rw [found] at alike
  generalize stored : players.get? id = before at alike
  cases alike with
  | some same => exact same.id.trans (keyed id _ stored)

/-- Whether the timers of a ticker are one, at an interval of some seconds, or
none if these are zero. -/
def Runs (timers : Relation TimerRow) (seconds : Nat) : Prop :=
  timers.rows.values.map (·.interval) = if seconds = 0 then [] else [seconds * 1000000]

/-- However many timers a ticker has had, it has as many as it should. -/
theorem reschedule_runs (seconds : Nat) (timers : Relation TimerRow) :
    Runs (reschedule seconds timers) seconds := by
  unfold Runs reschedule
  dsimp only
  split
  · rfl
  · have numbered : timers.clear.Numbered := ⟨nofun, nofun⟩
    have inserted := numbered.insert_new ⟨0, seconds * 1000000⟩ rfl nofun
    rw [inserted, numbered.values_append]
    rfl

/-- An insertion that succeeds adds the row under a free key, or finds it there
already. -/
theorem Relation.insert_success {ρ : Type} [Row ρ] [DecidableEq ρ] {relation later : Relation ρ}
    {row stored : ρ} (inserted : relation.insert row = (some stored, later)) :
    (stored = row ∨ ∃ key, stored = Row.withKey key row) ∧
      (later.rows = relation.rows ∨
        relation.rows.get? (Row.key stored) = none ∧
          later.rows = relation.rows.insert (Row.key stored) stored) := by
  have numbered : (relation.number row).1 = row ∨
      ∃ key, (relation.number row).1 = Row.withKey key row := by
    unfold Relation.number
    split
    · exact .inr ⟨_, rfl⟩
    · exact .inl rfl
  unfold Relation.insert at inserted
  generalize relation.number row = given at numbered inserted
  obtain ⟨given, issued⟩ := given
  dsimp only at inserted numbered
  split at inserted
  · split at inserted <;> cases inserted
    exact ⟨numbered, .inl rfl⟩
  · next free =>
    split at inserted <;> cases inserted
    exact ⟨numbered, .inr ⟨free, rfl⟩⟩

namespace Database

/-- Calls a server. -/
def answer (db : Database) (call : Call) : Ask → Answer
  | .init => db.init call
  | .connect => db.connect call
  | .disconnect => db.disconnect call
  | .join username => db.join call username
  | .submit document => db.submit call document
  | .updateSettings document => db.updateSettings call document
  | .setFlags player isAdmin mustChangePassword =>
    db.setFlags call player isAdmin mustChangePassword
  | .importUniverse document => db.importUniverse call document
  | .tick ticker => db.tick call ticker

/-- Whether some calls, by anybody at any time, lead from one state to another. -/
def Serves : Database → Database → Prop :=
  Relation.ReflTransGen fun db after => ∃ call ask, after = (db.answer call ask).2

/-- Whether the settings and the timers are the same. -/
structure SameRule (db after : Database) : Prop where
  settings : after.settings.rows = db.settings.rows
  portTimers : after.portTimers.rows = db.portTimers.rows
  planetTimers : after.planetTimers.rows = db.planetTimers.rows
  eventTimers : after.eventTimers.rows = db.eventTimers.rows
  protectorateTimers : after.protectorateTimers.rows = db.protectorateTimers.rows

/-- Whether the settings, the timers and the players are the same. -/
structure Spares (db after : Database) : Prop extends db.SameRule after where
  players : after.players.rows = db.players.rows

variable {db mid after : Database} {call : Call} {ask : Ask}

theorem SameRule.trans (first : db.SameRule mid) (second : mid.SameRule after) :
    db.SameRule after where
  settings := second.settings.trans first.settings
  portTimers := second.portTimers.trans first.portTimers
  planetTimers := second.planetTimers.trans first.planetTimers
  eventTimers := second.eventTimers.trans first.eventTimers
  protectorateTimers := second.protectorateTimers.trans first.protectorateTimers

theorem Spares.refl (db : Database) : db.Spares db :=
  ⟨⟨rfl, rfl, rfl, rfl, rfl⟩, rfl⟩

theorem Spares.trans (first : db.Spares mid) (second : mid.Spares after) : db.Spares after :=
  ⟨first.toSameRule.trans second.toSameRule, second.players.trans first.players⟩

/-- What is undone is as it was. -/
theorem Spares.restore (db after : Database) : db.Spares (db.restore after) :=
  ⟨⟨rfl, rfl, rfl, rfl, rfl⟩, rfl⟩

theorem SameRule.currentSettings (same : db.SameRule after) :
    after.currentSettings = db.currentSettings := by
  unfold Database.currentSettings Relation.find?
  rw [same.settings]

/-- Only the saving of a player touches players, and no write touches settings or
timers. -/
theorem write_spares {change : Write} (other : ∀ player, change ≠ .savePlayer player) :
    db.Spares (db.write change).2 := by
  have same := Spares.refl db
  cases change with
  | savePlayer player => exact absurd rfl (other player)
  | discover | savePort | savePlanet | saveCorp | setRole | deleteMember | saveMinefield
  | saveIntel =>
    simp only [write, discover, savePort, savePlanet, saveCorp, setRole, deleteMember,
      saveMinefield, saveIntel]
    split <;> exact { same with }
  | _ => exact { same with }

/-- What the writes of a command make of settings, timers and players: saved
players keep their rights. -/
def Plays (db after : Database) : Prop :=
  db.SameRule after ∧
    (db.players.rows.KeyedBy (·.id) → SamePlayers db.players.rows after.players.rows)

theorem Plays.trans (first : db.Plays mid) (second : mid.Plays after) : db.Plays after := by
  refine ⟨first.1.trans second.1, fun keyed => ?_⟩
  have same := first.2 keyed
  exact same.trans (second.2 (same.keyed keyed))

theorem Spares.plays (spares : db.Spares after) : db.Plays after :=
  ⟨spares.toSameRule, fun _ => spares.players ▸ .refl _⟩

theorem savePlayer_plays (player : Player) : db.Plays (db.savePlayer player).2 := by
  unfold savePlayer
  split
  · exact (Spares.refl db).plays
  · next row found =>
    refine ⟨{ Spares.refl db with }, fun keyed id => ?_⟩
    have own : row.id = player.id := keyed player.id row found
    have same : row.SameRights (row.save player) := ⟨rfl, rfl, rfl, rfl, rfl⟩
    change Option.Rel _ _ ((db.players.rows.insert row.id (row.save player)).get? id)
    rw [Table.get?_insert]
    split
    · next here =>
      have stored : db.players.rows.get? id = some row := by
        rw [here, own]
        exact found
      rw [stored]
      exact .some same
    · exact SamePlayers.refl _ id

theorem write_plays (change : Write) : db.Plays (Store.write change db).2 := by
  cases change with
  | savePlayer player => exact savePlayer_plays player
  | _ => exact (write_spares (by simp)).plays

theorem writeAll_plays (changes : List Write) : db.Plays (Store.writeAll changes db).2 := by
  induction changes generalizing db with
  | nil => exact (Spares.refl db).plays
  | cons change rest ih =>
    have first : db.Plays (Store.write change db).2 := write_plays change
    rw [Store.writeAll]
    generalize Store.write change db = result at first ⊢
    obtain ⟨failure | _, after⟩ := result
    · exact first
    · exact first.trans ih

theorem execute_plays (settings : Settings) (now : Int) (player : PlayerId) (request : Request) :
    db.Plays (Store.execute settings now player request db).2 := by
  obtain ⟨changes, same⟩ := Store.execute_writes settings now player request db
  rw [same]
  exact writeAll_plays changes

/-- Whether the timers of all tickers are as some settings say. -/
structure Timed (db : Database) (settings : Settings) : Prop where
  port : Runs db.portTimers settings.portTickSeconds
  planet : Runs db.planetTimers settings.planetTickSeconds
  event : Runs db.eventTimers settings.eventTickSeconds
  protectorate : Runs db.protectorateTimers settings.protectorateTickSeconds

theorem schedule_timed (db : Database) (settings : Settings) :
    (db.schedule settings).Timed settings :=
  ⟨reschedule_runs _ _, reschedule_runs _ _, reschedule_runs _ _, reschedule_runs _ _⟩

/-- What a call may make of settings, timers and players. -/
inductive Outcome (db : Database) (call : Call) : Ask → Database → Prop
  | spared {ask : Ask} {after : Database} (spares : db.Spares after) : Outcome db call ask after
  | played {document : String} {after : Database} (plays : db.Plays after) :
      Outcome db call (.submit document) after
  | joined {username : String} {row : PlayerRow} {after : Database} (rule : db.SameRule after)
      (fresh : db.players.rows.get? row.id = none)
      (players : after.players.rows = db.players.rows.insert row.id row)
      (plain : row.isAdmin = false) : Outcome db call (.join username) after
  | readied {after : Database}
      (settings : after.settings.rows = (db.ensureSettings call.sender).settings.rows)
      (timed : after.Timed after.currentSettings)
      (players : after.players.rows = db.players.rows) : Outcome db call .init after
  | updated {document : String} {settings : Settings} {after : Database}
      (permitted : db.isAdmin call.sender = true)
      (read : Settings.read? document = some settings)
      (stored : after.settings.rows = (db.storeSettings call.sender settings).settings.rows)
      (timed : after.Timed settings) (players : after.players.rows = db.players.rows) :
      Outcome db call (.updateSettings document) after
  | flagged {player : PlayerId} {isAdmin mustChangePassword : Bool} {row : PlayerRow}
      {after : Database} (permitted : db.isAdmin call.sender = true)
      (found : db.players.rows.get? player = some row) (rule : db.SameRule after)
      (players : after.players.rows =
        db.players.rows.insert row.id { row with isAdmin, mustChangePassword }) :
      Outcome db call (.setFlags player isAdmin mustChangePassword) after

/-- A call that fails is undone, so what it makes of a server is what it makes of
it when it succeeds. -/
theorem Outcome.transaction {action : Database → Answer}
    (carried : ∀ after, action db = (.ok (), after) → db.Outcome call ask after) :
    db.Outcome call ask (Database.transaction action db).2 := by
  unfold Database.transaction
  split
  · next after success => exact carried after success
  · exact .spared (.restore db _)

theorem insertWarps_spares (warps : List (SectorId × SectorId)) :
    db.Spares (insertWarps warps db).2 := by
  induction warps generalizing db with
  | nil => exact .refl db
  | cons warp rest ih =>
    rw [insertWarps]
    split
    · refine Spares.trans ?_ ih
      exact { Spares.refl db with }
    · exact { Spares.refl db with }

theorem noteSession_spares (identity : Identity) (player : PlayerId) :
    db.Spares (db.noteSession identity player) := by
  unfold noteSession
  split <;> exact { Spares.refl db with }

/-- Whoever is recruited is no administrator. -/
theorem recruit_plain {username : String} {player : Player}
    (recruited : db.recruit call username = .ok player) : player.isAdmin = false := by
  simp only [recruit, bind, Except.bind, pure, Except.pure, throw, throwThe,
    MonadExceptOf.throw] at recruited
  repeat' split at recruited
  all_goals cases recruited
  rfl

/-- Whoever joins is entered under a free number, and is no administrator. -/
theorem join_outcome (username : String) :
    db.Outcome call (.join username) (db.join call username).2 := by
  refine Outcome.transaction fun after carried => ?_
  split at carried
  · cases carried
  · next player recruited =>
    dsimp only at carried
    generalize inserted : db.players.insert _ = result at carried
    obtain ⟨_ | row, players⟩ := result
    · cases carried
    · dsimp only at carried
      generalize discovered : Database.discover _ _ _ = result at carried
      obtain ⟨_ | _, known⟩ := result
      · cases carried
      · cases carried
        have enters : ({ db with players } : Database).Spares
            (known.noteSession call.sender row.id) := by
          have spares : ({ db with players } : Database).Spares
              (write (.discover row.id row.sector) { db with players }).2 := write_spares nofun
          have same : write (.discover row.id row.sector) { db with players } = _ := discovered
          rw [same] at spares
          exact spares.trans (noteSession_spares _ _)
        have rule : db.SameRule (known.noteSession call.sender row.id) := by
          refine SameRule.trans ?_ enters.toSameRule
          exact { Spares.refl db with }
        obtain ⟨given, same | ⟨fresh, added⟩⟩ := Relation.insert_success inserted
        · exact .spared ⟨rule, enters.players.trans same⟩
        · refine .joined rule fresh (enters.players.trans added) ?_
          rcases given with rfl | ⟨_, rfl⟩ <;> exact recruit_plain recruited

theorem import_outcome (document : String) :
    db.Outcome call (.importUniverse document) (db.importUniverse call document).2 := by
  refine Outcome.transaction fun after carried => .spared ?_
  split at carried
  · split at carried
    · cases carried
    · next layout _ =>
      have spares : db.Spares (db.addUniverse layout).2 := by
        refine Spares.trans ?_ (insertWarps_spares _)
        exact { Spares.refl db with }
      rw [carried] at spares
      exact spares
  · cases carried

theorem tick_outcome (ticker : Ticker) : db.Outcome call (.tick ticker) (db.tick call ticker).2 := by
  refine Outcome.transaction fun after carried => .spared ?_
  split at carried
  · cases ticker with
    | event =>
      dsimp only at carried
      unfold turnEvents at carried
      dsimp only at carried
      split at carried
      · cases carried
        exact { Spares.refl db with }
      · split at carried <;> cases carried
        exact { Spares.refl db with }
    | _ =>
      cases carried
      exact { Spares.refl db with }
  · cases carried

theorem submit_outcome (document : String) :
    db.Outcome call (.submit document) (db.submit call document).2 := by
  refine Outcome.transaction fun after carried => .played ?_
  split at carried
  · cases carried
  · split at carried
    · cases carried
    · next request _ _ player _ =>
      have plays : db.Plays (Store.execute db.currentSettings call.now player.id request db).2 :=
        execute_plays _ _ _ _
      split at carried
      · cases carried
      · next executed =>
        cases carried
        rw [executed] at plays
        exact plays.trans (Spares.plays { Spares.refl _ with })

theorem ensureSeason_spares (db : Database) (now : Int) : db.Spares (db.ensureSeason now) := by
  unfold ensureSeason
  split
  · exact { Spares.refl db with }
  · exact .refl db

theorem ensureSettings_players (caller : Identity) :
    (db.ensureSettings caller).players.rows = db.players.rows := by
  unfold ensureSettings
  split <;> rfl

theorem init_outcome : db.Outcome call .init (db.init call).2 := by
  refine Outcome.transaction fun after carried => ?_
  cases carried
  have ready := ensureSeason_spares (db.ensureSettings call.sender) call.now
  exact .readied ready.settings (schedule_timed _ _)
    (ready.players.trans (ensureSettings_players _))

theorem update_outcome (document : String) :
    db.Outcome call (.updateSettings document) (db.updateSettings call document).2 := by
  refine Outcome.transaction fun after carried => ?_
  split at carried
  · next permitted =>
    split at carried
    · cases carried
    · next settings read =>
      cases carried
      exact .updated permitted read rfl (schedule_timed _ _) rfl
  · cases carried

theorem setFlags_outcome (player : PlayerId) (isAdmin mustChangePassword : Bool) :
    db.Outcome call (.setFlags player isAdmin mustChangePassword)
      (db.setFlags call player isAdmin mustChangePassword).2 := by
  refine Outcome.transaction fun after carried => ?_
  split at carried
  · next permitted =>
    split at carried
    · cases carried
    · next row found =>
      cases carried
      exact .flagged permitted found { Spares.refl db with } rfl
  · cases carried

/-- What any call makes of settings, timers and players. -/
theorem answer_outcome (db : Database) (call : Call) (ask : Ask) :
    db.Outcome call ask (db.answer call ask).2 := by
  cases ask with
  | init => exact init_outcome
  | connect | disconnect => exact .spared { Spares.refl db with }
  | join username => exact join_outcome username
  | submit document => exact submit_outcome document
  | updateSettings document => exact update_outcome document
  | setFlags player isAdmin mustChangePassword => exact setFlags_outcome _ _ _
  | importUniverse document => exact import_outcome document
  | tick ticker => exact tick_outcome ticker

end Database

end Server

end Starlane
