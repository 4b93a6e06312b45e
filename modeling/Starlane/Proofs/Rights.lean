import Starlane.Proofs.Calling

/-!
# Who may administer a server

The owner of the settings and the players who are administrators change settings,
flags and the universe; the scheduler runs the tickers; everybody else is turned
away. No other call changes the settings, the name or the flags of a player, so
nobody becomes an administrator but by the word of one.
-/

namespace Starlane.Server

namespace Database

variable {db after : Database} {call : Call} {ask : Ask} {identity : Identity}

/-- Whether a client owns the settings. -/
def OwnedBy (db : Database) (owner : Identity) : Prop :=
  ∃ row, db.settings.rows.get? 0 = some row ∧ row.owner = owner

/-- Whether a client owns the settings or has a player who is an administrator. -/
def Administers (db : Database) (identity : Identity) : Prop :=
  db.OwnedBy identity ∨
    ∃ id row, db.players.rows.get? id = some row ∧ row.identity = identity ∧ row.isAdmin = true

/-- Whoever passes for an administrator is one. -/
theorem administers_of_isAdmin (permitted : db.isAdmin identity = true) :
    db.Administers identity := by
  rcases Bool.or_eq_true_iff.mp permitted with owns | plays
  · obtain ⟨row, found, same⟩ := (Option.any_eq_true _ _).mp owns
    exact .inl ⟨row, found, eq_of_beq same⟩
  · obtain ⟨row, found, admin⟩ := (Option.any_eq_true _ _).mp plays
    have listed := db.players.all_perm.mem_iff.mp (List.mem_of_find?_eq_some found)
    obtain ⟨id, stored⟩ := (Table.mem_values_iff _ _).mp listed
    have own : row.identity = identity := by simpa using List.find?_some found
    exact .inr ⟨id, row, stored, own, admin⟩

/-- A call that fails before it does anything leaves everything as it was. -/
theorem transaction_refused {action : Database → Answer} {error : CallError}
    (refused : action db = db.fail error) : transaction action db = (.error error, db) := by
  unfold transaction
  rw [refused]
  rfl

/-- Who is no administrator is turned away. -/
theorem answer_stranger (administers : ask.administers = true)
    (stranger : ¬ db.Administers call.sender) : db.answer call ask = (.error .adminOnly, db) := by
  have refused : ¬ db.isAdmin call.sender = true :=
    fun permitted => stranger (administers_of_isAdmin permitted)
  cases ask with
  | updateSettings | setFlags | importUniverse =>
    unfold answer
    apply transaction_refused
    exact if_neg refused
  | _ => cases administers

/-- Who is not the scheduler runs no ticker. -/
theorem tick_stranger (ticker : Ticker) (stranger : call.sender ≠ schedulerIdentity) :
    db.answer call (.tick ticker) = (.error (.schedulerOnly ticker), db) := by
  unfold answer
  apply transaction_refused
  exact if_neg stranger

/-- Settings that are there stay when a server is set up again. -/
theorem ensureSettings_present {caller : Identity} {row : SettingsRow}
    (found : db.settings.rows.get? 0 = some row) : db.ensureSettings caller = db := by
  unfold ensureSettings Relation.find?
  rw [found]

theorem storeSettings_owner (caller : Identity) (settings : Settings) :
    (db.storeSettings caller settings).OwnedBy
      (((db.settings.rows.get? 0).map (·.owner)).getD caller) :=
  ⟨_, Table.get?_insert_self _ _ _, rfl⟩

/-- Whoever sets up a server without settings owns them. -/
theorem init_owner (unset : db.settings.rows.get? 0 = none) :
    (db.answer call .init).2.OwnedBy call.sender := by
  have ready : (db.ensureSettings call.sender).OwnedBy call.sender := by
    have stored := db.storeSettings_owner call.sender Settings.standard
    unfold ensureSettings Relation.find?
    rw [unset] at stored ⊢
    exact stored
  obtain ⟨row, found, owner⟩ := ready
  have kept := (ensureSeason_spares (db.ensureSettings call.sender) call.now).settings
  exact ⟨row, (congrArg (Table.get? · 0) kept).trans found, owner⟩

namespace Outcome

variable (outcome : db.Outcome call ask after)

include outcome

/-- No call changes who owns the settings. -/
theorem owner (owned : db.OwnedBy identity) : after.OwnedBy identity := by
  obtain ⟨row, found, owner⟩ := owned
  have kept : after.settings.rows = db.settings.rows → after.OwnedBy identity := by
    intro same
    exact ⟨row, same ▸ found, owner⟩
  cases outcome with
  | spared spares => exact kept spares.settings
  | played plays => exact kept plays.1.settings
  | joined rule => exact kept rule.settings
  | readied settings => exact kept (settings.trans (by rw [ensureSettings_present found]))
  | @updated _ settings _ _ _ stored =>
    have replaced := db.storeSettings_owner call.sender settings
    rw [found] at replaced
    obtain ⟨later, present, same⟩ := replaced
    exact ⟨later, stored ▸ present, same.trans owner⟩
  | flagged _ _ rule => exact kept rule.settings

/-- Players stay filed under their own numbers. -/
theorem keyed (keyed : db.players.rows.KeyedBy (·.id)) : after.players.rows.KeyedBy (·.id) := by
  cases outcome with
  | spared spares => exact spares.players ▸ keyed
  | played plays => exact (plays.2 keyed).keyed keyed
  | joined _ _ players => exact players ▸ keyed.insert rfl
  | readied _ _ players => exact players ▸ keyed
  | updated _ _ _ _ players => exact players ▸ keyed
  | flagged _ _ _ players => exact players ▸ keyed.insert rfl

/-- Only administrators change settings that are there. -/
theorem settings_stay (common : ask.administers = false) {row : SettingsRow}
    (found : db.settings.rows.get? 0 = some row) : after.settings.rows = db.settings.rows := by
  cases outcome with
  | spared spares => exact spares.settings
  | played plays => exact plays.1.settings
  | joined rule => exact rule.settings
  | readied settings => exact settings.trans (by rw [ensureSettings_present found])
  | updated | flagged => cases common

/-- Only administrators change the rights of a player. -/
theorem rights_stay (common : ask.administers = false)
    (keyed : db.players.rows.KeyedBy (·.id)) {id : PlayerId} {row : PlayerRow}
    (found : db.players.rows.get? id = some row) :
    ∃ later, after.players.rows.get? id = some later ∧ row.SameRights later := by
  have kept : after.players.rows = db.players.rows →
      ∃ later, after.players.rows.get? id = some later ∧ row.SameRights later := by
    intro same
    exact ⟨row, same ▸ found, .refl row⟩
  cases outcome with
  | spared spares => exact kept spares.players
  | played plays =>
    have same := plays.2 keyed id
    rw [found] at same
    generalize after.players.rows.get? id = stored at same ⊢
    cases same with
    | some same => exact ⟨_, rfl, same⟩
  | @joined _ newcomer _ _ fresh players =>
    have other : id ≠ newcomer.id := by
      rintro rfl
      rw [found] at fresh
      cases fresh
    exact ⟨row, by rw [players, Table.get?_insert_of_ne _ _ other, found], .refl row⟩
  | readied _ _ players => exact kept players
  | updated | flagged => cases common

/-- Whoever is an administrator after a call was a player before it, and either
was an administrator then or is made one by this call, which an administrator
made. -/
theorem promoted (keyed : db.players.rows.KeyedBy (·.id)) {id : PlayerId} {row : PlayerRow}
    (found : after.players.rows.get? id = some row) (admin : row.isAdmin = true) :
    ∃ before, db.players.rows.get? id = some before ∧ (before.isAdmin = true ∨
      ∃ mustChangePassword, ask = .setFlags id true mustChangePassword ∧
        db.Administers call.sender) := by
  have kept : after.players.rows = db.players.rows → ∃ before,
      db.players.rows.get? id = some before ∧ (before.isAdmin = true ∨
        ∃ mustChangePassword, ask = .setFlags id true mustChangePassword ∧
          db.Administers call.sender) := by
    intro same
    exact ⟨row, same ▸ found, .inl admin⟩
  cases outcome with
  | spared spares => exact kept spares.players
  | played plays =>
    have same := plays.2 keyed id
    rw [found] at same
    generalize db.players.rows.get? id = stored at same ⊢
    cases same with
    | some same => exact ⟨_, rfl, .inl (same.isAdmin ▸ admin)⟩
  | joined _ _ players plain =>
    rw [players, Table.get?_insert] at found
    split at found
    · cases found
      rw [plain] at admin
      cases admin
    · exact ⟨row, found, .inl admin⟩
  | readied _ _ players => exact kept players
  | updated _ _ _ _ players => exact kept players
  | @flagged player isAdmin mustChangePassword old _ permitted before _ players =>
    have own : old.id = player := keyed player old before
    rw [players, Table.get?_insert, own] at found
    split at found
    · next here =>
      cases found
      have granted : isAdmin = true := admin
      rw [here, granted]
      exact ⟨old, before, .inr ⟨mustChangePassword, rfl, administers_of_isAdmin permitted⟩⟩
    · exact ⟨row, found, .inl admin⟩

end Outcome

/-- Once a server is set up, its owner stays and its players are filed under their
own numbers. -/
theorem Serves.governed {start : Database} (serves : start.Serves db)
    (owned : start.OwnedBy identity) (keyed : start.players.rows.KeyedBy (·.id)) :
    db.OwnedBy identity ∧ db.players.rows.KeyedBy (·.id) := by
  induction serves with
  | refl => exact ⟨owned, keyed⟩
  | @tail mid after _ called ih =>
    obtain ⟨call, ask, rfl⟩ := called
    have outcome := mid.answer_outcome call ask
    exact ⟨outcome.owner ih.1, outcome.keyed ih.2⟩

end Database

/-- A server without settings and players is set up, and anybody calls it in any
way. Then whoever set it up owns it; calls of administrators by anybody else, and
tickers that are not run by the scheduler, are refused and change nothing; all
other calls leave the settings as they are, and every player their client, name
and flags. Nobody joins as an administrator, and nobody becomes one but by a call
that sets their flags, from an administrator. -/
theorem rights_stay_granted {blank db : Database} {first : Call}
    (unset : blank.settings.rows.get? 0 = none) (unpeopled : blank.players.rows = .empty)
    (serves : (blank.answer first .init).2.Serves db) :
    db.OwnedBy first.sender ∧
    (∀ call ask, ask.administers = true → ¬ db.Administers call.sender →
      db.answer call ask = (.error .adminOnly, db)) ∧
    (∀ call ticker, call.sender ≠ schedulerIdentity →
      db.answer call (.tick ticker) = (.error (.schedulerOnly ticker), db)) ∧
    (∀ call ask, ask.administers = false →
      (db.answer call ask).2.settings.rows = db.settings.rows ∧
      ∀ id row, db.players.rows.get? id = some row →
        ∃ later, (db.answer call ask).2.players.rows.get? id = some later ∧
          row.SameRights later) ∧
    (∀ call ask id row, db.players.rows.get? id = none →
      (db.answer call ask).2.players.rows.get? id = some row → row.isAdmin = false) ∧
    ∀ call ask id row, (db.answer call ask).2.players.rows.get? id = some row →
      row.isAdmin = true →
      ∃ before, db.players.rows.get? id = some before ∧ (before.isAdmin = true ∨
        ∃ mustChangePassword, ask = .setFlags id true mustChangePassword ∧
          db.Administers call.sender) := by
  have peopled : (blank.answer first .init).2.players.rows.KeyedBy (·.id) := by
    refine (blank.answer_outcome first .init).keyed ?_
    rw [unpeopled]
    exact nofun
  obtain ⟨owned, keyed⟩ := serves.governed (Database.init_owner unset) peopled
  refine ⟨owned, fun _ _ => Database.answer_stranger, fun _ => Database.tick_stranger,
    fun call ask common => ?stays, fun call ask id row absent found => ?newcomer, ?promoted⟩
  case stays =>
    have outcome := db.answer_outcome call ask
    obtain ⟨settings, present, _⟩ := owned
    exact ⟨outcome.settings_stay common present, fun _ _ => outcome.rights_stay common keyed⟩
  case newcomer =>
    refine Bool.eq_false_iff.mpr fun admin => ?_
    obtain ⟨before, present, _⟩ := (db.answer_outcome call ask).promoted keyed found admin
    rw [absent] at present
    cases present
  case promoted =>
    intro call ask id row
    exact (db.answer_outcome call ask).promoted keyed

/-- A server with one sector, before it is set up. -/
def Drill.gated : Database :=
  { Database.empty with sectors := Relation.empty.update ⟨1, "Gate", false, 0⟩ }

/-- The server once client 7 has set it up and client 9 has joined. -/
def Drill.joined : Database :=
  ((gated.answer ⟨7, 1000000⟩ .init).2.answer ⟨9, 2000000⟩ (.join "ada")).2

/-- The newcomer cannot make an administrator of themselves; the owner can. -/
theorem rights_stay_granted_newcomer :
    Drill.joined.answer ⟨9, 3000000⟩ (.setFlags 1 true false) = (.error .adminOnly, Drill.joined) ∧
    (((Drill.joined.answer ⟨7, 3000000⟩ (.setFlags 1 true false)).2.players.rows.get? 1).map
      fun row => (row.identity, row.isAdmin)) = some (9, true) := by
  refine ⟨?refused, by decide +kernel⟩
  have serves : (Drill.gated.answer ⟨7, 1000000⟩ .init).2.Serves Drill.joined :=
    .single ⟨_, _, rfl⟩
  obtain ⟨⟨settings, present, owner⟩, refused, _⟩ := rights_stay_granted rfl rfl serves
  refine refused _ _ rfl ?_
  have plain : Drill.joined.players.rows.values.all (fun row => !row.isAdmin) = true := by
    decide +kernel
  rintro (⟨row, found, same⟩ | ⟨id, row, found, _, admin⟩)
  · rw [present] at found
    cases found
    rw [owner] at same
    cases same
  · have listed := (Table.mem_values_iff _ row).mpr ⟨id, found⟩
    have flag := List.all_eq_true.mp plain row listed
    rw [admin] at flag
    cases flag

end Starlane.Server
