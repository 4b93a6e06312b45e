import Starlane.Proofs.Answer
import Starlane.Proofs.Mirror
import Starlane.Proofs.Unique

/-!
# Writes in a world and in its mirror

A write that a world takes, its mirror takes too, and mirrors the world after
it. New records get numbers past all others on both sides, so a pairing in which
numbers ascend together can be extended by them.
-/

namespace Starlane

/-- Whether all paired numbers have been given out. -/
structure Twinning.Within (twins : Twinning) (world : World) (db : Server.Database) : Prop where
  planets : twins.planets.Within world.lastId db.planets.issued
  corps : twins.corps.Within world.lastId db.corps.issued
  fields : twins.fields.Within world.lastId db.minefields.issued

theorem World.lastId_le_written (world : World) (change : Write) :
    world.lastId ≤ (world.written change).lastId := by
  cases change with
  | insertPlanet | insertCorp | insertMinefield => exact Nat.le_succ _
  | _ => exact Nat.le_refl _

namespace Twinning.Within

open Server

variable {twins : Twinning} {world : World} {db : Database} (within : twins.Within world db)

/-- The twinning with the planet that both sides add next. -/
def addPlanet : Twinning :=
  { twins with
    planets := twins.planets.add within.planets (world.lastId + 1) db.planets.nextKey
      (Nat.lt_succ_self _) db.planets.issued_lt_nextKey }

/-- The twinning with the corporation that both sides add next. -/
def addCorp : Twinning :=
  { twins with
    corps := twins.corps.add within.corps (world.lastId + 1) db.corps.nextKey
      (Nat.lt_succ_self _) db.corps.issued_lt_nextKey }

/-- The twinning with the minefield that both sides add next. -/
def addField : Twinning :=
  { twins with
    fields := twins.fields.add within.fields (world.lastId + 1) db.minefields.nextKey
      (Nat.lt_succ_self _) db.minefields.issued_lt_nextKey }

theorem le_addPlanet : twins ≤ within.addPlanet :=
  ⟨fun _ _ => .inl, fun _ _ => id, fun _ _ => id⟩

theorem le_addCorp : twins ≤ within.addCorp :=
  ⟨fun _ _ => id, fun _ _ => .inl, fun _ _ => id⟩

theorem le_addField : twins ≤ within.addField :=
  ⟨fun _ _ => id, fun _ _ => id, fun _ _ => .inl⟩

include within in
/-- Counters that move on leave all paired numbers behind. -/
theorem later {after : World} {db' : Database} (counted : world.lastId ≤ after.lastId)
    (planets : db.planets.issued ≤ db'.planets.issued)
    (corps : db.corps.issued ≤ db'.corps.issued)
    (fields : db.minefields.issued ≤ db'.minefields.issued) : twins.Within after db' :=
  ⟨within.planets.mono counted planets, within.corps.mono counted corps,
    within.fields.mono counted fields⟩

theorem added_planet (planet : Planet) (row : PlanetRow) :
    within.addPlanet.Within (world.addPlanet planet)
      { db with planets := db.planets.append row } where
  planets := within.planets.add (Nat.lt_succ_self _) db.planets.issued_lt_nextKey
  corps := within.corps.mono (Nat.le_succ _) (Nat.le_refl _)
  fields := within.fields.mono (Nat.le_succ _) (Nat.le_refl _)

theorem added_corp (name : String) (row : CorpRow) :
    within.addCorp.Within (world.addCorp name) { db with corps := db.corps.append row } where
  planets := within.planets.mono (Nat.le_succ _) (Nat.le_refl _)
  corps := within.corps.add (Nat.lt_succ_self _) db.corps.issued_lt_nextKey
  fields := within.fields.mono (Nat.le_succ _) (Nat.le_refl _)

theorem added_field (field : Minefield) (row : MinefieldRow) :
    within.addField.Within (world.addMinefield field)
      { db with minefields := db.minefields.append row } where
  planets := within.planets.mono (Nat.le_succ _) (Nat.le_refl _)
  corps := within.corps.mono (Nat.le_succ _) (Nat.le_refl _)
  fields := within.fields.add (Nat.lt_succ_self _) db.minefields.issued_lt_nextKey

end Twinning.Within

namespace Server

/-- Whether no key counter of one state is behind that of another. -/
structure Database.Later (before after : Database) : Prop where
  planets : before.planets.issued ≤ after.planets.issued
  corps : before.corps.issued ≤ after.corps.issued
  minefields : before.minefields.issued ≤ after.minefields.issued
  members : before.members.issued ≤ after.members.issued
  messages : before.messages.issued ≤ after.messages.issued
  logs : before.logs.issued ≤ after.logs.issued
  discoveries : before.discoveries.issued ≤ after.discoveries.issued
  intel : before.intel.issued ≤ after.intel.issued

namespace Database

theorem Later.refl (db : Database) : db.Later db := by
  constructor <;> exact Nat.le_refl _

theorem Later.trans {first second third : Database} (early : first.Later second)
    (late : second.Later third) : first.Later third where
  planets := early.planets.trans late.planets
  corps := early.corps.trans late.corps
  minefields := early.minefields.trans late.minefields
  members := early.members.trans late.members
  messages := early.messages.trans late.messages
  logs := early.logs.trans late.logs
  discoveries := early.discoveries.trans late.discoveries
  intel := early.intel.trans late.intel

/-- No write gives a key back, not even one that fails. -/
theorem later_write (db : Database) (change : Write) : db.Later (db.write change).2 := by
  have same := Later.refl db
  cases change with
  | savePlayer player =>
    unfold write savePlayer
    dsimp only
    split <;> exact { same with }
  | discover player sector =>
    unfold write discover
    dsimp only
    split
    · exact same
    · exact { same with discoveries := db.discoveries.issued_le_insert _ }
  | savePort port =>
    unfold write savePort
    dsimp only
    split <;> exact { same with }
  | insertPlanet planet =>
    unfold write insertPlanet
    exact { same with planets := db.planets.issued_le_insert _ }
  | savePlanet planet =>
    unfold write savePlanet
    dsimp only
    split <;> exact { same with }
  | insertCorp name now =>
    unfold write insertCorp
    exact { same with corps := db.corps.issued_le_insert _ }
  | saveCorp corp =>
    unfold write saveCorp
    dsimp only
    split <;> exact { same with }
  | deleteCorp corp =>
    have members : db.members.issued ≤
        (db.members.eraseAll fun row => row.corp == corp).issued := by
      unfold Relation.eraseAll
      rw [Relation.issued_eraseKeys]
    exact { same with members }
  | insertMember member =>
    unfold write insertMember
    exact { same with members := db.members.issued_le_insert _ }
  | setRole corp player role =>
    unfold write setRole
    dsimp only
    split <;> exact { same with }
  | deleteMember corp player =>
    unfold write deleteMember
    dsimp only
    split <;> exact { same with }
  | insertMessage message =>
    unfold write insertMessage
    exact { same with messages := db.messages.issued_le_insert _ }
  | insertMinefield field =>
    unfold write insertMinefield
    exact { same with minefields := db.minefields.issued_le_insert _ }
  | saveMinefield field =>
    unfold write saveMinefield
    dsimp only
    split <;> exact { same with }
  | deleteMinefield field => exact { same with }
  | saveIntel player intel =>
    unfold write saveIntel
    dsimp only
    split
    · exact { same with }
    · exact { same with intel := db.intel.issued_le_insert _ }
  | deleteIntel player sector =>
    have intel : db.intel.issued ≤ (db.intel.eraseAll (isScan player sector)).issued := by
      unfold Relation.eraseAll
      rw [Relation.issued_eraseKeys]
    exact { same with intel }
  | insertLog player entry =>
    unfold write insertLog
    exact { same with logs := db.logs.issued_le_insert _ }
  | pruneLogs player keep =>
    have logs : db.logs.issued ≤ (db.pruneLogs player keep).logs.issued := by
      unfold pruneLogs
      dsimp only
      rw [Relation.issued_eraseKeys]
    exact { same with logs }

theorem later_writeAll (changes : List Write) (db : Database) :
    db.Later (Store.writeAll changes db).2 := by
  induction changes generalizing db with
  | nil => exact .refl db
  | cons change rest ih =>
    have first : db.Later (Store.write change db).2 := db.later_write change
    rw [Store.writeAll]
    generalize Store.write change db = result at first ⊢
    obtain ⟨failure | _, after⟩ := result
    · exact first
    · exact first.trans (ih after)

end Database

namespace Mirror

variable {clients : PlayerId → Identity} {settings : Settings} {twins : Twinning} {world : World}
  {db : Database}

/-- More pairs of numbers do no harm. -/
theorem mono (mirror : Mirror clients settings twins world db) {more : Twinning}
    (grown : twins ≤ more) : Mirror clients settings more world db :=
  { mirror with
    planets := mirror.planets.mono grown.1 fun _ _ same => same.mono grown
    corps := mirror.corps.mono grown.2.1 fun _ _ same => same.mono grown
    fields := mirror.fields.mono grown.2.2 fun _ _ same => same.mono grown
    members := List.Forall₂.imp (fun _ _ same => by
      obtain ⟨twin, read, alike⟩ := same
      exact ⟨twin, read, alike.mono grown⟩) mirror.members }

/-- The rows of a mirror with counters that have moved on. -/
theorem restore (mirror : Mirror clients settings twins world db) {after : Database}
    (later : db.Later after) : Mirror clients settings twins world (db.restore after) :=
  { mirror with
    planetsNumbered := mirror.planetsNumbered.restore later.planets
    corpsNumbered := mirror.corpsNumbered.restore later.corps
    fieldsNumbered := mirror.fieldsNumbered.restore later.minefields
    membersNumbered := mirror.membersNumbered.restore later.members
    messagesNumbered := mirror.messagesNumbered.restore later.messages
    logsNumbered := mirror.logsNumbered.restore later.logs
    discoveriesNumbered := mirror.discoveriesNumbered.restore later.discoveries
    intelNumbered := mirror.intelNumbered.restore later.intel }

section Saves

/-! Records in place of those before. -/

theorem savePlayer (mirror : Mirror clients settings twins world db) (filed : world.Filed)
    {player : Player} (respects : world.Respects (.savePlayer player)) :
    ∃ after, db.savePlayer player = (.ok (), after) ∧
      Mirror clients settings twins (world.written (.savePlayer player)) after := by
  obtain ⟨old, stored, known⟩ := respects
  obtain ⟨key, row, rfl, found, identity, read⟩ := mirror.players.find_left stored
  obtain ⟨id, _, _, _⟩ := PlayerRow.toPlayer_columns read
  have own : row.id = player.id := id.trans (filed.players _ _ stored)
  refine ⟨{ db with players := db.players.update (row.save player) }, ?_, { mirror with
    players := ?_ }⟩
  · unfold Database.savePlayer Relation.find?
    rw [found]
  · refine mirror.players.insert own.symm ⟨?_, PlayerRow.toPlayer_save read own.symm known⟩
    exact identity.trans (congrArg clients (filed.players _ _ stored))

theorem savePort (mirror : Mirror clients settings twins world db) {port : Port}
    (admits : world.Admits (.savePort port)) :
    ∃ after, db.savePort port = (.ok (), after) ∧
      Mirror clients settings twins (world.written (.savePort port)) after := by
  obtain ⟨old, stored⟩ := Option.isSome_iff_exists.mp admits
  obtain ⟨key, row, rfl, found, _⟩ := mirror.ports.find_left stored
  refine ⟨{ db with ports := db.ports.update (.ofPort port) }, ?_, { mirror with
    ports := mirror.ports.insert rfl (PortRow.toPort_ofPort port) }⟩
  unfold Database.savePort Relation.find?
  rw [found]

theorem savePlanet (mirror : Mirror clients settings twins world db) {planet planet' : Planet}
    (same : twins.PlanetAs planet planet') (admits : world.Admits (.savePlanet planet)) :
    ∃ after, db.savePlanet planet' = (.ok (), after) ∧
      Mirror clients settings twins (world.written (.savePlanet planet)) after := by
  obtain ⟨id, owner, paired, owned, rfl⟩ := same
  have present := admits.symm.trans (mirror.planets.contains_iff paired)
  obtain ⟨row, found⟩ := Option.isSome_iff_exists.mp present.symm
  refine ⟨{ db with planets := db.planets.update (.ofPlanet { planet with id, owner }) }, ?_,
    { mirror with
      planets := mirror.planets.insert paired ?_
      planetsNumbered := mirror.planetsNumbered.update present.symm }⟩
  · unfold Database.savePlanet Relation.find?
    rw [found]
  · rw [PlanetRow.toPlanet_ofPlanet]
    exact ⟨id, owner, paired, owned, rfl⟩

theorem saveCorp (mirror : Mirror clients settings twins world db) {corp corp' : Corporation}
    (same : twins.CorpAs corp corp') (admits : world.Admits (.saveCorp corp)) :
    ∃ after, db.saveCorp corp' = (.ok (), after) ∧
      Mirror clients settings twins (world.written (.saveCorp corp)) after := by
  obtain ⟨id, paired, rfl⟩ := same
  have present := admits.symm.trans (mirror.corps.contains_iff paired)
  obtain ⟨row, found⟩ := Option.isSome_iff_exists.mp present.symm
  have own : row.id = id := mirror.corpsNumbered.keyed id row found
  refine ⟨{ db with corps := db.corps.update { row with name := corp.name, bank := corp.bank } },
    ?_, { mirror with corps := ?_, corpsNumbered := mirror.corpsNumbered.update ?_ }⟩
  · unfold Database.saveCorp Relation.find?
    dsimp only
    rw [found]
  · subst own
    exact mirror.corps.insert paired ⟨row.id, paired, rfl⟩
  · subst own
    exact present.symm

theorem saveMinefield (mirror : Mirror clients settings twins world db) {field field' : Minefield}
    (same : twins.FieldAs field field') (admits : world.Admits (.saveMinefield field)) :
    ∃ after, db.saveMinefield field' = (.ok (), after) ∧
      Mirror clients settings twins (world.written (.saveMinefield field)) after := by
  obtain ⟨id, owner, paired, owned, rfl⟩ := same
  have present := admits.symm.trans (mirror.fields.contains_iff paired)
  obtain ⟨row, found⟩ := Option.isSome_iff_exists.mp present.symm
  refine ⟨{ db with minefields := db.minefields.update (.ofMinefield { field with id, owner }) },
    ?_, { mirror with
      fields := mirror.fields.insert paired ?_
      fieldsNumbered := mirror.fieldsNumbered.update present.symm }⟩
  · unfold Database.saveMinefield Relation.find?
    rw [found]
  · rw [MinefieldRow.toMinefield_ofMinefield]
    exact ⟨id, owner, paired, owned, rfl⟩

theorem deleteMinefield (mirror : Mirror clients settings twins world db) {id id' : MinefieldId}
    (paired : twins.fields.pairs id id') :
    ∃ after, db.write (.deleteMinefield id') = (.ok (), after) ∧
      Mirror clients settings twins (world.written (.deleteMinefield id)) after :=
  ⟨_, rfl, { mirror with
    fields := mirror.fields.erase paired
    fieldsNumbered := mirror.fieldsNumbered.erase id' }⟩

end Saves

section Additions

/-! New records under numbers past all others. -/

theorem insertPlanet (mirror : Mirror clients settings twins world db)
    (within : twins.Within world db) {planet : Planet} {owner : Owner}
    (owned : twins.OwnerAs planet.owner owner) (respects : world.Respects (.insertPlanet planet)) :
    ∃ after, db.insertPlanet { planet with owner } = (.ok (), after) ∧
      Mirror clients settings within.addPlanet (world.written (.insertPlanet planet)) after ∧
      within.addPlanet.Within (world.written (.insertPlanet planet)) after := by
  have clear : ∀ other ∈ db.planets.rows.values, Row.clashes other (Row.withKey db.planets.nextKey
      (PlanetRow.ofPlanet { planet with id := 0, owner })) = false := by
    intro other listed
    obtain ⟨key, found⟩ := (db.planets.rows.mem_values_iff other).mp listed
    obtain ⟨id, old, _, stored, _, _, _, _, read⟩ := mirror.planets.find_right found
    have there : other.sector = old.sector := congrArg Planet.sector read
    refine beq_eq_false_iff_ne.mpr fun same => respects id old _ stored rfl ?_
    exact congrArg some (same.symm.trans there)
  have inserted := mirror.planetsNumbered.insert_new _ rfl clear
  refine ⟨{ db with planets := db.planets.append (.ofPlanet { planet with id := 0, owner }) }, ?_,
    { mirror.mono within.le_addPlanet with
      planets := (mirror.mono within.le_addPlanet).planets.insert (.inr ⟨rfl, rfl⟩) ?_
      planetsNumbered := mirror.planetsNumbered.append _ }, within.added_planet _ _⟩
  · unfold Database.insertPlanet
    rw [inserted]
    rfl
  · exact ⟨db.planets.nextKey, owner, .inr ⟨rfl, rfl⟩, owned.mono within.le_addPlanet,
      PlanetRow.toPlanet_ofPlanet { planet with id := db.planets.nextKey, owner }⟩

theorem insertCorp (mirror : Mirror clients settings twins world db)
    (within : twins.Within world db) {name : String} {now : Int}
    (respects : world.Respects (.insertCorp name now)) :
    ∃ after, db.insertCorp name now = (.ok (), after) ∧
      Mirror clients settings within.addCorp (world.written (.insertCorp name now)) after ∧
      within.addCorp.Within (world.written (.insertCorp name now)) after := by
  have clear : ∀ other ∈ db.corps.rows.values,
      Row.clashes other (Row.withKey db.corps.nextKey (⟨0, name, 0, now⟩ : CorpRow)) = false := by
    intro other listed
    obtain ⟨key, found⟩ := (db.corps.rows.mem_values_iff other).mp listed
    obtain ⟨id, old, _, stored, _, _, read⟩ := mirror.corps.find_right found
    have named : other.name = old.name := congrArg Corporation.name read
    refine beq_eq_false_iff_ne.mpr fun same => respects id old _ stored rfl ?_
    exact congrArg (fun name => some (Text.lower name)) (same.symm.trans named)
  have inserted := mirror.corpsNumbered.insert_new _ rfl clear
  refine ⟨{ db with corps := db.corps.append ⟨0, name, 0, now⟩ }, ?_,
    { mirror.mono within.le_addCorp with
      corps := (mirror.mono within.le_addCorp).corps.insert (.inr ⟨rfl, rfl⟩)
        ⟨db.corps.nextKey, .inr ⟨rfl, rfl⟩, rfl⟩
      corpsNumbered := mirror.corpsNumbered.append _ }, within.added_corp _ _⟩
  unfold Database.insertCorp
  rw [inserted]
  rfl

theorem insertMinefield (mirror : Mirror clients settings twins world db)
    (within : twins.Within world db) {field : Minefield} {owner : Owner}
    (owned : twins.OwnerAs field.owner owner) :
    ∃ after, db.insertMinefield { field with owner } = (.ok (), after) ∧
      Mirror clients settings within.addField (world.written (.insertMinefield field)) after ∧
      within.addField.Within (world.written (.insertMinefield field)) after := by
  have inserted := mirror.fieldsNumbered.insert_new
    (.ofMinefield { field with id := 0, owner }) rfl fun _ _ => rfl
  refine ⟨{ db with
    minefields := db.minefields.append (.ofMinefield { field with id := 0, owner }) }, ?_,
    { mirror.mono within.le_addField with
      fields := (mirror.mono within.le_addField).fields.insert (.inr ⟨rfl, rfl⟩) ?_
      fieldsNumbered := mirror.fieldsNumbered.append _ }, within.added_field _ _⟩
  · unfold Database.insertMinefield
    rw [inserted]
    rfl
  · exact ⟨db.minefields.nextKey, owner, .inr ⟨rfl, rfl⟩, owned.mono within.le_addField,
      MinefieldRow.toMinefield_ofMinefield { field with id := db.minefields.nextKey, owner }⟩

theorem insertMessage (mirror : Mirror clients settings twins world db) (message : CorpMessage)
    (lines : List CorpMessage) :
    ∃ after, db.insertMessage message = (.ok (), after) ∧
      Mirror clients settings twins { world with messages := lines } after := by
  have inserted := mirror.messagesNumbered.insert_new
    ⟨0, message.corp, message.player, message.text, message.time⟩ rfl fun _ _ => rfl
  refine ⟨{ db with
    messages := db.messages.append
      ⟨0, message.corp, message.player, message.text, message.time⟩ }, ?_,
    { mirror with messagesNumbered := mirror.messagesNumbered.append _ }⟩
  unfold Database.insertMessage
  rw [inserted]
  rfl

theorem insertLog (mirror : Mirror clients settings twins world db) (player : PlayerId)
    (entry : LogEntry) :
    ∃ after, db.insertLog player entry = (.ok (), after) ∧
      Mirror clients settings twins (world.written (.insertLog player entry)) after := by
  have inserted := mirror.logsNumbered.insert_new (.ofEntry player entry) rfl fun _ _ => rfl
  refine ⟨{ db with logs := db.logs.append (.ofEntry player entry) }, ?_, { mirror with
    logs := ?_, logsNumbered := mirror.logsNumbered.append _ }⟩
  · unfold Database.insertLog
    rw [inserted]
    rfl
  · dsimp only
    rw [mirror.logsNumbered.values_append]
    exact List.rel_append mirror.logs (.cons ⟨rfl, LogRow.toEntry_ofEntry _ _ _⟩ .nil)

/-- What is discovered again is discovered once. -/
theorem discover (mirror : Mirror clients settings twins world db) (player : PlayerId)
    (sector : SectorId) :
    ∃ after, db.discover player sector = (.ok (), after) ∧
      Mirror clients settings twins (world.written (.discover player sector)) after := by
  have known : db.discoveries.all.any (fun row => row.player == player && row.sector == sector) =
      world.discoveries.contains (player, sector) := by
    rw [Bool.eq_iff_iff, ← Table.mem_keys_iff, List.any_eq_true]
    constructor
    · rintro ⟨row, listed, same⟩
      obtain ⟨key, among, rfl⟩ :=
        mirror.discoveries.mem_right (db.discoveries.all_perm.mem_iff.mp listed)
      simp only [Bool.and_eq_true, beq_iff_eq] at same
      rw [← same.1, ← same.2]
      exact among
    · intro among
      obtain ⟨row, listed, same⟩ := mirror.discoveries.mem_left among
      refine ⟨row, db.discoveries.all_perm.mem_iff.mpr listed, ?_⟩
      simp only [Prod.mk.injEq] at same
      simp [same]
  unfold Database.discover
  rw [known]
  cases seen : world.discoveries.contains (player, sector) with
  | true =>
    refine ⟨db, rfl, ?_⟩
    obtain ⟨value, found⟩ := Option.isSome_iff_exists.mp seen
    rw [World.written, Table.insert_same found]
    exact mirror
  | false =>
    have inserted := mirror.discoveriesNumbered.insert_new ⟨0, player, sector⟩ rfl fun _ _ => rfl
    refine ⟨{ db with discoveries := db.discoveries.append ⟨0, player, sector⟩ }, ?_,
      { mirror with
        discoveries := ?_
        discoveriesNumbered := mirror.discoveriesNumbered.append _ }⟩
    · rw [inserted]
      rfl
    · dsimp only
      rw [mirror.discoveriesNumbered.values_append]
      have absent : world.discoveries.get? (player, sector) = none :=
        Option.not_isSome_iff_eq_none.mp (Bool.not_eq_true _ ▸ seen)
      have new := mirror.discoveries.cons (a := (player, sector))
        (b := Row.withKey db.discoveries.nextKey (⟨0, player, sector⟩ : DiscoveryRow)) rfl
      exact (new.left (Table.keys_insert_new absent ())).perm (List.perm_append_singleton _ _)

end Additions

section Rosters

/-- A player has one roster row at most. -/
theorem lone_row (mirror : Mirror clients settings twins world db) (distinct : world.Distinct)
    {first second : MemberRow} (listed : first ∈ db.members.rows.values)
    (listed' : second ∈ db.members.rows.values) (same : first.player = second.player) :
    first = second := by
  have players : db.members.rows.values.map (·.player) = world.members.map (·.player) := by
    refine (List.forall₂_eq_eq_eq ▸ List.forall₂_map_left_iff.mpr
      (List.forall₂_map_right_iff.mpr (List.Forall₂.imp ?_ mirror.members)) :
      world.members.map (·.player) = _).symm
    rintro member row ⟨_, read, _, _, rfl⟩
    exact (MemberRow.toMember_columns read).2.2.1.symm
  exact List.inj_on_of_nodup_map (players ▸ distinct.members) listed listed' same

theorem insertMember (mirror : Mirror clients settings twins world db) {member member' : Member}
    (same : twins.MemberAs member member') (admits : world.Admits (.insertMember member)) :
    ∃ after, db.insertMember member' = (.ok (), after) ∧
      Mirror clients settings twins (world.written (.insertMember member)) after := by
  have own : member'.player = member.player := by
    obtain ⟨_, _, rfl⟩ := same
    rfl
  have inserted := mirror.membersNumbered.insert_new (.ofMember member') rfl
    fun other listed => by
      obtain ⟨line, among, _, read, _, _, rfl⟩ := forall₂_mem mirror.members.flip listed
      have apart := World.memberOf?_eq_none.mp admits line among
      refine beq_eq_false_iff_ne.mpr fun equal => apart ?_
      exact ((MemberRow.toMember_columns read).2.2.1.symm.trans equal).trans own
  refine ⟨{ db with members := db.members.append (.ofMember member') }, ?_, { mirror with
    members := ?_, membersNumbered := mirror.membersNumbered.append _ }⟩
  · unfold Database.insertMember
    rw [inserted]
    rfl
  · dsimp only
    rw [mirror.membersNumbered.values_append]
    exact List.rel_append mirror.members
      (.cons ⟨member', MemberRow.toMember_ofMember _ _, same⟩ .nil)

/-- The row of a player in a corporation is the one of the player's line there. -/
theorem memberIn?_some (mirror : Mirror clients settings twins world db)
    (distinct : world.Distinct) {corp corp' : CorpId} (paired : twins.corps.pairs corp corp')
    {player : PlayerId} {row : MemberRow} (found : db.memberIn? corp' player = some row) :
    row ∈ db.members.rows.values ∧
      List.Forall₂ (fun member other => (∃ twin, MemberRow.toMember other = .ok twin ∧
        twins.MemberAs member twin) ∧
        (other.id = row.id ↔ World.isMember corp player member = true))
        world.members db.members.rows.values := by
  obtain ⟨line, employed⟩ := Option.filter_eq_some_iff.mp found
  have listed := db.members.all_perm.mem_iff.mp (List.mem_of_find?_eq_some line)
  have own : row.player = player := by simpa using List.find?_some line
  refine ⟨listed, forall₂_imp_mem mirror.members fun member _ other listed' same => ⟨same, ?_⟩⟩
  obtain ⟨_, read, employer, related, rfl⟩ := same
  obtain ⟨_, corps, players, _⟩ := MemberRow.toMember_columns read
  rw [World.isMember_iff]
  constructor
  · intro key
    have equal := mirror.membersNumbered.same_row listed' listed key
    subst equal
    refine ⟨(Pairing.same_iff related paired).mpr ?_, players.symm.trans own⟩
    exact corps.symm.trans (eq_of_beq employed)
  · rintro ⟨_, mine⟩
    rw [mirror.lone_row distinct listed' listed (players.trans (mine.trans own.symm))]

/-- Where a player has no row in a corporation, there is no such line. -/
theorem memberIn?_none (mirror : Mirror clients settings twins world db)
    {corp corp' : CorpId} (paired : twins.corps.pairs corp corp')
    {player : PlayerId} (distinct : world.Distinct)
    (missing : db.memberIn? corp' player = none) :
    ∀ member ∈ world.members, World.isMember corp player member = false := by
  intro member listed
  refine Bool.eq_false_iff.mpr fun mine => ?_
  obtain ⟨employer, own⟩ := World.isMember_iff.mp mine
  have line := mirror.memberOf? distinct player
  unfold Database.memberIn? at missing
  generalize db.memberOf? player = found at line missing
  cases entry : world.memberOf? player with
  | none => exact World.memberOf?_eq_none.mp entry member listed own
  | some first =>
    have mine' : first.player = player := by simpa using List.find?_some entry
    have same := List.inj_on_of_nodup_map distinct.members (List.mem_of_find?_eq_some entry) listed
      (mine'.trans own.symm)
    rw [entry, same] at line
    cases line with
    | some each =>
      obtain ⟨_, read, corp, related, rfl⟩ := each
      have column := (MemberRow.toMember_columns read).2.1
      have stays := Option.filter_eq_none_iff.mp missing _ rfl
      exact stays (beq_iff_eq.mpr (column.trans ((Pairing.same_iff related paired).mp employer)))

theorem setRole (mirror : Mirror clients settings twins world db) (distinct : world.Distinct)
    {corp corp' : CorpId} (paired : twins.corps.pairs corp corp') {player : PlayerId} {role : Role}
    (admits : world.Admits (.setRole corp player role)) :
    ∃ after, db.setRole corp' player role = (.ok (), after) ∧
      Mirror clients settings twins (world.written (.setRole corp player role)) after := by
  unfold Database.setRole
  cases found : db.memberIn? corp' player with
  | none =>
    obtain ⟨member, listed, mine⟩ := List.any_eq_true.mp admits
    rw [mirror.memberIn?_none paired distinct found member listed] at mine
    cases mine
  | some row =>
    obtain ⟨listed, lines⟩ := mirror.memberIn?_some distinct paired found
    have present : db.members.rows.contains row.id = true :=
      Option.isSome_iff_exists.mpr ⟨row, mirror.membersNumbered.keyed.get?_of_mem listed⟩
    refine ⟨{ db with members := db.members.update { row with role := role.code } }, rfl,
      { mirror with members := ?_, membersNumbered := mirror.membersNumbered.update present }⟩
    have values : (db.members.rows.insert row.id { row with role := role.code }).values =
        db.members.rows.values.map fun other =>
          if other.id = row.id then { row with role := role.code } else other :=
      Table.values_insert_present mirror.membersNumbered.keyed present rfl
    change List.Forall₂ _ (world.members.map _) (db.members.rows.insert row.id _).values
    rw [values, List.forall₂_map_left_iff, List.forall₂_map_right_iff]
    refine forall₂_imp_mem lines ?_
    rintro member - other listed' ⟨⟨twin, read, alike⟩, mine⟩
    by_cases same : other.id = row.id
    · have equal := mirror.membersNumbered.same_row listed' listed same
      subst equal
      obtain ⟨_, corps, players, joined⟩ := MemberRow.toMember_columns read
      rw [if_pos (mine.mp same), if_pos same]
      obtain ⟨employer, related, rfl⟩ := alike
      have known : MemberRow.toMember { other with role := role.code } =
          .ok ⟨other.corp, other.player, role, other.joinedAt⟩ := by
        simp [MemberRow.toMember, MemberRow.readRole, bind, Except.bind, pure, Except.pure]
      exact ⟨_, known, employer, related, by rw [corps, players, joined]⟩
    · rw [if_neg fun mine' => same (mine.mpr mine'), if_neg same]
      exact ⟨twin, read, alike⟩

theorem deleteMember (mirror : Mirror clients settings twins world db)
    (distinct : world.Distinct) {corp corp' : CorpId} (paired : twins.corps.pairs corp corp')
    (player : PlayerId) :
    Mirror clients settings twins (world.written (.deleteMember corp player))
      (db.deleteMember corp' player) := by
  unfold Database.deleteMember
  cases found : db.memberIn? corp' player with
  | none =>
    have nobody := mirror.memberIn?_none paired distinct found
    have kept : world.members.filter (fun member => !World.isMember corp player member) =
        world.members :=
      List.filter_eq_self.mpr fun member listed => by rw [nobody member listed]; rfl
    refine { mirror with members := ?_ }
    change List.Forall₂ _ (world.members.filter _) _
    rw [kept]
    exact mirror.members
  | some row =>
    obtain ⟨listed, lines⟩ := mirror.memberIn?_some distinct paired found
    refine { mirror with members := ?_, membersNumbered := mirror.membersNumbered.erase row.id }
    change List.Forall₂ _ (world.members.filter _) (db.members.rows.erase row.id).values
    rw [Table.values_erase mirror.membersNumbered.keyed]
    refine List.Forall₂.imp (fun _ _ each => each.1) (forall₂_filter lines ?_)
    rintro member other ⟨_, mine⟩
    by_cases same : other.id = row.id
    · have absent : decide (Row.key other ≠ row.id) = false :=
        decide_eq_false fun differs => differs same
      rw [mine.mp same, absent]
      rfl
    · have kept : decide (Row.key other ≠ row.id) = true := decide_eq_true same
      rw [kept, Bool.not_eq_true', Bool.eq_false_iff]
      exact fun mine' => same (mine.mpr mine')

theorem deleteCorp (mirror : Mirror clients settings twins world db)
    {corp corp' : CorpId} (paired : twins.corps.pairs corp corp') :
    ∃ after, db.write (.deleteCorp corp') = (.ok (), after) ∧
      Mirror clients settings twins (world.written (.deleteCorp corp)) after := by
  refine ⟨_, rfl, { mirror with
    corps := mirror.corps.erase paired
    corpsNumbered := mirror.corpsNumbered.erase corp'
    members := ?_
    membersNumbered := mirror.membersNumbered.eraseKeys _ }⟩
  dsimp only
  rw [mirror.membersNumbered.values_eraseAll]
  refine forall₂_filter mirror.members ?_
  rintro member row ⟨_, read, employer, related, rfl⟩
  have column := (MemberRow.toMember_columns read).2.1
  rw [column]
  exact congrArg not (decide_eq_decide.mpr (Pairing.same_iff related paired))

end Rosters

section Scans

theorem saveIntel (mirror : Mirror clients settings twins world db) {player : PlayerId}
    {intel : Intel} (fits : intel.Fits) :
    ∃ after, db.saveIntel player intel = (.ok (), after) ∧
      Mirror clients settings twins (world.written (.saveIntel player intel)) after := by
  obtain ⟨table, saved, held⟩ := mirror.scanned.save fits player
  exact ⟨_, saved, { mirror with intel := held.rows, intelNumbered := held.numbered }⟩

theorem deleteIntel (mirror : Mirror clients settings twins world db) (player : PlayerId)
    (sector : SectorId) :
    ∃ after, db.write (.deleteIntel player sector) = (.ok (), after) ∧
      Mirror clients settings twins (world.written (.deleteIntel player sector)) after := by
  have held := mirror.scanned.forget player sector
  exact ⟨_, rfl, { mirror with intel := held.rows, intelNumbered := held.numbered }⟩

end Scans

section Logs

/-- The keys of a player's oldest rows. -/
def oldestKeys (player : PlayerId) (excess : Nat) (rows : List LogRow) : List Nat :=
  ((rows.filter fun row => row.player == player).map (·.id)).take excess

theorem oldestKeys_mine {player : PlayerId} {row : LogRow} (mine : row.player = player)
    (excess : Nat) (rows : List LogRow) :
    oldestKeys player (excess + 1) (row :: rows) = row.id :: oldestKeys player excess rows := by
  simp [oldestKeys, mine]

theorem oldestKeys_theirs {player : PlayerId} {row : LogRow} (theirs : row.player ≠ player)
    (excess : Nat) (rows : List LogRow) :
    oldestKeys player excess (row :: rows) = oldestKeys player excess rows := by
  simp [oldestKeys, theirs]

theorem mem_oldestKeys {player : PlayerId} {excess key : Nat} {rows : List LogRow}
    (among : key ∈ oldestKeys player excess rows) : ∃ row ∈ rows, row.id = key := by
  obtain ⟨row, listed, own⟩ := List.mem_map.mp (List.mem_of_mem_take among)
  exact ⟨row, List.mem_of_mem_filter listed, own⟩

/-- Without a player's oldest lines and without the rows of these, the log still
matches. -/
theorem forall₂_dropOldest (player : PlayerId) {lines : List (PlayerId × LogEntry)}
    {rows : List LogRow} (same : List.Forall₂ (fun line row => row.player = line.1 ∧
      row.toEntry = .ok line.2) lines rows)
    (apart : rows.Pairwise fun a b => a.id ≠ b.id) (excess : Nat) :
    List.Forall₂ (fun line row => row.player = line.1 ∧ row.toEntry = .ok line.2)
      (World.dropOldest player excess lines)
      (rows.filter fun row => !(oldestKeys player excess rows).contains row.id) := by
  induction same generalizing excess with
  | nil => cases excess <;> exact .nil
  | @cons line row lines rows each others ih =>
    obtain ⟨differ, apart⟩ := List.pairwise_cons.mp apart
    cases excess with
    | zero =>
      have all : ((row :: rows).filter fun other =>
          !(oldestKeys player 0 (row :: rows)).contains other.id) = row :: rows :=
        List.filter_eq_self.mpr fun _ _ => rfl
      rw [World.dropOldest, all]
      exact .cons each others
    | succ excess =>
      rw [World.dropOldest]
      by_cases own : line.1 = player
      · have kept : (rows.filter fun other =>
            !(row.id :: oldestKeys player excess rows).contains other.id) =
            rows.filter fun other => !(oldestKeys player excess rows).contains other.id :=
          List.filter_congr fun other listed => by simp [(differ other listed).symm]
        rw [if_pos own, oldestKeys_mine (each.1.trans own), List.filter_cons_of_neg (by simp), kept]
        exact ih apart excess
      · have stays : row.id ∉ oldestKeys player (excess + 1) rows := fun among => by
          obtain ⟨other, listed, same⟩ := mem_oldestKeys among
          exact differ other listed same.symm
        rw [if_neg own, oldestKeys_theirs fun mine => own (each.1.symm.trans mine),
          List.filter_cons_of_pos (by simpa using stays)]
        exact .cons each (ih apart (excess + 1))

theorem pruneLogs (mirror : Mirror clients settings twins world db) (player : PlayerId)
    (keep : Nat) :
    Mirror clients settings twins (world.written (.pruneLogs player keep))
      (db.pruneLogs player keep) := by
  refine { mirror with logs := ?_, logsNumbered := mirror.logsNumbered.eraseKeys _ }
  have apart : db.logs.rows.values.Pairwise fun a b => a.id ≠ b.id :=
    mirror.logsNumbered.ascending.imp fun lower => Nat.ne_of_lt lower
  have lines := forall₂_filter mirror.logs (p := fun line => line.1 == player)
    (q := fun row => row.player == player) fun line row same => by rw [same.1]
  have count : world.excessLogs player keep =
      ((db.logs.rows.values.filter fun row => row.player == player).map (·.id)).length - keep := by
    rw [World.excessLogs, World.logOf, List.length_map, List.length_map, lines.length_eq]
  -- The keys ascend with the age of the rows, so the newest keys are the last ones.
  have newest : ((db.logRows player).map (·.id)).mergeSort (fun a b => decide (b ≤ a)) =
      ((db.logs.rows.values.filter fun row => row.player == player).map (·.id)).reverse := by
    refine mergeSort_eq_sorted ?_ (by grind) (by grind) (by grind) ?_
    · exact ((db.logs.all_perm.filter _).map _).trans (List.reverse_perm _).symm
    · rw [List.pairwise_reverse, List.pairwise_map]
      exact (mirror.logsNumbered.ascending.filter _).imp fun lower =>
        decide_eq_true (Nat.le_of_lt lower)
  have stale : ∀ key, (idsToPrune ((db.logRows player).map (·.id)) keep).contains key =
      (oldestKeys player (world.excessLogs player keep) db.logs.rows.values).contains key := by
    intro key
    rw [idsToPrune, newest, List.drop_reverse, ← count, Bool.eq_iff_iff, List.contains_iff_mem,
      List.contains_iff_mem, List.mem_reverse]
    rfl
  have kept := forall₂_dropOldest player mirror.logs apart (world.excessLogs player keep)
  unfold Database.pruneLogs
  dsimp only
  rw [Relation.rows_eraseKeys, Table.values_eraseAll mirror.logsNumbered.keyed]
  rwa [List.filter_congr fun row _ => congrArg not (stale row.id)]

end Logs

/-- A write that keeps all pairs. -/
theorem followed {change change' : Write} {after : Database} (within : twins.Within world db)
    (success : db.write change' = (.ok (), after))
    (mirror : Mirror clients settings twins (world.written change) after) :
    ∃ more after, twins ≤ more ∧ db.write change' = (.ok (), after) ∧
      Mirror clients settings more (world.written change) after ∧
      more.Within (world.written change) after := by
  have later := db.later_write change'
  rw [success] at later
  exact ⟨twins, after, Twinning.le_refl _, success, mirror,
    within.later (world.lastId_le_written change) later.planets later.corps later.minefields⟩

/-- What a world takes and respects, its mirror takes too. -/
theorem write {change change' : Write} (mirror : Mirror clients settings twins world db)
    (within : twins.Within world db) (filed : world.Filed) (distinct : world.Distinct)
    (admits : world.Admits change) (respects : world.Respects change)
    (same : twins.WriteAs change change') :
    ∃ more after, twins ≤ more ∧ db.write change' = (.ok (), after) ∧
      Mirror clients settings more (world.written change) after ∧
      more.Within (world.written change) after := by
  cases same with
  | savePlayer player =>
    obtain ⟨after, success, shown⟩ := mirror.savePlayer filed respects
    exact followed within success shown
  | discover player sector =>
    obtain ⟨after, success, shown⟩ := mirror.discover player sector
    exact followed within success shown
  | savePort port =>
    obtain ⟨after, success, shown⟩ := mirror.savePort admits
    exact followed within success shown
  | insertPlanet owned =>
    obtain ⟨after, success, shown, bounded⟩ := mirror.insertPlanet within owned respects
    exact ⟨_, after, within.le_addPlanet, success, shown, bounded⟩
  | savePlanet same =>
    obtain ⟨after, success, shown⟩ := mirror.savePlanet same admits
    exact followed within success shown
  | insertCorp name now =>
    obtain ⟨after, success, shown, bounded⟩ := mirror.insertCorp within respects
    exact ⟨_, after, within.le_addCorp, success, shown, bounded⟩
  | saveCorp same =>
    obtain ⟨after, success, shown⟩ := mirror.saveCorp same admits
    exact followed within success shown
  | deleteCorp paired =>
    obtain ⟨after, success, shown⟩ := mirror.deleteCorp paired
    exact followed within success shown
  | insertMember same =>
    obtain ⟨after, success, shown⟩ := mirror.insertMember same admits
    exact followed within success shown
  | setRole paired player role =>
    obtain ⟨after, success, shown⟩ := mirror.setRole distinct paired admits
    exact followed within success shown
  | deleteMember paired player =>
    exact followed within rfl (mirror.deleteMember distinct paired player)
  | insertMessage paired =>
    obtain ⟨after, success, shown⟩ := mirror.insertMessage _ _
    exact followed within success shown
  | insertMinefield owned =>
    obtain ⟨after, success, shown, bounded⟩ := mirror.insertMinefield within owned
    exact ⟨_, after, within.le_addField, success, shown, bounded⟩
  | saveMinefield same =>
    obtain ⟨after, success, shown⟩ := mirror.saveMinefield same admits
    exact followed within success shown
  | deleteMinefield paired =>
    obtain ⟨after, success, shown⟩ := mirror.deleteMinefield paired
    exact followed within success shown
  | saveIntel player intel =>
    obtain ⟨after, success, shown⟩ := mirror.saveIntel respects
    exact followed within success shown
  | deleteIntel player sector =>
    obtain ⟨after, success, shown⟩ := mirror.deleteIntel player sector
    exact followed within success shown
  | insertLog player entry =>
    obtain ⟨after, success, shown⟩ := mirror.insertLog player entry
    exact followed within success shown
  | pruneLogs player keep => exact followed within rfl (mirror.pruneLogs player keep)

/-- What a world takes in order, its mirror takes too. -/
theorem writeAll {changes changes' : List Write} (mirror : Mirror clients settings twins world db)
    (within : twins.Within world db) (filed : world.Filed) (distinct : world.Distinct)
    (accepts : world.AcceptsAll changes) (same : List.Forall₂ twins.WriteAs changes changes') :
    ∃ more after, twins ≤ more ∧ Store.writeAll changes' db = (.ok (), after) ∧
      Mirror clients settings more (world.writtenAll changes) after ∧
      more.Within (world.writtenAll changes) after := by
  induction accepts generalizing twins db changes' with
  | nil =>
    cases same
    exact ⟨twins, db, Twinning.le_refl _, rfl, mirror, within⟩
  | @cons world change rest admits respects _ ih =>
    cases same with
    | @cons _ change' _ rest' each others =>
      -- The writes that remain are twins under the pairs so far, and so under more pairs.
      obtain ⟨between, middle, grown, first, shown, bounded⟩ :=
        mirror.write within filed distinct admits respects each
      obtain ⟨more, after, grown', rest, shown, bounded⟩ := ih shown bounded
        (World.Filed.kept _ _ filed admits) (distinct.written admits respects)
        (List.Forall₂.imp (fun _ _ same => same.mono grown) others)
      refine ⟨more, after, Twinning.le_trans grown grown', ?_, shown, bounded⟩
      have carried : Store.write change' db = (.ok (), middle) := first
      rw [Store.writeAll, carried]
      exact rest

end Mirror

end Server

end Starlane
