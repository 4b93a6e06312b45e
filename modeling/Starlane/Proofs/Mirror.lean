import Mathlib.Data.List.Sort
import Starlane.Proofs.Scans
import Starlane.Proofs.Twinning
import Starlane.World.Lookup

/-!
# A database that mirrors a world

Each table of the database has a row for each record of the world, and a row is
read as the record or its twin. Generated keys need not be the world's numbers,
and the database may go through its rows in any order; still it answers every
look-up as the world does.
-/

namespace Starlane

/-- Two values with one name are the same value. -/
theorem Table.Apart.same_value {α κ : Type} {table : Table Nat α} {key : α → Option κ}
    {number : α → Nat} (apart : table.Apart key) (keyed : table.KeyedBy number) {a b : α} {name : κ}
    (listed : a ∈ table.values) (listed' : b ∈ table.values) (named : key a = some name)
    (named' : key b = some name) : a = b :=
  keyed.same_value listed listed' (apart _ _ _ _ name (keyed.get?_of_mem listed)
    (keyed.get?_of_mem listed') named named')

namespace World

theorem under_ascending (table : Table (Nat × Nat) Unit) (first : Nat) :
    (under table first).Pairwise (· < ·) := by
  unfold under Table.keys
  rw [List.pairwise_map, List.filter_map, List.pairwise_map]
  refine List.Pairwise.imp_of_mem ?_ (table.ascending.filter _)
  intro a b among among' before
  have own : a.1.1 = first := by simpa using (List.mem_filter.mp among).2
  have own' : b.1.1 = first := by simpa using (List.mem_filter.mp among').2
  simp only [Key.before, own, own', Nat.lt_irrefl, decide_false, beq_self_eq_true, Bool.false_or,
    Bool.true_and, decide_eq_true_eq] at before
  exact before

end World

namespace Server

section Rows

theorem PlayerRow.toPlayer_columns {row : PlayerRow} {name : String} {player : Player}
    (read : row.toPlayer name = .ok player) :
    row.id = player.id ∧ row.username = player.username ∧ row.credits = player.credits ∧
      row.season = player.season := by
  unfold toPlayer at read
  cases ship : Ship.ofCode? row.ship with
  | none => simp [ship, readable, bind, Except.bind] at read
  | some hull =>
    simp only [ship, readable_some, bind, Except.bind, pure, Except.pure, Except.ok.injEq] at read
    subst read
    exact ⟨rfl, rfl, rfl, rfl⟩

theorem EventRow.toEvent_columns {row : EventRow} {event : Event} (read : row.toEvent = .ok event) :
    row.sector = event.sector ∧ row.endsAt = event.endsAt := by
  unfold toEvent at read
  cases scope : row.scope with
  | error => simp [scope, bind, Except.bind] at read
  | ok covered =>
    cases kind : EventKind.ofCode? row.kind with
    | none => simp [scope, kind, readable, bind, Except.bind] at read
    | some known =>
      simp only [scope, kind, readable_some, bind, Except.bind, pure, Except.pure,
        Except.ok.injEq] at read
      subst read
      exact ⟨rfl, rfl⟩

theorem MemberRow.toMember_columns {row : MemberRow} {member : Member}
    (read : row.toMember = .ok member) :
    row.readRole = .ok member.role ∧ row.corp = member.corp ∧ row.player = member.player ∧
      row.joinedAt = member.joinedAt := by
  unfold toMember at read
  cases role : row.readRole with
  | error => simp [role, bind, Except.bind] at read
  | ok known =>
    simp only [role, bind, Except.bind, pure, Except.pure, Except.ok.injEq] at read
    subst read
    exact ⟨rfl, rfl, rfl, rfl⟩

theorem PlanetRow.toPlanet_corp (row : PlanetRow) : row.toPlanet.owner.corp? = row.ownerCorp := by
  obtain ⟨_, _, _, founder, corp, _⟩ := row
  cases founder <;> cases corp <;> rfl

end Rows

/-- Whether a database shows a world, to the clients of the world's players. -/
structure Mirror (clients : PlayerId → Identity) (settings : Settings) (twins : Twinning)
    (world : World) (db : Database) : Prop where
  settings : db.currentSettings = settings
  sectors : db.sectors.rows = world.sectors
  seasons : db.seasons.rows = world.seasons
  warps : ∀ warp, warp ∈ world.warps.keys ↔
    ∃ row ∈ db.warps.rows.values, (row.source, row.target) = warp
  players : world.players.Matches .identity (fun player row =>
    row.identity = clients player.id ∧ row.toPlayer (db.seasonName row.season) = .ok player)
    db.players.rows
  ports : world.ports.Matches .identity (fun port row => row.toPort = .ok port) db.ports.rows
  events : world.events.Matches .identity (fun event row => row.toEvent = .ok event) db.events.rows
  planets : world.planets.Matches twins.planets
    (fun planet row => twins.PlanetAs planet row.toPlanet) db.planets.rows
  corps : world.corps.Matches twins.corps (fun corp row => twins.CorpAs corp row.toCorp)
    db.corps.rows
  fields : world.minefields.Matches twins.fields
    (fun field row => twins.FieldAs field row.toMinefield) db.minefields.rows
  members : List.Forall₂ (fun member row => ∃ twin, row.toMember = .ok twin ∧
    twins.MemberAs member twin) world.members db.members.rows.values
  logs : List.Forall₂ (fun line row => row.player = line.1 ∧ row.toEntry = .ok line.2)
    world.logs db.logs.rows.values
  discoveries : Reordered (fun key row => (row.player, row.sector) = key)
    world.discoveries.keys db.discoveries.rows.values
  intel : Reordered (fun entry row => (row.player, row.sector) = entry.1 ∧
    row.toIntel = .ok entry.2) world.intel.entries db.intel.rows.values
  planetsNumbered : db.planets.Numbered
  corpsNumbered : db.corps.Numbered
  fieldsNumbered : db.minefields.Numbered
  membersNumbered : db.members.Numbered
  messagesNumbered : db.messages.Numbered
  logsNumbered : db.logs.Numbered
  discoveriesNumbered : db.discoveries.Numbered
  intelNumbered : db.intel.Numbered

namespace Mirror

variable {clients : PlayerId → Identity} {settings : Settings} {twins : Twinning} {world : World}
  {db : Database}

section People

variable (mirror : Mirror clients settings twins world db) (distinct : world.Distinct)

include mirror distinct in
/-- The roster line of a player. -/
theorem memberOf? (player : PlayerId) :
    Option.Rel (fun member row => ∃ twin, row.toMember = .ok twin ∧ twins.MemberAs member twin)
      (world.memberOf? player) (db.memberOf? player) := by
  refine (Reordered.of_forall₂ mirror.members db.members.all_perm).find? ?_ ?_
  · rintro member row ⟨twin, read, corp, _, rfl⟩
    rw [(MemberRow.toMember_columns read).2.2.1]
  · intro first listed second listed' own own'
    exact List.inj_on_of_nodup_map distinct.members listed listed'
      ((eq_of_beq own).trans (eq_of_beq own').symm)

include mirror distinct in
/-- The snapshot of a player's corporation, if there is one. -/
theorem membershipOf (player : PlayerId) :
    ∃ membership, db.membershipOf player = .ok membership ∧
      Option.Rel twins.MembershipAs (world.membershipOf player) membership := by
  have line := mirror.memberOf? distinct player
  unfold Database.membershipOf World.membershipOf
  generalize world.memberOf? player = first at line ⊢
  generalize db.memberOf? player = second at line ⊢
  cases line with
  | none => exact ⟨none, rfl, .none⟩
  | @some member row each =>
    obtain ⟨twin, read, corp, paired, rfl⟩ := each
    obtain ⟨role, employer, _, _⟩ := MemberRow.toMember_columns read
    have found := mirror.corps.get? paired
    simp only [Option.bind_eq_bind, Option.bind_some, Relation.find?, employer]
    generalize world.corps.get? member.corp = first at found ⊢
    generalize db.corps.rows.get? corp = second at found ⊢
    cases found with
    | none => exact ⟨none, rfl, .none⟩
    | @some record entry same =>
      obtain ⟨id, related, shown⟩ := same
      refine ⟨some ⟨entry.id, entry.name, member.role, entry.bank⟩, ?_, .some ⟨id, related, ?_⟩⟩
      · simp only [role, bind, Except.bind, pure, Except.pure]
      · have columns : entry.toCorp = ⟨entry.id, entry.name, entry.bank⟩ := rfl
        rw [columns, Corporation.mk.injEq] at shown
        obtain ⟨rfl, name, bank⟩ := shown
        rw [name, bank]

include mirror distinct in
theorem commander (id : PlayerId) :
    Answers twins.CommanderAs (world.commander id) (db.commander id) := by
  have found := mirror.players.get? (a := id) rfl
  unfold World.commander Database.commander Relation.find?
  generalize world.players.get? id = first at found ⊢
  generalize db.players.rows.get? id = second at found ⊢
  cases found with
  | none => exact .error
  | some each =>
    obtain ⟨membership, loaded, belongs⟩ := mirror.membershipOf distinct id
    simp only [each.2, loaded, bind, Except.bind, pure, Except.pure]
    exact .ok ⟨membership, belongs, rfl⟩

end People

section Places

variable (mirror : Mirror clients settings twins world db)

include mirror

theorem warpsFrom : db.warpsFrom = World.under world.warps := by
  funext sector
  unfold Database.warpsFrom
  dsimp only
  refine List.Pairwise.eq_of_mem_iff (pairwise_eraseDups _ ?_) (World.under_ascending _ _)
    fun target => ?_
  · have sorted := @List.pairwise_mergeSort Nat (fun a b => decide (a ≤ b)) (by grind)
      (by grind) ((db.warps.all.filter fun row => row.source == sector).map (·.target))
    simpa using sorted
  · rw [List.mem_eraseDups, (List.mergeSort_perm _ _).mem_iff, World.mem_under, mirror.warps]
    simp only [List.mem_map, List.mem_filter, db.warps.all_perm.mem_iff, beq_iff_eq]
    constructor
    · rintro ⟨row, ⟨listed, rfl⟩, rfl⟩
      exact ⟨row, listed, rfl⟩
    · rintro ⟨row, listed, same⟩
      cases same
      exact ⟨row, ⟨listed, rfl⟩, rfl⟩

theorem warpsAmong (sectors : List SectorId) (warp : SectorId × SectorId) :
    warp ∈ db.warpsAmong sectors ↔ warp ∈ world.warpsAmong sectors := by
  unfold Database.warpsAmong World.warpsAmong
  rw [List.mem_filter, mirror.warps]
  simp only [List.mem_map, List.mem_filter, db.warps.all_perm.mem_iff]
  constructor
  · rintro ⟨row, ⟨listed, among⟩, rfl⟩
    exact ⟨⟨row, listed, rfl⟩, among⟩
  · rintro ⟨⟨row, listed, rfl⟩, among⟩
    exact ⟨row, ⟨listed, among⟩, rfl⟩

theorem discovered : db.discovered = World.under world.discoveries := by
  funext player
  have known : Reordered (fun key (row : DiscoveryRow) => (row.player, row.sector) = key)
      (world.discoveries.keys.filter fun key => key.1 == player)
      (db.discoveries.all.filter fun row => row.player == player) :=
    (mirror.discoveries.perm db.discoveries.all_perm).filter fun key row same => by rw [← same]
  have perm := known.map (f := fun key => key.2) (g := fun row => row.sector)
    fun key row same => by rw [← same]
  refine mergeSort_eq_sorted perm (by grind) (by grind) (by grind) ?_
  exact (World.under_ascending world.discoveries player).imp fun lower =>
    decide_eq_true (Nat.le_of_lt lower)

theorem portIn (sector : SectorId) : db.lookup.port sector = world.lookup.port sector := by
  have found := mirror.ports.get? (a := sector) rfl
  unfold Database.lookup World.lookup Relation.find?
  dsimp only
  generalize world.ports.get? sector = first at found ⊢
  generalize db.ports.rows.get? sector = second at found ⊢
  cases found with
  | none => rfl
  | some read =>
    simp only [read]
    rfl

/-- The active events, in some order. -/
theorem activeEvents (now : Int) : Reordered (fun event row => row.toEvent = .ok event)
    (world.activeEvents now) (db.activeEvents now) :=
  (Reordered.of_forall₂ mirror.events.values db.events.all_perm).filter fun event row read => by
    rw [(EventRow.toEvent_columns read).2]
    rfl

/-- With at most one event in a sector, it does not matter in which order the
rows are searched. -/
theorem eventIn (filed : world.Filed) (distinct : world.Distinct) :
    db.lookup.event = world.lookup.event := by
  funext sector now
  have here := (mirror.activeEvents now).filter (p := fun event => event.sector == sector)
    (q := fun row => row.sector == sector) fun event row read => by
      rw [(EventRow.toEvent_columns read).1]
  -- Two events of one sector would have one place, so the rows to choose from are none or one.
  have lone : ∀ first second rest,
      (world.activeEvents now).filter (fun event => event.sector == sector) ≠
        first :: second :: rest := by
    intro first second rest many
    have apart := (filed.events.distinct.filter fun event => event.isActive now).filter
      fun event => event.sector == sector
    have listed : ∀ event ∈ first :: second :: rest,
        world.events.get? event.id = some event ∧ event.sector = sector := by
      intro event member
      rw [← many] at member
      obtain ⟨active, there⟩ := List.mem_filter.mp member
      exact ⟨filed.events.get?_of_mem (List.mem_of_mem_filter active), eq_of_beq there⟩
    obtain ⟨stored, there⟩ := listed first (.head _)
    obtain ⟨stored', there'⟩ := listed second (.tail _ (.head _))
    change ((world.activeEvents now).filter fun event => event.sector == sector).Pairwise _ at apart
    rw [many] at apart
    exact (List.pairwise_cons.mp apart).1 second (.head _)
      (distinct.events _ _ _ _ sector stored stored' (congrArg some there) (congrArg some there'))
  change db.eventIn sector now = .ok (Event.soonest? _)
  unfold Database.eventIn Event.soonest?
  obtain ⟨list, order, related⟩ := here
  generalize (db.activeEvents now).filter _ = rows at related ⊢
  generalize (world.activeEvents now).filter _ = events at order lone ⊢
  match events with
  | [] =>
    cases order.eq_nil
    cases related
    rfl
  | [event] =>
    cases order.eq_singleton
    cases related with
    | cons read others =>
      cases others
      simp only [List.minOn?_singleton, read]
      rfl
  | first :: second :: rest => exact absurd rfl (lone first second rest)

theorem eventsAt (filed : world.Filed) : db.lookup.events = world.lookup.events := by
  funext now
  obtain ⟨list, success, perm⟩ := (mirror.activeEvents now).mapM (f := id) fun _ _ read => read
  change ((db.activeEvents now).mapM EventRow.toEvent).map Event.sortByEnd =
    .ok (Event.sortByEnd (world.activeEvents now))
  rw [List.map_id] at perm
  rw [success]
  refine congrArg Except.ok (mergeSort_eq_of_perm perm (by grind) (by grind)
    fun a ha b hb up down => ?_)
  have same : a.id = b.id := by grind
  exact filed.events.same_value (List.mem_of_mem_filter (perm.mem_iff.mp ha))
    (List.mem_of_mem_filter (perm.mem_iff.mp hb)) same

end Places

section Holdings

variable (mirror : Mirror clients settings twins world db)

include mirror

theorem planetIn (filed : world.Filed) (distinct : world.Distinct) (sector : SectorId) :
    Option.Rel twins.PlanetAs (world.lookup.planet sector) (db.lookup.planet sector) := by
  have found := (Reordered.of_forall₂ mirror.planets.values db.planets.all_perm).find?
    (p := fun planet => planet.sector == sector) (q := fun row => row.sector == sector) ?_ ?_
  · change Option.Rel _ (world.planets.values.find? _) ((db.planets.all.find? _).map _)
    generalize world.planets.values.find? _ = first at found ⊢
    generalize db.planets.all.find? _ = second at found ⊢
    cases found with
    | none => exact .none
    | some same => exact .some same
  · rintro planet row ⟨_, _, _, _, read⟩
    exact congrArg (fun read : Planet => read.sector == sector) read.symm
  · intro first listed second listed' here here'
    exact distinct.planets.same_value filed.planets listed listed'
      (congrArg some (eq_of_beq here)) (congrArg some (eq_of_beq here'))

theorem planetCount {corp corp' : CorpId} (paired : twins.corps.pairs corp corp') :
    db.lookup.planetCount corp' = world.lookup.planetCount corp := by
  refine (Reordered.of_forall₂ mirror.planets.values db.planets.all_perm).countP ?_
  rintro planet row ⟨id, owner, _, owned, read⟩
  have held : row.ownerCorp = owner.corp? := by rw [← row.toPlanet_corp, read]
  rw [held]
  generalize planet.owner = holder at owned ⊢
  cases owned with
  | unowned | player => rfl
  | corp related founder =>
    simp only [Owner.corp?, Option.some_beq_some]
    exact decide_eq_decide.mpr (Pairing.same_iff related paired)

theorem corp {corp corp' : CorpId} (paired : twins.corps.pairs corp corp') :
    Option.Rel twins.CorpAs (world.lookup.corp corp) (db.lookup.corp corp') := by
  have found := mirror.corps.get? paired
  change Option.Rel _ (world.corps.get? corp) ((db.corps.rows.get? corp').map _)
  generalize world.corps.get? corp = first at found ⊢
  generalize db.corps.rows.get? corp' = second at found ⊢
  cases found with
  | none => exact .none
  | some same => exact .some same

theorem corpNamed (filed : world.Filed) (distinct : world.Distinct) (name : String) :
    Option.Rel twins.CorpAs (world.lookup.corpNamed name) (db.lookup.corpNamed name) := by
  have found := (Reordered.of_forall₂ mirror.corps.values db.corps.all_perm).find?
    (p := fun corp => Text.lower corp.name == Text.lower name)
    (q := fun row => Text.lower row.name == Text.lower name) ?_ ?_
  · change Option.Rel _ (world.corps.values.find? _) ((db.corps.all.find? _).map _)
    generalize world.corps.values.find? _ = first at found ⊢
    generalize db.corps.all.find? _ = second at found ⊢
    cases found with
    | none => exact .none
    | some same => exact .some same
  · rintro corp row ⟨_, _, read⟩
    have named : row.name = corp.name := congrArg Corporation.name read
    rw [named]
  · intro first listed second listed' here here'
    exact distinct.corps.same_value filed.corps listed listed'
      (congrArg some (eq_of_beq here)) (congrArg some (eq_of_beq here'))

theorem membersOf {corp corp' : CorpId} (paired : twins.corps.pairs corp corp') :
    Answers (List.Forall₂ twins.MemberAs) (world.lookup.members corp)
      (db.lookup.members corp') := by
  have roster : List.Forall₂ (fun member row => ∃ twin, row.toMember = .ok twin ∧
      twins.MemberAs member twin) (world.members.filter fun member => member.corp == corp)
      (db.members.rows.values.filter fun row => row.corp == corp') := by
    refine forall₂_filter mirror.members ?_
    rintro member row ⟨twin, read, employer, related, rfl⟩
    have column := (MemberRow.toMember_columns read).2.1
    rw [column]
    exact decide_eq_decide.mpr (Pairing.same_iff related paired)
  -- Keys ascend with the order of entry, by which the world's stable sort leaves ties.
  have ascending : (db.members.rows.values.filter fun row => row.corp == corp').Pairwise
      fun a b => a.id < b.id := mirror.membersNumbered.ascending.filter _
  have sorted : List.Forall₂ (fun member row => ∃ twin, row.toMember = .ok twin ∧
      twins.MemberAs member twin)
      (Member.sortByJoining (world.members.filter fun member => member.corp == corp))
      ((db.members.all.filter fun row => row.corp == corp').mergeSort fun a b =>
        decide (a.joinedAt < b.joinedAt) ||
          (a.joinedAt == b.joinedAt && decide (a.id ≤ b.id))) := by
    rw [mergeSort_eq_of_perm (db.members.all_perm.filter fun row => row.corp == corp')
      (by grind) (by grind), mergeSort_ties ascending]
    · refine forall₂_mergeSort roster ?_
      rintro a row b row' ⟨_, read, _, _, rfl⟩ ⟨_, read', _, _, rfl⟩
      rw [(MemberRow.toMember_columns read).2.2.2, (MemberRow.toMember_columns read').2.2.2]
    · intro a ha b hb up down
      have same : a.id = b.id := by grind
      exact mirror.membersNumbered.same_row
        (db.members.all_perm.mem_iff.mp (List.mem_of_mem_filter ha))
        (db.members.all_perm.mem_iff.mp (List.mem_of_mem_filter hb)) same
  obtain ⟨list, success, related⟩ := mapM_forall₂ sorted
  change Answers _ (.ok _) (db.membersOf corp')
  unfold Database.membersOf
  dsimp only
  rw [success]
  exact .ok related

theorem minefieldsIn (sector : SectorId) :
    ∃ fields, List.Forall₂ twins.FieldAs (world.lookup.minefields sector) fields ∧
      (db.lookup.minefields sector).Perm fields := by
  have here := forall₂_filter mirror.fields.values (p := fun field => field.sector == sector)
    (q := fun row => row.sector == sector) ?_
  · refine ⟨_, List.forall₂_map_right_iff.mpr here, ?_⟩
    exact (db.minefields.all_perm.filter _).map _
  · rintro field row ⟨_, _, _, _, read⟩
    exact congrArg (fun read : Minefield => read.sector == sector) read.symm

end Holdings

section Memory

variable (mirror : Mirror clients settings twins world db)

include mirror

theorem scanned : Scanned world.intel db.intel :=
  ⟨mirror.intel, mirror.intelNumbered⟩

theorem intelOf (distinct : world.Distinct) : db.lookup.intel = world.lookup.intel := by
  funext player
  exact mirror.scanned.intelOf distinct.scans player

theorem recentLogs : db.lookup.recentLogs = world.lookup.recentLogs := by
  funext player limit
  have lines := forall₂_filter mirror.logs (p := fun line => line.1 == player)
    (q := fun row => row.player == player) fun line row same => by rw [same.1]
  have newest : ((db.logRows player).mergeSort fun a b => decide (b.id ≤ a.id)) =
      (db.logs.rows.values.filter fun row => row.player == player).reverse := by
    refine mergeSort_eq_sorted ((db.logs.all_perm.filter _).trans (List.reverse_perm _).symm)
      (by grind) (by grind) (fun a ha b hb up down => ?_) ?_
    · have same : a.id = b.id := by grind
      exact mirror.logsNumbered.same_row
        (List.mem_of_mem_filter (List.mem_reverse.mp ha))
        (List.mem_of_mem_filter (List.mem_reverse.mp hb)) same
    · rw [List.pairwise_reverse]
      exact (mirror.logsNumbered.ascending.filter _).imp fun lower =>
        decide_eq_true (Nat.le_of_lt lower)
  have shown : List.Forall₂ (fun entry (row : LogRow) => ∃ read, row.toEntry = .ok read ∧
      entry = read) ((world.logOf player).reverse.take limit)
      ((db.logs.rows.values.filter fun row => row.player == player).reverse.take limit) := by
    refine List.forall₂_take _ (List.rel_reverse ?_)
    exact List.forall₂_map_left_iff.mpr
      (List.Forall₂.imp (fun line row same => ⟨line.2, same.2, rfl⟩) lines)
  obtain ⟨list, success, equal⟩ := mapM_forall₂ shown
  change (((db.logRows player).mergeSort fun a b => decide (b.id ≤ a.id)).take limit).mapM
    LogRow.toEntry = .ok ((world.logOf player).reverse.take limit)
  rw [newest, success]
  exact congrArg Except.ok (List.forall₂_eq_eq_eq ▸ equal : _ = list).symm

end Memory

section Whole

variable (mirror : Mirror clients settings twins world db)

include mirror

/-- The name of a player's corporation in the rankings. -/
theorem corpName (distinct : world.Distinct) (player : PlayerId) :
    ((db.memberOf? player).bind fun member => db.corps.find? member.corp).map (·.name) =
      (world.membershipOf player).map (·.name) := by
  obtain ⟨membership, loaded, belongs⟩ := mirror.membershipOf distinct player
  have name : membership.map (·.name) = (world.membershipOf player).map (·.name) := by
    generalize world.membershipOf player = first at belongs ⊢
    cases belongs with
    | none => rfl
    | some same =>
      obtain ⟨_, _, rfl⟩ := same
      rfl
  rw [← name]
  unfold Database.membershipOf at loaded
  cases line : db.memberOf? player with
  | none =>
    rw [line] at loaded
    cases loaded
    rfl
  | some row =>
    rw [line] at loaded
    simp only [Option.bind_some] at loaded ⊢
    cases found : db.corps.find? row.corp with
    | none =>
      rw [found] at loaded
      cases loaded
      rfl
    | some corp =>
      rw [found] at loaded
      dsimp only at loaded
      cases role : row.readRole with
      | error =>
        rw [role] at loaded
        cases loaded
      | ok known =>
        rw [role] at loaded
        cases loaded
        rfl

theorem rankings (filed : world.Filed) (distinct : world.Distinct) :
    db.lookup.rankings = world.lookup.rankings := by
  funext season limit
  have ranked := (Reordered.of_forall₂ mirror.players.values db.players.all_perm).filter
    (p := fun player => player.season == season) (q := fun row => row.season == season)
    fun player row same => by rw [(PlayerRow.toPlayer_columns same.2).2.2.2]
  have perm := ranked.map
    (f := fun player => (⟨player.username, player.credits,
      (world.membershipOf player.id).map (·.name)⟩ : Ranking))
    (g := fun row => ⟨row.username, row.credits,
      ((db.memberOf? row.id).bind fun member => db.corps.find? member.corp).map (·.name)⟩)
    fun player row same => by
      obtain ⟨id, username, credits, _⟩ := PlayerRow.toPlayer_columns same.2
      rw [mirror.corpName distinct, id, username, credits]
  refine congrArg (List.take limit) (mergeSort_eq_of_perm perm (by grind) (by grind)
    fun a ha b hb up down => ?_)
  have player : ∀ ranking ∈ (world.players.values.filter fun player => player.season == season).map
      (fun player => (⟨player.username, player.credits,
        (world.membershipOf player.id).map (·.name)⟩ : Ranking)),
      ∃ player ∈ world.players.values, player.username = ranking.username ∧
        ranking = ⟨player.username, player.credits,
          (world.membershipOf player.id).map (·.name)⟩ := by
    intro ranking listed
    obtain ⟨player, among, rfl⟩ := List.mem_map.mp listed
    exact ⟨player, List.mem_of_mem_filter among, rfl, rfl⟩
  obtain ⟨first, stored, named, shown⟩ := player a (perm.mem_iff.mp ha)
  obtain ⟨second, stored', named', shown'⟩ := player b (perm.mem_iff.mp hb)
  -- Those who rank alike have one name, and so are one player.
  have name : a.username = b.username := by
    simp only [Bool.or_eq_true, Bool.and_eq_true, decide_eq_true_eq] at up down
    rcases up with richer | ⟨equal, before⟩
    · omega
    · exact String.le_antisymm before (down.resolve_left (by omega)).2
  have same := distinct.players.same_value filed.players stored stored' (congrArg some named)
    (congrArg some (named'.trans name.symm))
  rw [shown, shown', same]

/-- A database answers every look-up as the world it mirrors. -/
theorem twin (filed : world.Filed) (distinct : world.Distinct) :
    world.lookup.Twin twins db.lookup where
  commander id := mirror.commander distinct id
  username := by
    funext id
    have found := mirror.players.get? (a := id) rfl
    change (db.players.rows.get? id).map _ = (world.players.get? id).map _
    generalize world.players.get? id = first at found ⊢
    generalize db.players.rows.get? id = second at found ⊢
    cases found with
    | none => rfl
    | some same => exact congrArg some (PlayerRow.toPlayer_columns same.2).2.1
  sector := by
    change db.sectors.rows.get? = world.sectors.get?
    rw [mirror.sectors]
  warpsFrom := mirror.warpsFrom
  warpsAmong := mirror.warpsAmong
  discovered := mirror.discovered
  port := funext mirror.portIn
  planet := mirror.planetIn filed distinct
  planetCount _ _ := mirror.planetCount
  corp _ _ := mirror.corp
  corpNamed := mirror.corpNamed filed distinct
  members _ _ := mirror.membersOf
  minefields := mirror.minefieldsIn
  numbered sector a ha b hb same :=
    filed.minefields.same_value (List.mem_of_mem_filter ha) (List.mem_of_mem_filter hb) same
  lone sector a ha b hb player laid laid' := by
    have there : a.sector = sector := eq_of_beq (List.mem_filter.mp ha).2
    have there' : b.sector = sector := eq_of_beq (List.mem_filter.mp hb).2
    have claim : a.claim = some (sector, player) := by simp [Minefield.claim, laid, there]
    have claim' : b.claim = some (sector, player) := by simp [Minefield.claim, laid', there']
    exact distinct.fields.same_value filed.minefields (List.mem_of_mem_filter ha)
      (List.mem_of_mem_filter hb) claim claim'
  event := mirror.eventIn filed distinct
  events := mirror.eventsAt filed
  intel := mirror.intelOf distinct
  recentLogs := mirror.recentLogs
  season := by
    change db.seasons.rows.get? = world.seasons.get?
    rw [mirror.seasons]
  rankings := mirror.rankings filed distinct

end Whole

end Mirror

end Server

end Starlane
