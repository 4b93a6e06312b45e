import Starlane.Proofs.Agreement

/-!
# A game that begins

A game begins alike in memory and on a server when both hold the same universe,
seasons, players and events and nothing has been founded yet. Every opening of a
game can be put on a server, whatever the hosts of its tables do, and from there
on the two answer alike.
-/

namespace Starlane

open Server

/-- The twinning that pairs nothing. -/
def Twinning.none : Twinning :=
  let nothing : Pairing := ⟨fun _ _ => False, fun paired _ => paired.elim⟩
  ⟨nothing, nothing, nothing⟩

/-- Whether a game begins alike in memory and on a server: with the same
settings, universe, seasons, players, events and scans, each player the player of
a client of their own. Nothing is paired, so there are no planets, corporations,
members or minefields yet. -/
structure Outset (clients : PlayerId → Identity) (settings : Settings) (world : World)
    (db : Database) : Prop where
  mirror : Mirror clients settings .none world db
  clients : Function.Injective clients
  filed : world.Filed
  usernames : world.players.Apart Player.handle
  events : world.events.Apart Event.place
  scans : ∀ key intel, world.intel.get? key = some intel → intel.sector = key.2
  ports : ∀ id port, world.ports.get? id = some port → port.Fits

section Beginning

variable {clients : PlayerId → Identity} {settings : Settings} {world : World} {db : Database}

/-- Where nothing is paired there is nothing. -/
theorem Table.Matches.empty_of_none {α β : Type} {R : α → β → Prop} {pairing : Pairing}
    {table : Table Nat α} {other : Table Nat β} (same : table.Matches pairing R other)
    (nothing : ∀ a b, ¬pairing.pairs a b) : table = .empty := by
  obtain ⟨entries, ascending⟩ := table
  obtain ⟨entries', ascending'⟩ := other
  unfold Table.Matches at same
  dsimp only at same
  cases same with
  | nil => rfl
  | cons first => exact absurd first.1 (nothing _ _)

theorem Outset.concord (outset : Outset clients settings world db) :
    Concord clients settings .none world db := by
  have planets := outset.mirror.planets.empty_of_none fun _ _ => id
  have corps := outset.mirror.corps.empty_of_none fun _ _ => id
  have fields := outset.mirror.fields.empty_of_none fun _ _ => id
  have members : world.members = [] := by
    have lines := outset.mirror.members
    generalize world.members = entered at lines ⊢
    generalize db.members.rows.values = rows at lines
    cases lines with
    | nil => rfl
    | cons first =>
      obtain ⟨_, _, _, paired, _⟩ := first
      exact paired.elim
  refine ⟨outset.mirror, ⟨fun _ _ => False.elim, fun _ _ => False.elim, fun _ _ => False.elim⟩,
    outset.filed, World.Rostered.empty.transfer members corps, ?_⟩
  refine ⟨outset.usernames, outset.events, ?_, ?_, ?_, ?_, outset.scans, outset.ports⟩
  · rw [planets]
    exact .empty
  · rw [corps]
    exact .empty
  · rw [fields]
    exact .empty
  · rw [members]
    exact .nil

end Beginning

/-! ## An opening on a server -/

namespace Server

/-- A table on a host, with a row for each value. -/
def Relation.ofTable {α ρ : Type} (host : Host ρ) (table : Table Nat α) (row : α → ρ) :
    Relation ρ where
  rows := ⟨table.entries.map fun entry => (entry.1, row entry.2),
    table.ascending.mapValues fun _ => row⟩
  issued := table.keys.getLast?.getD 0
  host

/-- A table on a host, with some new rows. -/
def Relation.ofList {ρ : Type} [Row ρ] (host : Host ρ) (rows : List ρ) : Relation ρ :=
  rows.foldl append ⟨.empty, 0, host⟩

/-- The tables of an opening, on given hosts. -/
def Database.opening (host : (ρ : Type) → Host ρ) (clients : PlayerId → Identity)
    (world : World) : Database :=
  { Database.empty with
    seasons := .ofTable (host Season) world.seasons id
    players := .ofTable (host PlayerRow) world.players fun player =>
      .ofPlayer (clients player.id) 0 player
    discoveries := .ofList (host DiscoveryRow) (world.discoveries.keys.map fun key =>
      ⟨0, key.1, key.2⟩)
    sectors := .ofTable (host Sector) world.sectors id
    warps := .ofList (host WarpRow) (world.warps.keys.map fun warp => ⟨0, warp.1, warp.2⟩)
    ports := .ofTable (host PortRow) world.ports .ofPort
    events := .ofTable (host EventRow) world.events .ofEvent
    planets := .ofList (host PlanetRow) []
    minefields := .ofList (host MinefieldRow) []
    corps := .ofList (host CorpRow) []
    members := .ofList (host MemberRow) []
    messages := .ofList (host MessageRow) []
    logs := .ofList (host LogRow) []
    intel := .ofList (host IntelRow) [] }

namespace Relation

variable {α β ρ : Type} {relation : Relation ρ}

theorem rows_ofTable_id (host : Host α) (table : Table Nat α) :
    (ofTable host table id).rows = table :=
  Table.ext (List.map_id _)

theorem matches_ofTable {R : α → ρ → Prop} (host : Host ρ) {table : Table Nat α} {row : α → ρ}
    (reads : ∀ key value, table.get? key = some value → R value (row value)) :
    table.Matches .identity R (ofTable host table row).rows := by
  unfold Table.Matches ofTable
  rw [List.forall₂_map_right_iff, List.forall₂_same]
  exact fun entry listed => ⟨rfl, reads entry.1 entry.2 ((table.mem_entries_iff _ _).mp listed)⟩

variable [Row ρ]

theorem numbered_vacant (host : Host ρ) : (⟨.empty, 0, host⟩ : Relation ρ).Numbered :=
  ⟨nofun, nofun⟩

variable [LawfulRow ρ]

theorem Numbered.appendAll (numbered : relation.Numbered) (rows : List ρ) :
    (rows.foldl Relation.append relation).Numbered := by
  induction rows generalizing relation with
  | nil => exact numbered
  | cons row rest ih => exact ih (numbered.append row)

theorem numbered_ofList (host : Host ρ) (rows : List ρ) : (ofList host rows).Numbered :=
  (numbered_vacant host).appendAll rows

/-- What does not depend on their keys is known of the rows in order. -/
theorem Numbered.map_appendAll (numbered : relation.Numbered) {f : ρ → β}
    (keyless : ∀ key row, f (Row.withKey key row) = f row) (rows : List ρ) :
    (rows.foldl Relation.append relation).rows.values.map f =
      relation.rows.values.map f ++ rows.map f := by
  induction rows generalizing relation with
  | nil => simp
  | cons row rest ih =>
    rw [List.foldl_cons, ih (numbered.append row), numbered.values_append]
    simp [keyless]

theorem map_ofList (host : Host ρ) {f : ρ → β}
    (keyless : ∀ key row, f (Row.withKey key row) = f row) (rows : List ρ) :
    (ofList host rows).rows.values.map f = rows.map f :=
  (numbered_vacant host).map_appendAll keyless rows

end Relation

end Server

/-- Whether a game has just begun: nothing is founded, told or scanned, and what
there is fits its columns and is told apart. -/
structure World.Opening (world : World) : Prop where
  filed : world.Filed
  planets : world.planets = .empty
  corps : world.corps = .empty
  fields : world.minefields = .empty
  members : world.members = []
  logs : world.logs = []
  intel : world.intel = .empty
  usernames : world.players.Apart Player.handle
  seasons : ∀ id player, world.players.get? id = some player →
    ∃ season, world.seasons.get? player.season = some season ∧ season.name = player.seasonName
  events : world.events.Apart Event.place
  ports : ∀ id port, world.ports.get? id = some port → port.Fits

section Beginning

variable {clients : PlayerId → Identity} {settings : Settings} {world : World} {db : Database}

/-- Every opening can be put on a server. -/
theorem World.Opening.outset (opening : world.Opening) (host : (ρ : Type) → Host ρ)
    (injective : Function.Injective clients) :
    Outset clients .standard world (.opening host clients world) where
  mirror := {
    settings := rfl
    sectors := Relation.rows_ofTable_id _ _
    seasons := Relation.rows_ofTable_id _ _
    warps := by
      have listed : ((Database.opening host clients world).warps.rows.values.map fun row =>
          (row.source, row.target)) = world.warps.keys :=
        (Relation.map_ofList _ (fun _ _ => rfl) _).trans
          ((List.map_map ..).trans (List.map_id _))
      intro warp
      rw [← listed, List.mem_map]
    players := Relation.matches_ofTable _ fun id player found => ⟨rfl, by
      obtain ⟨season, stored, name⟩ := opening.seasons id player found
      refine PlayerRow.toPlayer_ofPlayer ?_
      have kept : (Database.opening host clients world).seasons.rows = world.seasons :=
        Relation.rows_ofTable_id _ _
      change _ = Database.seasonName _ player.season
      unfold Database.seasonName Relation.find?
      rw [kept, stored]
      exact name.symm⟩
    ports := Relation.matches_ofTable _ fun _ port _ => PortRow.toPort_ofPort port
    events := Relation.matches_ofTable _ fun _ event _ => EventRow.toEvent_ofEvent event
    planets := by rw [opening.planets]; exact .nil
    corps := by rw [opening.corps]; exact .nil
    fields := by rw [opening.fields]; exact .nil
    members := by rw [opening.members]; exact .nil
    logs := by rw [opening.logs]; exact .nil
    discoveries := by
      have listed : ((Database.opening host clients world).discoveries.rows.values.map fun row =>
          (row.player, row.sector)) = world.discoveries.keys :=
        (Relation.map_ofList _ (fun _ _ => rfl) _).trans
          ((List.map_map ..).trans (List.map_id _))
      rw [← listed]
      exact .of_forall₂ (List.forall₂_map_left_iff.mpr (List.forall₂_same.mpr fun _ _ => rfl))
        (.refl _)
    intel := by rw [opening.intel]; exact .of_forall₂ .nil (.refl _)
    planetsNumbered := Relation.numbered_ofList _ _
    corpsNumbered := Relation.numbered_ofList _ _
    fieldsNumbered := Relation.numbered_ofList _ _
    membersNumbered := Relation.numbered_ofList _ _
    messagesNumbered := Relation.numbered_ofList _ _
    logsNumbered := Relation.numbered_ofList _ _
    discoveriesNumbered := Relation.numbered_ofList _ _
    intelNumbered := Relation.numbered_ofList _ _ }
  clients := injective
  filed := opening.filed
  usernames := opening.usernames
  events := opening.events
  scans := by rw [opening.intel]; nofun
  ports := opening.ports

/-- A server answers as a game in memory. From the same outset, and for any
commands of any players at any times, the player reads from the server the
response that the game in memory gives, or both fail; planets and corporations
are numbered in the same order, though perhaps by other numbers. The server's
tables may go through their rows in any order, and may leave out keys. -/
theorem stores_agree (outset : Outset clients settings world db) (orders : List Order) :
    ∃ twins : Twinning, List.Forall₂ (Agree twins)
      (replies (World.serve settings) orders world)
      (replies (Database.serve clients) orders db) := by
  obtain ⟨twins, _, agree⟩ := outset.concord.replies outset.clients orders
  exact ⟨twins, agree⟩

end Beginning

/-- The drill with a season and a second player. -/
def Drill.crewed : World :=
  let season : Season := ⟨1, "Season 1", startTime⟩
  (docked.addSeason season).addPlayer (Settings.standard.newPlayer 8 "bea" 1 season startTime)

theorem Drill.crewed_opening : crewed.Opening where
  filed := ((docked_reachable.seed (.season _)).seed (.player _)).filed
  planets := rfl
  corps := rfl
  fields := rfl
  members := rfl
  logs := rfl
  intel := rfl
  usernames := by
    have apart : ∀ first ∈ crewed.players.entries, ∀ second ∈ crewed.players.entries,
        first.2.handle = second.2.handle → first.1 = second.1 := by decide +kernel
    intro a p b q name first second named named'
    exact apart _ ((crewed.players.mem_entries_iff a p).mpr first) _
      ((crewed.players.mem_entries_iff b q).mpr second) (named.trans named'.symm)
  seasons := by
    have named : ∀ entry ∈ crewed.players.entries,
        (crewed.seasons.get? entry.2.season).map (·.name) = some entry.2.seasonName := by
      decide +kernel
    intro id player found
    exact Option.map_eq_some_iff.mp
      (named _ ((crewed.players.mem_entries_iff id player).mpr found))
  events := by
    have none : crewed.events = .empty := rfl
    rw [none]
    exact .empty
  ports := by
    have fits : ∀ entry ∈ crewed.ports.entries, entry.2.sector ≤ counterMax ∧
        ∀ c ∈ Commodity.all, (entry.2.stock c).qty ≤ counterMax ∧
          (entry.2.stock c).baseQty ≤ counterMax ∧ (entry.2.stock c).basePrice ≤ counterMax := by
      decide +kernel
    intro id port found
    obtain ⟨sector, stocks⟩ := fits _ ((crewed.ports.mem_entries_iff id port).mpr found)
    refine ⟨sector, fun c => ?_⟩
    obtain ⟨qty, baseQty, basePrice⟩ := stocks c (by cases c <;> decide)
    exact ⟨qty, baseQty, basePrice⟩

/-- A host that goes through rows backwards and leaves out keys. -/
def Drill.contraryHost (ρ : Type) : Host ρ where
  order := List.reverse
  order_perm := List.reverse_perm
  next key := key + 10
  lt_next key := by omega

/-- The number of a player's client. -/
def Drill.clientOf (player : PlayerId) : Identity :=
  player + 100

/-- A player founds a corporation, another cannot found one of the same name and
joins it instead, the founder pays into its bank, and a stranger looks around. -/
def Drill.founding : List Order :=
  let order := fun (player : PlayerId) (request : Request) (fits : request.Fits) =>
    Order.ofRequest player 1000000000000 (by decide) (by decide) request fits
  [order 7 (namedRequest "CORP" "CREATE" "Acme") (by decide),
    order 8 (namedRequest "CORP" "CREATE" "ACME") (by decide),
    order 8 (namedRequest "CORP" "JOIN" "acme") (by decide),
    order 7 { Request.ofKind "CORP" with action := "DEPOSIT", quantity := 400 }
      (by decide),
    order 9 (.ofKind "SCAN") (by decide)]

/-- The founding comes to the same in memory and on a server of contrary hosts:
the name is taken, and the stranger gets no response. -/
theorem stores_agree_founding :
    (∃ twins : Twinning, List.Forall₂ (Agree twins)
      (replies (World.serve .standard) Drill.founding Drill.crewed)
      (replies (Database.serve Drill.clientOf) Drill.founding
        (.opening Drill.contraryHost Drill.clientOf Drill.crewed))) ∧
      (replies (World.serve .standard) Drill.founding Drill.crewed).map
        (fun reply => reply.toOption.map Response.ok) =
        [some true, some false, some true, some true, none] := by
  have injective : Function.Injective Drill.clientOf := fun _ _ same => Nat.add_right_cancel same
  exact ⟨stores_agree (Drill.crewed_opening.outset Drill.contraryHost injective) Drill.founding,
    by decide +kernel⟩

end Starlane
