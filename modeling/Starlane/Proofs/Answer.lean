import Starlane.Proofs.Admission
import Starlane.Proofs.Course
import Starlane.Proofs.Planning
import Starlane.Proofs.Range

/-!
# Every command of a player is answered

A command fails only where a record is missing: the player, their sector, or
their corporation. Players are in sectors that exist, and warps lead to sectors
that exist; with the rosters in order, no record is missing after any history
that starts from checked universes. So a command is answered unless it ends the
program with an overflow, which large settings and ports make possible.
-/

namespace Starlane

namespace Table

variable {κ α β : Type} [Key κ] [DecidableEq κ] {table : Table κ α}

theorem mem_keys_iff {key : κ} : key ∈ table.keys ↔ table.contains key = true := by
  unfold keys
  rw [List.mem_map]
  constructor
  · rintro ⟨entry, listed, rfl⟩
    have found := (mem_entries_iff table entry.1 entry.2).mp listed
    exact Option.isSome_iff_exists.mpr ⟨entry.2, found⟩
  · intro present
    obtain ⟨value, found⟩ := Option.isSome_iff_exists.mp present
    exact ⟨(key, value), (mem_entries_iff table key value).mpr found, rfl⟩

theorem contains_insert {key other : κ} {value : α} :
    (table.insert key value).contains other = true ↔
      key = other ∨ table.contains other = true := by
  unfold contains
  rw [get?_insert]
  split
  · next same => simp [same]
  · next different => simp [Ne.symm different]

theorem contains_insertAll {key : κ} (values : List β) (keyOf : β → κ) (valueOf : β → α) :
    (values.foldl (fun table value => table.insert (keyOf value) (valueOf value)) table).contains
      key = true ↔ (∃ value ∈ values, keyOf value = key) ∨ table.contains key = true := by
  induction values generalizing table with
  | nil => simp
  | cons value rest ih =>
    rw [List.foldl_cons, ih, contains_insert]
    simp only [List.mem_cons, exists_eq_or_imp]
    rw [or_left_comm, or_assoc]

end Table

/-- A warp is found where it starts. -/
theorem World.hasWarp_iff {world : World} {source target : SectorId} :
    world.lookup.hasWarp source target = true ↔
      world.warps.contains (source, target) = true :=
  List.contains_iff_mem.trans (mem_under.trans Table.mem_keys_iff)

/-- The links of a checked universe are between its sectors. -/
theorem Universe.edges_known {layout : Universe} (checked : layout.error? = none)
    {edge : SectorId × SectorId} (listed : edge ∈ layout.edges) :
    edge.1 ∈ layout.sectors.map (·.id) ∧ edge.2 ∈ layout.sectors.map (·.id) := by
  unfold error? at checked
  simp only [Option.or_eq_none_iff, List.findSome?_eq_none_iff] at checked
  obtain ⟨⟨_, linked⟩, _⟩ := checked
  unfold edges at listed
  rw [(List.mergeSort_perm _ _).mem_iff, List.mem_eraseDups, List.mem_flatMap] at listed
  obtain ⟨link, among, directed⟩ := listed
  have sound := linked link among
  unfold linkError? at sound
  split at sound
  · cases sound
  · split at sound
    · next known =>
      simp only [Bool.and_eq_true, List.contains_iff_mem] at known
      unfold WarpLink.edges at directed
      split at directed
      · rw [List.mem_singleton.mp directed]
        exact known
      · rcases List.mem_cons.mp directed with rfl | back
        · exact known
        · rw [List.mem_singleton.mp back]
          exact known.symm
    · cases sound

namespace World

variable {world after : World}

/-- Whether players are in sectors that exist, and warps lead to such sectors. -/
structure Anchored (world : World) : Prop where
  located : ∀ id row, world.players.get? id = some row →
    world.sectors.contains row.sector = true
  linked : ∀ source target, world.warps.contains (source, target) = true →
    world.sectors.contains target = true

theorem Anchored.empty : World.empty.Anchored where
  located := by simp [World.empty]
  linked := by simp [World.empty, Table.contains]

/-- Sectors may come, and players may go to sectors that exist. -/
theorem Anchored.transfer (anchored : world.Anchored)
    (sectors : ∀ id, world.sectors.contains id = true → after.sectors.contains id = true)
    (warps : after.warps = world.warps)
    (located : ∀ id row, after.players.get? id = some row →
      world.sectors.contains row.sector = true) : after.Anchored where
  located id row found := sectors _ (located id row found)
  linked source target present := by
    rw [warps] at present
    exact sectors _ (anchored.linked source target present)

/-- A player's row with a sector that exists. -/
theorem Anchored.moved (anchored : world.Anchored) {player : Player}
    (there : world.sectors.contains player.sector = true) (id : PlayerId)
    (players : after.players = world.players.insert id player)
    (sectors : after.sectors = world.sectors) (warps : after.warps = world.warps) :
    after.Anchored := by
  refine anchored.transfer (fun id present => sectors ▸ present) warps fun other row found => ?_
  rw [players, Table.get?_insert] at found
  split at found
  · cases found
    exact there
  · exact anchored.located other row found

/-- A checked universe anchors its own warps. -/
theorem Anchored.addUniverse (anchored : world.Anchored) {layout : Universe}
    (checked : layout.error? = none) : (world.addUniverse layout).Anchored := by
  have sectors : ∀ id, (world.addUniverse layout).sectors.contains id = true ↔
      (∃ sector ∈ layout.sectors, sector.id = id) ∨ world.sectors.contains id = true :=
    fun _ => Table.contains_insertAll layout.sectors (·.id) fun sector => sector
  constructor
  · intro id row found
    exact (sectors _).mpr (.inr (anchored.located id row found))
  · intro source target present
    have warps := (Table.contains_insertAll layout.edges (fun warp => warp) fun _ => ()).mp present
    rcases warps with ⟨edge, listed, same⟩ | before
    · obtain ⟨sector, among, own⟩ := List.mem_map.mp (layout.edges_known checked listed).2
      refine (sectors _).mpr (.inl ⟨sector, among, ?_⟩)
      rw [own]
      exact congrArg Prod.snd same
    · exact (sectors _).mpr (.inr (anchored.linked source target before))

end World

/-- Who moves goes to a sector that exists; all others stay where they are. -/
theorem Deed.located {world : World} {now : Int} {commander : Commander} {command : Command}
    {effects : Effects} (deed : Deed world.lookup now commander command effects)
    (anchored : world.Anchored) (here : world.sectors.contains commander.sector = true) :
    world.sectors.contains effects.commander.sector = true := by
  cases deed with
  | @moved target there event _ reached =>
    rw [Plan.arrival_eq]
    change world.sectors.contains there = true
    split at reached
    · exact reached
    · exact anchored.linked commander.sector there (World.hasWarp_iff.mp reached)
  | _ => exact here

/-- No write touches sectors or warps. -/
theorem World.writtenAll_map (world : World) (changes : List Write) :
    (world.writtenAll changes).sectors = world.sectors ∧
      (world.writtenAll changes).warps = world.warps := by
  constructor
  · refine World.writtenAll_untouched (·.sectors) (fun change _ world => ?_) world
    cases change <;> rfl
  · refine World.writtenAll_untouched (·.warps) (fun change _ world => ?_) world
    cases change <;> rfl

namespace World

variable {world after : World}

/-- Steps keep a world anchored. -/
theorem Anchored.step {settings : Settings} {what : Occurrence} (anchored : world.Anchored)
    (filed : world.Filed) (step : Step settings world what after) : after.Anchored := by
  cases step with
  | @join now id username =>
    obtain ⟨seasons, same | ⟨start, season, known, same⟩⟩ :=
      world.join_cases settings now id username
    · rw [same]
      exact anchored.transfer (fun _ present => present) rfl anchored.located
    · rw [same]
      have there : world.sectors.contains start = true := Table.mem_keys_iff.mp known
      exact @Anchored.moved _ _ anchored (settings.newPlayer id username start season now) there
        id rfl rfl rfl
  | @command now player request answer final executed =>
    rcases Storage.execute_cases executed with ⟨_, _, rfl⟩ | ⟨_, row, later, _, rfl, refused⟩ |
      ⟨_, row, effects, later, _, rfl, accepted⟩
    · exact anchored
    · obtain ⟨turns, stamp, granted⟩ := row.regenerate_frame settings.turnRegenSeconds now
      change later.Anchored
      rw [refused.committed, granted]
      have here := anchored.located player row refused.found
      exact @Anchored.moved _ _ anchored { row with turns, regenStamp := stamp } here row.id
        rfl rfl rfl
    · have own : row.id = player := filed.players player row accepted.found
      obtain ⟨experience, logs, same⟩ := accepted.state own
      obtain ⟨turns, stamp, paid⟩ :=
        Command.paidBy_frame (.ofRequest request) world settings now player row
      have there : world.sectors.contains effects.commander.sector = true := by
        refine accepted.deed.located anchored ?_
        rw [paid]
        exact anchored.located player row accepted.found
      change later.Anchored
      rw [same]
      refine anchored.moved ?_ player rfl (world.writtenAll_map _).1 (world.writtenAll_map _).2
      rw [Rank.award_frame]
      exact there
  | portTick | planetTick => exact anchored.transfer (fun _ present => present) rfl anchored.located
  | @protectorateTick γ _ dice =>
    refine anchored.transfer (fun id present => ?_) rfl anchored.located
    refine (Table.contains_insertAll (Protectorate.muster dice world.sectors.values).1 (·.id)
      fun sector => sector).mpr (.inr present)
  | @eventTick γ _ now dice =>
    obtain ⟨_, _, _, same⟩ := world.eventTick_frame now dice
    rw [same]
    exact anchored.transfer (fun _ present => present) rfl anchored.located

theorem sectorOrFail_contains {id : SectorId} (present : world.sectors.contains id = true) :
    ∃ sector, world.lookup.sectorOrFail id = .ok sector := by
  obtain ⟨sector, found⟩ := Option.isSome_iff_exists.mp present
  exact ⟨sector, by simp [Lookup.sectorOrFail, World.lookup, found]⟩

/-- A world has what the plans of its players read. -/
theorem Anchored.serves (anchored : world.Anchored) (rostered : world.Rostered)
    (filed : world.Filed) {player : PlayerId} {row : Player}
    (found : world.players.get? player = some row) (settings : Settings) (now : Int) :
    world.lookup.Serves now (world.present settings now player row) where
  sector := by
    obtain ⟨turns, stamp, granted⟩ := row.regenerate_frame settings.turnRegenSeconds now
    have here := sectorOrFail_contains (anchored.located player row found)
    rw [World.present, granted]
    exact here
  corp := by
    intro membership belongs
    obtain ⟨_, corp, _, _, _, present, _⟩ := rostered.membership_line filed belongs
    exact ⟨corp, by simp [Lookup.corpOrFail, World.lookup, present]⟩
  port _ := ⟨_, rfl⟩
  members _ := ⟨_, rfl⟩
  event _ := ⟨_, rfl⟩
  events := ⟨_, rfl⟩
  intel := ⟨_, rfl⟩

/-- A commander in a sector that exists gets a response. -/
theorem respond_located {commander : Commander}
    (here : world.sectors.contains commander.sector = true) (shown : Nat) (now : Int)
    (message : String) (refusal : Option Refusal) :
    ∃ response, world.lookup.respond shown now commander message refusal = .ok response := by
  obtain ⟨sector, found⟩ := sectorOrFail_contains here
  cases responded : world.lookup.respond shown now commander message refusal with
  | ok response => exact ⟨response, rfl⟩
  | error failure =>
    unfold Lookup.respond Lookup.view at responded
    rw [found] at responded
    cases responded

end World

/-- No command fails on a lookup that serves the commander: it is refused, if it stops. -/
theorem Command.outcome_served {look : Lookup} {now : Int} {commander : Commander}
    (serves : look.Serves now commander) {command : Command} {halt : Halt}
    (stopped : command.outcome look now commander = .error halt) :
    ∃ reason, halt = .refused [] reason := by
  cases outcome_stop stopped with
  | refused reason => exact ⟨reason, rfl⟩
  | failed failure unserved =>
    exact absurd ⟨serves.sector, serves.corp, serves.port, serves.members, serves.event,
      serves.events, serves.intel⟩ unserved

namespace Storage

variable {world : World}

/-- A request with writes that are admitted, for a commander in a sector that
exists, is settled. -/
theorem settle_admitted {commander : Commander} {changes : List Write}
    (admitted : world.AdmitsAll changes)
    (here : world.sectors.contains commander.sector = true) (settings : Settings) (now : Int)
    (message : String) (refusal : Option Refusal) :
    ∃ response after, Store.settle settings now commander message refusal changes
      (ofWorld world) = (.ok response, after) := by
  have there : (world.writtenAll changes).sectors.contains commander.sector = true := by
    rw [(world.writtenAll_map changes).1]
    exact here
  obtain ⟨response, answered⟩ := World.respond_located there
    (Settings.shownLogs settings.recentLogLimit) now message refusal
  refine ⟨response, ofWorld (world.writtenAll changes), ?_⟩
  unfold Store.settle
  rw [writeAll_admitted admitted]
  exact congrArg (·, _) answered

/-- A player's request on a world in order is answered. -/
theorem execute_answers (anchored : world.Anchored) (rostered : world.Rostered)
    (filed : world.Filed) {player : PlayerId} (joined : world.players.contains player = true)
    (settings : Settings) (now : Int) (request : Request) :
    ∃ response after, execute settings now player request (ofWorld world) =
      (.ok response, after) := by
  obtain ⟨row, found⟩ := Option.isSome_iff_exists.mp joined
  have own : row.id = player := filed.players player row found
  have located := anchored.located player row found
  obtain ⟨turns, stamp, granted⟩ := row.regenerate_frame settings.turnRegenSeconds now
  have loaded : (world.lookup.commander player) =
      .ok { toPlayer := row, membership := world.membershipOf player } := by
    simp [World.lookup, World.commander, found]
  suffices answered : ∃ response after, Store.execute settings now player request
      (ofWorld world) = (.ok response, after) by
    obtain ⟨response, after, ran⟩ := answered
    exact ⟨response, after, by rw [execute, transaction, ran]⟩
  have serves := anchored.serves rostered filed found settings now
  unfold Store.execute
  dsimp only
  rw [show (Store.lookup (ofWorld world)).commander player = _ from loaded]
  dsimp only
  generalize planned : (Command.ofRequest request).outcome _ now _ = outcome
  have planned : (Command.ofRequest request).outcome world.lookup now
      (world.present settings now player row) = outcome := planned
  cases outcome with
  | ok result =>
    obtain ⟨_, _, effects, deed, same⟩ := Command.outcome_success planned
    obtain ⟨turns, stamp, paid⟩ :=
      (Command.ofRequest request).paidBy_frame world settings now player row
    rw [paid] at deed
    rw [same]
    refine settle_admitted (deed.admitted_all rostered filed (congrArg world.membershipOf own.symm)
      (own ▸ joined) _) ?_ settings now _ _
    rw [Effects.rewarded_player, Rank.award_frame]
    exact deed.located anchored located
  | error halt =>
    obtain ⟨reason, rfl⟩ := Command.outcome_served serves planned
    refine settle_admitted (.single ?_) ?_ settings now _ _
    · change world.players.contains (row.regenerate settings.turnRegenSeconds now).1.id = true
      rw [granted]
      exact own ▸ joined
    · change world.sectors.contains (row.regenerate settings.turnRegenSeconds now).1.sector = true
      rw [granted]
      exact located

end Storage

namespace World

variable {world after : World} {joined : List PlayerId}

/-- The worlds that checked universes, players who join and all other steps
lead to, with the players who joined. -/
inductive Founded : List PlayerId → World → Prop
  | empty : Founded [] World.empty
  | layout {joined : List PlayerId} {world : World} {layout : Universe}
      (before : Founded joined world) (checked : layout.error? = none) :
      Founded joined (world.addUniverse layout)
  | join {joined : List PlayerId} {world after : World} {settings : Settings} {now : Int}
      {id : PlayerId} {username : String} {player : Player} (before : Founded joined world)
      (fresh : world.players.get? id = none)
      (success : world.join settings now id username = (.ok player, after)) :
      Founded (id :: joined) after
  | step {joined : List PlayerId} {settings : Settings} {world after : World} {what : Occurrence}
      (before : Founded joined world) (step : Step settings world what after) :
      Founded joined after

theorem step_of_join {settings : Settings} {now : Int} {id : PlayerId} {username : String}
    {player : Player} (fresh : world.players.get? id = none)
    (success : world.join settings now id username = (.ok player, after)) :
    Step settings world (.joined id) after := by
  have same : (world.join settings now id username).2 = after := congrArg Prod.snd success
  rw [← same]
  exact .join fresh

theorem Founded.reachable (founded : Founded joined world) : world.Reachable := by
  induction founded with
  | empty => exact .empty
  | layout _ _ ih => exact .seed ih (.layout _)
  | join _ fresh success ih => exact .step ih (step_of_join fresh success)
  | step _ step ih => exact .step ih step

theorem Founded.anchored (founded : Founded joined world) : world.Anchored := by
  induction founded with
  | empty => exact .empty
  | layout _ checked ih => exact ih.addUniverse checked
  | join before fresh success ih =>
    exact ih.step before.reachable.filed (step_of_join fresh success)
  | step before step ih => exact ih.step before.reachable.filed step

/-- A player who joins has a row. -/
theorem join_contains {settings : Settings} {now : Int} {id : PlayerId} {username : String}
    {player : Player} (success : world.join settings now id username = (.ok player, after)) :
    after.players.contains id = true := by
  unfold join at success
  dsimp only at success
  split at success
  · cases success
  · cases success
    exact Table.contains_insert.mpr (.inl rfl)

/-- No step removes a player. -/
theorem players_stay {settings : Settings} {what : Occurrence}
    (step : Step settings world what after) {player : PlayerId}
    (present : world.players.contains player = true) : after.players.contains player = true := by
  cases step with
  | @join now id username =>
    obtain ⟨seasons, same | ⟨_, _, _, same⟩⟩ := world.join_cases settings now id username
    · rw [same]
      exact present
    · rw [same]
      exact Table.contains_insert.mpr (.inr present)
  | command executed =>
    have kept : Kept fun world => world.players.contains player = true := by
      intro world change present _
      cases change with
      | savePlayer => exact Table.contains_insert.mpr (.inr present)
      | _ => exact present
    exact Storage.execute_keeps kept executed present
  | portTick | planetTick | protectorateTick => exact present
  | @eventTick γ _ now dice =>
    obtain ⟨_, _, _, same⟩ := world.eventTick_frame now dice
    rw [same]
    exact present

theorem Founded.enrolled (founded : Founded joined world) :
    ∀ player ∈ joined, world.players.contains player = true := by
  induction founded with
  | empty => simp
  | layout _ _ ih => exact ih
  | join _ fresh success ih =>
    intro player listed
    rcases List.mem_cons.mp listed with rfl | earlier
    · exact join_contains success
    · exact players_stay (step_of_join fresh success) (ih player earlier)
  | step _ step ih => exact fun player listed => players_stay step (ih player listed)

end World

/-- No command fails of whoever joined a game on checked universes, and each one is
answered in which no number overflows. -/
theorem players_are_answered {joined : List PlayerId} {world : World}
    (founded : World.Founded joined world) {player : PlayerId} (member : player ∈ joined)
    (settings : Settings) (now : Int) (request : Request) :
    (∀ failure after, Storage.serve? settings now player request (.ofWorld world) ≠
      some (.error failure, after)) ∧
    (Store.aborts settings now player request (Storage.ofWorld world) = false →
      ∃ response after, Storage.serve? settings now player request (.ofWorld world) =
        some (.ok response, after)) := by
  obtain ⟨response, after, executed⟩ := Storage.execute_answers founded.anchored
    founded.reachable.rostered founded.reachable.filed (founded.enrolled player member) settings now
    request
  unfold Storage.serve?
  rw [executed]
  constructor
  · intro failure final
    split <;> simp
  · intro fits
    exact ⟨response, after, by simp [fits]⟩

/-- A universe of two sectors with a warp one way, whose ports hold and want as much as
there can be, the one at the lowest and the other at the highest price. -/
def Drill.bazaar (source target : SectorId) : Universe where
  sectors := [⟨1, "Sol", true, 120⟩, openSector 2 "Vega"]
  warps := [⟨source, target, true⟩]
  ports := [⟨1, .ofFn fun _ => fullStock counterMax 1 0⟩,
    ⟨2, .ofFn fun _ => demand 0 counterMax counterMax 0⟩]

/-- The bazaar with warps both ways and a pilot with some cargo space. -/
def Drill.frequented (cargoMax : Nat) : World :=
  (((World.empty.addUniverse (bazaar 1 2)).addUniverse (bazaar 2 1)).join (spacious cargoMax)
    startTime 7 "ada").2

theorem Drill.frequented_founded (cargoMax : Nat) : World.Founded [7] (frequented cargoMax) := by
  have outward : (bazaar 1 2).error? = none := by decide
  have homeward : (bazaar 2 1).error? = none := by decide
  exact .join (.layout (.layout .empty outward) homeward) rfl rfl

/-- A newcomer to the bazaar moves to the second sector. -/
theorem players_are_answered_newcomer :
    ∃ response after, Storage.serve? .standard Drill.startTime 7 (Drill.moveTo 2)
      (.ofWorld (Drill.frequented 30)) = some (.ok response, after) :=
  (players_are_answered (Drill.frequented_founded 30) (.head _) _ _ _).2 (by decide +kernel)

/-- The pilot of the bazaar has looked at both ports. -/
def Drill.informed (cargoMax : Nat) : World :=
  asked 7 (.ofKind "SCAN") (asked 7 (moveTo 2) (asked 7 (.ofKind "SCAN") (frequented cargoMax)))

theorem Drill.asked_founded {joined : List PlayerId} {world : World}
    (founded : World.Founded joined world) (player : PlayerId) (request : Request) :
    World.Founded joined (asked player request world) :=
  .step founded (.command rfl)

theorem Drill.informed_founded (cargoMax : Nat) : World.Founded [7] (informed cargoMax) :=
  asked_founded (asked_founded (asked_founded (frequented_founded cargoMax) 7 _) 7 _) 7 _

/-- The pilot then. -/
def Drill.pilot : Player :=
  { (spacious counterMax).newPlayer 7 "ada" 2 ⟨1, "Season 1", startTime⟩ startTime with
    xp := 30, turns := 97 }

/-- A command ends the program whose text cannot be computed. -/
theorem Store.aborts_of_untold {σ : Type} [Store σ] {settings : Settings} {now : Int}
    {player : PlayerId} {request : Request} {store : σ} {loaded commander : Commander}
    {command : Command} (loads : (lookup store).commander player = .ok loaded)
    (granted : loaded.regenerate settings.turnRegenSeconds now = commander)
    (order : Command.ofRequest request = command)
    (planned : (command.outcome (lookup store) now commander).isOk = true)
    (untold : command.textFits (lookup store) now commander = false)
    (opened : (writeAll (command.opening now commander) store).1.isOk = true) :
    aborts settings now player request store = true := by
  unfold aborts
  dsimp only
  rw [loads]
  dsimp only
  rw [granted, order, planned, untold, opened]
  exact Bool.or_true _

/-- The best trip at the bazaar brings a ship of the largest cargo space more than an amount can
show. -/
theorem Drill.informed_aborts :
    Store.aborts (spacious counterMax) startTime 7 (.ofKind "ROUTE")
      (Storage.ofWorld (informed counterMax)) = true := by
  have found : (informed counterMax).players.get? 7 = some pilot := by decide +kernel
  have alone : (informed counterMax).membershipOf 7 = none := by decide +kernel
  have loads : (informed counterMax).lookup.commander 7 = .ok ⟨pilot, none⟩ := by
    simp [World.lookup, World.commander, found, alone]
  -- The scans are listed as they are sorted.
  have listed : (informed counterMax).intelOf 7 =
      ((informed counterMax).intel.entries.filter fun entry => entry.1.1 == 7).map (·.2) := by
    refine List.mergeSort_of_pairwise ?_
    decide +kernel
  have untold : (Command.route none).textFits (informed counterMax).lookup startTime
      ⟨pilot, none⟩ = false := by
    change (!Route.overflows startTime 2 counterMax _ ((informed counterMax).intelOf 7) none) =
      false
    rw [listed]
    decide +kernel
  exact Store.aborts_of_untold loads (by decide +kernel) (by decide +kernel) (by decide +kernel)
    untold rfl

/-- A world of checked universes may be met by a player whose upgrade of the cargo space, or
whose request for a route, ends the program: what it adds up or multiplies leaves its type. -/
theorem founded_requests_overflow :
    World.Founded [7] (Drill.frequented counterMax) ∧
    Storage.serve? (Drill.spacious counterMax) Drill.startTime 7
      (Drill.namedRequest "SHIPYARD" "UPGRADE" "CARGO")
      (.ofWorld (Drill.frequented counterMax)) = none ∧
    World.Founded [7] (Drill.informed counterMax) ∧
    Storage.serve? (Drill.spacious counterMax) Drill.startTime 7 (.ofKind "ROUTE")
      (.ofWorld (Drill.informed counterMax)) = none := by
  have upgrade : Store.aborts (Drill.spacious counterMax) Drill.startTime 7
      (Drill.namedRequest "SHIPYARD" "UPGRADE" "CARGO")
      (Storage.ofWorld (Drill.frequented counterMax)) = true := by
    decide +kernel
  refine ⟨Drill.frequented_founded _, ?_, Drill.informed_founded _, ?_⟩
  · rw [Storage.serve?, upgrade, if_pos rfl]
  · rw [Storage.serve?, Drill.informed_aborts, if_pos rfl]

end Starlane
