import Starlane.Proofs.Flight
import Starlane.Proofs.Minelaying

/-!
# Moves and the map of a universe

The map that a document draws is the map of every world that it leads to. A move
is accepted exactly along a link of the document, or for an administrator to any
of its sectors; a sector with the number zero is no destination of either.
-/

namespace Starlane

namespace Json

/-- Every item of a list that is read was read from some value. -/
theorem mem_of_list? {α : Type} {item? : Json → Option α} {value : Json} {items : List α}
    (read : list? item? value = some items) {item : α} (listed : item ∈ items) :
    ∃ value, item? value = some item := by
  unfold list? at read
  split at read
  · next values =>
    induction values generalizing items with
    | nil =>
      cases read
      cases listed
    | cons first rest ih =>
      rw [List.mapM_cons] at read
      obtain ⟨head, own, read⟩ := Option.bind_eq_some_iff.mp read
      obtain ⟨tail, others, read⟩ := Option.bind_eq_some_iff.mp read
      cases read
      rcases List.mem_cons.mp listed with rfl | later
      · exact ⟨first, own⟩
      · exact ih later others
  · cases read

end Json

namespace Universe

variable {layout : Universe}

/-- Whether a universe links a sector to a number: by a link that leads there, or
by one that leads back and goes both ways. -/
def LinksTo (layout : Universe) (source : SectorId) (target : Int) : Prop :=
  (∃ link ∈ layout.warps, link.source = source ∧ (link.target : Int) = target) ∨
    ∃ link ∈ layout.warps, link.oneWay = false ∧ link.target = source ∧
      (link.source : Int) = target

/-- The directed warps are those of the links. -/
theorem mem_edges {source target : SectorId} :
    (source, target) ∈ layout.edges ↔ layout.LinksTo source target := by
  unfold edges LinksTo
  rw [(List.mergeSort_perm _ _).mem_iff, List.mem_eraseDups, List.mem_flatMap]
  simp only [Int.ofNat_inj, ← exists_or, ← and_or_left]
  refine exists_congr fun link => and_congr_right fun _ => ?_
  unfold WarpLink.edges
  cases link.oneWay <;> simp [eq_comm]

theorem linksTo_iff {source : SectorId} {target : Int} :
    layout.LinksTo source target ↔
      ∃ there, (source, there) ∈ layout.edges ∧ (there : Int) = target := by
  constructor
  · intro links
    have original := links
    rcases original with ⟨link, _, _, there⟩ | ⟨link, _, _, _, there⟩
    · exact ⟨link.target, mem_edges.mpr (there ▸ links), there⟩
    · exact ⟨link.source, mem_edges.mpr (there ▸ links), there⟩
  · rintro ⟨there, listed, rfl⟩
    exact mem_edges.mp listed

/-- A sector that is read has a counter for its number. -/
theorem sectorOfJson?_id {value : Json} {sector : Sector}
    (read : sectorOfJson? value = some sector) : sector.id ≤ counterMax := by
  unfold sectorOfJson? at read
  obtain ⟨fields, _, read⟩ := Option.bind_eq_some_iff.mp read
  split at read
  · next id name guarded fighters =>
    obtain ⟨number, given, read⟩ := Option.bind_eq_some_iff.mp read
    obtain ⟨_, _, read⟩ := Option.bind_eq_some_iff.mp read
    obtain ⟨_, _, read⟩ := Option.bind_eq_some_iff.mp read
    obtain ⟨_, _, read⟩ := Option.bind_eq_some_iff.mp read
    cases read
    obtain ⟨value, _, counted⟩ := Option.bind_eq_some_iff.mp given
    exact Json.counter?_le counted
  · cases read

/-- The sectors of a universe that is read have counters for their numbers. -/
theorem ofJson?_ids {value : Json} (read : ofJson? value = some layout) {sector : Sector}
    (listed : sector ∈ layout.sectors) : sector.id ≤ counterMax := by
  unfold ofJson? at read
  obtain ⟨fields, _, read⟩ := Option.bind_eq_some_iff.mp read
  split at read
  · next sectors _ _ _ =>
    obtain ⟨items, given, read⟩ := Option.bind_eq_some_iff.mp read
    obtain ⟨_, _, read⟩ := Option.bind_eq_some_iff.mp read
    obtain ⟨_, _, read⟩ := Option.bind_eq_some_iff.mp read
    cases read
    cases sectors with
    | none =>
      cases given
      cases listed
    | some value =>
      obtain ⟨item, own⟩ := Json.mem_of_list? given listed
      exact sectorOfJson?_id own
  · cases read

/-- The universe of a document has nothing wrong with it, and numbers its sectors
with counters. -/
theorem read_success {document : String} (success : Universe.read document = .ok layout) :
    layout.error? = none ∧ ∀ sector ∈ layout.sectors, sector.id ≤ counterMax := by
  unfold Universe.read at success
  split at success
  · cases success
  · next given parsed =>
    obtain ⟨value, _, read⟩ := Option.bind_eq_some_iff.mp parsed
    unfold validate at success
    split at success
    · cases success
    · next checked =>
      cases success
      exact ⟨checked, fun sector listed => ofJson?_ids read listed⟩

end Universe

namespace World

variable {layout : Universe} {world after : World}

/-- The worlds that a universe alone leads to: whatever happens next, and
additions by hand that leave the map as it is. -/
inductive Follows (layout : Universe) : World → Prop
  | laid : Follows layout (World.empty.addUniverse layout)
  | seed {world after : World} (before : Follows layout world) (seeded : world.Seeded after)
      (sectors : ∀ id, after.sectors.contains id = world.sectors.contains id)
      (warps : after.warps = world.warps) : Follows layout after
  | next {world after : World} (before : Follows layout world) (next : world.Next after) :
      Follows layout after

/-- Whether a world has the sectors and the warps of a universe and no others,
with its rows in order. -/
structure Maps (world : World) (layout : Universe) : Prop where
  filed : world.Filed
  rostered : world.Rostered
  keyed : world.sectors.KeyedBy (·.id)
  sectors : ∀ id, world.sectors.contains id = true ↔ ∃ sector ∈ layout.sectors, sector.id = id
  warps : ∀ warp, world.warps.contains warp = true ↔ warp ∈ layout.edges

/-- Nothing that happens next draws on the map. -/
theorem Next.map (next : world.Next after) (keyed : world.sectors.KeyedBy (·.id)) :
    (∀ id, after.sectors.contains id = world.sectors.contains id) ∧
      after.warps = world.warps := by
  constructor
  · obtain ⟨mustered, origins, same⟩ := next.musters
    intro id
    rw [same, Bool.eq_iff_iff]
    refine (Table.contains_insertAll mustered (·.id) fun sector => sector).trans
      (or_iff_right_of_imp ?_)
    rintro ⟨sector, among, rfl⟩
    obtain ⟨origin, listed, _, fighters, rfl⟩ := origins sector among
    exact Option.isSome_iff_exists.mpr ⟨origin, keyed.get?_of_mem listed⟩
  · cases next with
    | @join settings now id username =>
      obtain ⟨_, _, _, same⟩ := world.join_frame settings now id username
      rw [same]
    | command executed =>
      have kept : Kept fun mid => mid.warps = world.warps := by
        intro mid change same _
        cases change <;> exact same
      exact Storage.limited_keeps kept executed rfl
    | portTick | planetTick | protectorateTick => rfl
    | @eventTick γ _ now dice =>
      obtain ⟨_, _, _, same⟩ := world.eventTick_frame now dice
      rw [same]

/-- Every world that a universe leads to has its map. -/
theorem Follows.maps (follows : Follows layout world) : world.Maps layout := by
  induction follows with
  | laid =>
    have keyed : World.empty.sectors.KeyedBy (·.id) := nofun
    refine ⟨Filed.empty.seeded (.layout layout), Rostered.empty.seeded (.layout layout),
      keyed.insertAll layout.sectors, fun id => ?_, fun warp => ?_⟩
    · refine (Table.contains_insertAll layout.sectors (·.id) fun sector => sector).trans ?_
      exact or_iff_left nofun
    · refine (Table.contains_insertAll layout.edges (fun warp => warp) fun _ => ()).trans ?_
      simp [World.empty, Table.contains]
  | seed _ seeded sectors warps ih =>
    refine ⟨ih.filed.seeded seeded, ih.rostered.seeded seeded, seeded.sectors_keyed ih.keyed,
      fun id => ?_, fun warp => ?_⟩
    · rw [sectors, ih.sectors]
    · rw [warps, ih.warps]
  | next _ next ih =>
    obtain ⟨sectors, warps⟩ := next.map ih.keyed
    refine ⟨ih.filed.next next, ih.rostered.next ih.filed next, next.sectors_keyed ih.keyed,
      fun id => ?_, fun warp => ?_⟩
    · rw [sectors, ih.sectors]
    · rw [warps, ih.warps]

end World

namespace Plan

variable {target : Int}

/-- Among numbers in range only zero is no destination. -/
theorem exists_destination {reached : SectorId → Prop}
    (bounded : ∀ there, reached there → there ≤ counterMax) :
    (∃ there, destination? target = some there ∧ reached there) ↔
      target ≠ 0 ∧ ∃ there, reached there ∧ (there : Int) = target := by
  constructor
  · rintro ⟨there, destined, reaches⟩
    obtain ⟨low, _, same⟩ := destination?_eq_some.mp destined
    exact ⟨by omega, there, reaches, same⟩
  · rintro ⟨nonzero, there, reaches, same⟩
    have low : 1 ≤ there := by
      refine Nat.pos_of_ne_zero fun zero => nonzero ?_
      rw [← same, zero]
      rfl
    exact ⟨there, destination?_eq_some.mpr ⟨low, bounded there reaches, same⟩, reaches⟩

end Plan

/-- The cost of a move: one turn, or nothing for an administrator. -/
theorem Command.costFor_move (target : Int) (commander : Commander) :
    (Command.move target).costFor commander = if commander.isAdmin then 0 else 1 :=
  rfl

namespace World

variable {layout : Universe} {world : World} {settings : Settings} {now : Int}
  {player : PlayerId} {row : Player} {request : Request} {target : Int}

/-- Whether a row's player gets to a sector: by a warp, or as an administrator. -/
def Reaches (world : World) (row : Player) (there : SectorId) : Prop :=
  if row.isAdmin then world.sectors.contains there = true
  else world.warps.contains (row.sector, there) = true

theorem reaches_iff {there : SectorId} :
    world.Reaches row there ↔ if row.isAdmin then (world.lookup.sector there).isSome = true
      else world.lookup.hasWarp row.sector there = true := by
  rw [hasWarp_iff]
  rfl

/-- Who reaches a sector reaches one that exists. -/
theorem Maps.exist (maps : world.Maps layout) (checked : layout.error? = none)
    {there : SectorId} (reaches : world.Reaches row there) :
    world.sectors.contains there = true := by
  unfold Reaches at reaches
  split at reaches
  · exact reaches
  · have ends := Universe.edges_known checked ((maps.warps _).mp reaches)
    exact (maps.sectors there).mpr (List.mem_map.mp ends.2)

/-- An accepted move was to a destination that the player reached. -/
theorem reached_of_accepted (found : world.players.get? player = some row)
    (asked : Command.ofRequest request = .move target)
    (accepted :
      wasAccepted (Storage.execute settings now player request (.ofWorld world)).1 = true) :
    ∃ there, Plan.destination? target = some there ∧ world.Reaches row there := by
  obtain ⟨turns, stamp, paid⟩ :=
    (Command.move target).paidBy_frame world settings now player row
  cases ran : Storage.execute settings now player request (.ofWorld world) with
  | mk answer after =>
    rw [ran] at accepted
    cases answer with
    | error failure => cases accepted
    | ok response =>
      obtain ⟨other, effects, later, _, made⟩ := Storage.execute_accepted ran accepted
      cases found.symm.trans made.found
      have deed := made.deed
      rw [asked, paid] at deed
      cases deed with
      | informed informs => cases informs
      | @moved _ there _ destined reached => exact ⟨there, destined, reaches_iff.mpr reached⟩

/-- A move that a player can pay for is accepted if they reach its destination. -/
theorem Maps.accepted_of_reached (maps : world.Maps layout) (checked : layout.error? = none)
    (found : world.players.get? player = some row) (free : row.mustChangePassword = false)
    (asked : Command.ofRequest request = .move target)
    (turn : row.isAdmin = false → 1 ≤ (row.regenerate settings.turnRegenSeconds now).1.turns)
    {there : SectorId} (destined : Plan.destination? target = some there)
    (reaches : world.Reaches row there) :
    wasAccepted (Storage.execute settings now player request (.ofWorld world)).1 = true := by
  obtain ⟨turns, stamp, granted⟩ := row.regenerate_frame settings.turnRegenSeconds now
  rw [granted] at turn
  obtain ⟨_, _, paid⟩ := (Command.move target).paidBy_frame world settings now player row
  have affordable : (Command.move target).costFor (world.present settings now player row) ≤
      (world.present settings now player row).turns := by
    rw [Command.costFor_move, World.present, granted]
    split
    · exact Nat.zero_le _
    · next ordinary => exact turn (by simpa using ordinary)
  have permitted : (world.present settings now player row).mustChangePassword = false := by
    rw [World.present, granted]
    exact free
  have happening : world.lookup.event there now = .ok (world.eventAt there now) := rfl
  obtain ⟨effects, planned, arrived⟩ : ∃ effects,
      (Command.move target).plan world.lookup now
        ((Command.move target).paidBy (world.present settings now player row)) = .ok effects ∧
      effects.commander.sector = there := by
    refine ⟨_, Plan.move_planned destined ?_ happening, ?_⟩
    · rw [paid]
      exact reaches_iff.mp reaches
    · rw [Plan.arrival_eq]
  -- The player's new row is saved only where its sector exists.
  have outcome := Command.outcome_made permitted affordable planned
  rw [← asked] at outcome
  obtain ⟨response, executed, ok⟩ := Storage.execute_made maps.filed maps.rostered
    (congrArg Command.isLocal asked) found outcome (by
      rw [Effects.rewarded_player, Rank.award_frame, arrived]
      exact maps.exist checked reaches)
  rw [executed]
  exact ok

/-- A move that a player can pay for is accepted exactly to a destination that
they reach. -/
theorem Maps.move_accepted (maps : world.Maps layout) (checked : layout.error? = none)
    (found : world.players.get? player = some row) (free : row.mustChangePassword = false)
    (asked : Command.ofRequest request = .move target)
    (turn : row.isAdmin = false → 1 ≤ (row.regenerate settings.turnRegenSeconds now).1.turns) :
    wasAccepted (Storage.execute settings now player request (.ofWorld world)).1 = true ↔
      ∃ there, Plan.destination? target = some there ∧ world.Reaches row there := by
  refine ⟨reached_of_accepted found asked, ?_⟩
  rintro ⟨there, destined, reaches⟩
  exact maps.accepted_of_reached checked found free asked turn destined reaches

/-- What is seen of a sector shows the warps out of it, and only where there is
such a sector. -/
theorem shown_iff {sector : SectorId} :
    (∃ view, world.lookup.view sector now = .ok view ∧ ∃ warp ∈ view.warps, (warp : Int) = target) ↔
      world.sectors.contains sector = true ∧
        ∃ there, world.warps.contains (sector, there) = true ∧ (there : Int) = target := by
  have listed : ∀ there, there ∈ world.lookup.warpsFrom sector ↔
      world.warps.contains (sector, there) = true :=
    fun _ => mem_under.trans Table.mem_keys_iff
  cases found : world.sectors.get? sector with
  | none =>
    have unseen : world.lookup.view sector now = .error (.missing .sector sector) := by
      have missing : world.lookup.sector sector = none := found
      simp only [Lookup.view, Lookup.sectorOrFail, missing, bind, Except.bind]
    have absent : ¬ world.sectors.contains sector = true := by simp [Table.contains, found]
    refine iff_of_false ?_ fun present => absent present.1
    rintro ⟨view, seen, _⟩
    rw [unseen] at seen
    cases seen
  | some place =>
    have present : world.sectors.contains sector = true := by simp [Table.contains, found]
    obtain ⟨view, seen, warps⟩ : ∃ view, world.lookup.view sector now = .ok view ∧
        view.warps = world.lookup.warpsFrom sector := by
      have there : world.lookup.sector sector = some place := found
      simp only [Lookup.view, Lookup.sectorOrFail, there]
      exact ⟨_, rfl, rfl⟩
    simp only [seen, Except.ok.injEq, exists_eq_left', warps, listed, present, true_and]

end World

/-- On a world that the universe of a document leads to, a player without a
pending password change moves as the document says. One with a turn left gets
along its links, which are the warps that the view of their sector shows; an
administrator gets to all of its sectors; neither of them to the number zero. -/
theorem moves_follow_links {document : String} {layout : Universe}
    (read : Universe.read document = .ok layout) {world : World}
    (follows : World.Follows layout world) {player : PlayerId} {row : Player}
    (found : world.players.get? player = some row) (free : row.mustChangePassword = false)
    {settings : Settings} {now target : Int} {request : Request}
    (asked : Command.ofRequest request = .move target) :
    (row.isAdmin = false → 1 ≤ (row.regenerate settings.turnRegenSeconds now).1.turns →
      (wasAccepted (Storage.execute settings now player request (.ofWorld world)).1 = true ↔
        target ≠ 0 ∧ layout.LinksTo row.sector target)) ∧
    (layout.LinksTo row.sector target ↔
      ∃ view, world.lookup.view row.sector now = .ok view ∧
        ∃ warp ∈ view.warps, (warp : Int) = target) ∧
    (row.isAdmin = true →
      (wasAccepted (Storage.execute settings now player request (.ofWorld world)).1 = true ↔
        target ≠ 0 ∧ ∃ sector ∈ layout.sectors, (sector.id : Int) = target)) := by
  obtain ⟨checked, counters⟩ := Universe.read_success read
  have maps := follows.maps
  have counted : ∀ there, world.sectors.contains there = true → there ≤ counterMax := by
    intro there exist
    obtain ⟨sector, listed, rfl⟩ := (maps.sectors there).mp exist
    exact counters sector listed
  have warped : ∀ there, world.warps.contains (row.sector, there) = true ↔
      (row.sector, there) ∈ layout.edges := fun there => maps.warps (row.sector, there)
  have ends : ∀ {there}, (row.sector, there) ∈ layout.edges →
      world.sectors.contains row.sector = true ∧ world.sectors.contains there = true := by
    intro there listed
    obtain ⟨source, target⟩ := Universe.edges_known checked listed
    exact ⟨(maps.sectors _).mpr (List.mem_map.mp source),
      (maps.sectors _).mpr (List.mem_map.mp target)⟩
  refine ⟨fun plain turn => ?_, ?_, fun admin => ?_⟩
  · have reaches : world.Reaches row = fun there => (row.sector, there) ∈ layout.edges := by
      funext there
      simp only [World.Reaches, plain, Bool.false_eq_true, if_false, warped]
    rw [maps.move_accepted checked found free asked fun _ => turn, reaches,
      Plan.exists_destination fun there listed => counted there (ends listed).2,
      Universe.linksTo_iff]
  · simp only [World.shown_iff, Universe.linksTo_iff, warped]
    refine (and_iff_right_of_imp ?_).symm
    rintro ⟨there, listed, _⟩
    exact (ends listed).1
  · have reaches : world.Reaches row = fun there => world.sectors.contains there = true := by
      funext there
      simp only [World.Reaches, admin, if_true]
    rw [maps.move_accepted checked found free asked fun plain => absurd plain (by simp [admin]),
      reaches, Plan.exists_destination counted]
    simp only [maps.sectors]
    refine and_congr_right fun _ => ⟨?_, ?_⟩
    · rintro ⟨_, ⟨sector, listed, rfl⟩, same⟩
      exact ⟨sector, listed, same⟩
    · rintro ⟨sector, listed, same⟩
      exact ⟨sector.id, ⟨sector, listed, rfl⟩, same⟩

/-- A document with sectors at both ends of the range of numbers. -/
def Drill.straitsDocument : String :=
  "[[[0,\"Abyss\",false,0],[1,\"Gate\",false,0],[4294967295,\"Rim\",false,0]],
    [[0,1],[1,4294967295,true]]]"

/-- Its universe: the middle is linked to both ends, to one of them both ways. -/
def Drill.straits : Universe where
  sectors := [openSector 0 "Abyss", openSector 1 "Gate", openSector counterMax "Rim"]
  warps := [twoWay 0 1, ⟨1, counterMax, true⟩]
  ports := []

theorem Drill.straits_read : Universe.read straitsDocument = .ok straits := by decide +kernel

/-- The straits with a pilot in the middle. -/
def Drill.gate : World :=
  (World.empty.addUniverse straits).addPlayer
    (Settings.standard.newPlayer 7 "ada" 1 ⟨1, "Season 1", startTime⟩ startTime)

theorem Drill.gate_follows : World.Follows straits gate :=
  .seed .laid (.player _) (fun _ => rfl) rfl

/-- The pilot gets along the link to the largest number. -/
theorem moves_follow_links_rim :
    wasAccepted (Storage.execute Settings.standard Drill.startTime 7 (Drill.moveTo counterMax)
      (.ofWorld Drill.gate)).1 = true := by
  have asked : Command.ofRequest (Drill.moveTo counterMax) = .move counterMax := by decide +kernel
  obtain ⟨row, found, free, plain, turn, here⟩ : ∃ row, Drill.gate.players.get? 7 = some row ∧
      row.mustChangePassword = false ∧ row.isAdmin = false ∧
      1 ≤ (row.regenerate Settings.standard.turnRegenSeconds Drill.startTime).1.turns ∧
      row.sector = 1 := ⟨_, rfl, rfl, rfl, by decide +kernel, rfl⟩
  obtain ⟨accepted, _⟩ := moves_follow_links Drill.straits_read Drill.gate_follows found free
    asked
  refine (accepted plain turn).mpr ⟨by decide, ?_⟩
  rw [here]
  exact .inl ⟨⟨1, counterMax, true⟩, by decide, rfl, rfl⟩

/-- The pilot does not get along the link to zero, although the document has it
both ways and the view of their sector shows it. -/
theorem moves_refused_to_zero :
    Universe.read Drill.straitsDocument = .ok Drill.straits ∧
    World.Follows Drill.straits Drill.gate ∧
    (∃ row, Drill.gate.players.get? 7 = some row ∧ row.mustChangePassword = false ∧
      row.isAdmin = false ∧
      1 ≤ (row.regenerate Settings.standard.turnRegenSeconds Drill.startTime).1.turns ∧
      Drill.straits.LinksTo row.sector 0) ∧
    Command.ofRequest (Drill.moveTo 0) = .move 0 ∧
    wasAccepted (Storage.execute Settings.standard Drill.startTime 7 (Drill.moveTo 0)
      (.ofWorld Drill.gate)).1 = false := by
  refine ⟨Drill.straits_read, Drill.gate_follows, ⟨_, rfl, rfl, rfl, by decide +kernel, ?_⟩,
    by decide +kernel, by decide +kernel⟩
  exact .inr ⟨Drill.twoWay 0 1, by decide, rfl, rfl, rfl⟩

end Starlane
