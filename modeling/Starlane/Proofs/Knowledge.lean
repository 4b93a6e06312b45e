import Starlane.Proofs.Answer
import Starlane.Proofs.Chronicle
import Starlane.Proofs.Ledger

/-!
# What players know

A player knows the sectors that they have been in, and of each sector what their
latest scan there found. Both are read off the chronicle of a course: a sector is
discovered on the page on which the player gets there, and only an accepted scan
renews or drops what its commander knows of the port.
-/

namespace Starlane

namespace World

/-- What a scan of a sector captures at a time, if there is a port. -/
def survey (world : World) (sector : SectorId) (now : Int) : Option Intel := do
  let port ← world.ports.get? sector
  let place ← world.sectors.get? sector
  return Intel.capture port place.name (world.eventAt sector now) now

end World

namespace Page

/-- Whether a player is in a sector at the end of a page. -/
def Locates (page : Page) (player : PlayerId) (sector : SectorId) : Prop :=
  ∃ row, page.after.players.get? player = some row ∧ row.sector = sector

/-- What an accepted scan of a sector by a player has found, if a page tells of
one. -/
def finding (page : Page) (player : PlayerId) (sector : SectorId) : Option (Option Intel) := do
  let petition ← page.petition
  let row ← page.before.players.get? petition.player
  if petition.player = player ∧ Command.ofRequest petition.request = .scan ∧
      wasAccepted petition.answer = true ∧ row.sector = sector then
    return page.before.survey sector petition.now
  else none

end Page

/-- A deed discovers the sector that its commander is in afterwards, or leaves
them where they were. -/
theorem Deed.explores {look : Lookup} {now : Int} {commander : Commander} {command : Command}
    {effects : Effects} (deed : Deed look now commander command effects) (world : World) :
    ((world.writtenAll effects.writes).discoveries = world.discoveries ∧
      effects.commander.sector = commander.sector) ∨
    (world.writtenAll effects.writes).discoveries =
      world.discoveries.insert (commander.id, effects.commander.sector) () := by
  have apart : Part.discoveries ∉ command.parts →
      (world.writtenAll effects.writes).discoveries = world.discoveries := fun apart =>
    World.writtenAll_discoveries (fun change member same => apart (same ▸ deed.parts change member))
      world
  cases deed with
  | scannedVoid | scannedPort => exact .inr rfl
  | @moved _ there =>
    -- The sector is discovered by the first write; the mines struck come after it.
    rw [Plan.arrival_eq]
    refine .inr (World.writtenAll_discoveries (fun change member => ?_)
      (world.written (.discover commander.id there)))
    rw [Plan.change_part member]
    nofun
  | informed => exact .inl ⟨rfl, rfl⟩
  | _ => exact .inl ⟨apart (by simp [Command.parts]), rfl⟩

/-- A deed renews what its commander knows of the port of their sector if it is a
scan, and changes nothing else that is known of ports. -/
theorem Deed.surveys {world : World} {now : Int} {commander : Commander} {command : Command}
    {effects : Effects} (deed : Deed world.lookup now commander command effects)
    (filed : world.Filed) (player : PlayerId) (sector : SectorId) :
    (world.writtenAll effects.writes).intel.get? (player, sector) =
      if commander.id = player ∧ command = .scan ∧ commander.sector = sector then
        world.survey sector now
      else world.intel.get? (player, sector) := by
  have apart : Part.intel ∉ command.parts →
      (world.writtenAll effects.writes).intel = world.intel := fun apart =>
    World.writtenAll_intel (fun change member same => apart (same ▸ deed.parts change member)) world
  have key : ∀ place : SectorId, (player, sector) = (commander.id, place) ↔
      commander.id = player ∧ place = sector := by
    intro place
    rw [Prod.mk.injEq, eq_comm, @eq_comm _ sector]
  cases deed with
  | scannedVoid empty =>
    have empty : world.ports.get? commander.sector = none := Except.ok.inj empty
    change (world.intel.erase _).get? _ = _
    rw [Table.get?_erase]
    simp only [key, true_and]
    split
    · next here => rw [← here.2, World.survey, empty]; rfl
    · rfl
  | @scannedPort port place event text found named happening =>
    have found : world.ports.get? commander.sector = some port := Except.ok.inj found
    have named : world.sectors.get? commander.sector = some place := named
    have event : world.eventAt commander.sector now = event := Except.ok.inj happening
    have own : port.sector = commander.sector := filed.ports _ port found
    change (world.intel.insert (commander.id, port.sector) _).get? _ = _
    rw [Table.get?_insert, own]
    simp only [key, true_and]
    split
    · next here => rw [← here.2, World.survey, found, named, event]; rfl
    · rfl
  | informed informs =>
    refine (if_neg ?_).symm
    rintro ⟨_, rfl, _⟩
    cases informs
  | _ =>
    rw [apart (by simp [Command.parts])]
    exact (if_neg (by simp)).symm

/-- Where a scan is accepted a survey has something exactly if there is a port. -/
theorem Deed.survey_isSome {world : World} {now : Int} {commander : Commander} {effects : Effects}
    (deed : Deed world.lookup now commander .scan effects) :
    (world.survey commander.sector now).isSome = world.ports.contains commander.sector := by
  cases deed with
  | informed informs => cases informs
  | scannedVoid empty =>
    have empty : world.ports.get? commander.sector = none := Except.ok.inj empty
    simp [World.survey, Table.contains, empty]
  | @scannedPort port place _ _ found named =>
    have found : world.ports.get? commander.sector = some port := Except.ok.inj found
    have named : world.sectors.get? commander.sector = some place := named
    simp [World.survey, Table.contains, found, named]

namespace World

variable {start world after : World}

/-- Whether players stay where they are, or one of them gets to a sector and
discovers it. -/
inductive Travels (world after : World) : Prop
  | stays (discoveries : after.discoveries = world.discoveries)
      (located : ∀ player row, after.players.get? player = some row →
        ∃ old, world.players.get? player = some old ∧ old.sector = row.sector)
  | visits {player : PlayerId} {row : Player}
      (players : after.players = world.players.insert player row)
      (discoveries : after.discoveries = world.discoveries.insert (player, row.sector) ())

/-- The same players stay where they are. -/
theorem Travels.same (players : after.players = world.players)
    (discoveries : after.discoveries = world.discoveries) : world.Travels after :=
  .stays discoveries fun _ row found => ⟨row, players ▸ found, rfl⟩

/-- A player whose row is saved in the same sector stays there. -/
theorem Travels.saved {player : PlayerId} {old row : Player}
    (found : world.players.get? player = some old) (here : old.sector = row.sector)
    (players : after.players = world.players.insert player row)
    (discoveries : after.discoveries = world.discoveries) : world.Travels after := by
  refine .stays discoveries fun other later stored => ?_
  rw [players, Table.get?_insert] at stored
  split at stored
  · next same =>
    cases stored
    exact ⟨old, same ▸ found, here⟩
  · exact ⟨later, stored, rfl⟩

/-- Whoever gets to another sector next, discovers it. -/
theorem Next.travels (next : world.Next after) (filed : world.Filed) : world.Travels after := by
  cases next with
  | @join settings now id username =>
    obtain ⟨seasons, same | ⟨_, _, _, same⟩⟩ := world.join_cases settings now id username
    · rw [same]
      exact .same rfl rfl
    · rw [same]
      exact .visits rfl rfl
  | @command settings now player request limit answer after executed =>
    rcases Storage.outcomes executed with ⟨_, _, same⟩ | ⟨_, row, _, refused⟩ |
      ⟨_, row, effects, _, accepted⟩
    · rw [same]
      exact .same rfl rfl
    · obtain ⟨turns, stamp, granted⟩ := row.regenerate_frame settings.turnRegenSeconds now
      obtain rfl : row.id = player := filed.players player row refused.found
      have stays : row.sector = (row.regenerate settings.turnRegenSeconds now).1.sector := by
        rw [granted]
      rw [refused.committed]
      refine .saved refused.found stays ?_ rfl
      rw [written, granted]
    · have own : row.id = player := filed.players player row accepted.found
      obtain ⟨experience, logs, same⟩ := accepted.state own
      obtain ⟨turns, stamp, paid⟩ :=
        Command.paidBy_frame (.ofRequest request) world settings now player row
      have deed := accepted.deed
      rw [paid] at deed
      have award := Rank.award_frame experience effects.commander.toPlayer
      rw [same]
      rcases deed.explores world with ⟨known, here⟩ | discovered
      · refine .saved accepted.found ?_ rfl known
        rw [award]
        exact here.symm
      · refine .visits rfl (discovered.trans ?_)
        rw [award]
        exact congrArg (fun id => world.discoveries.insert (id, _) ()) own
  | portTick | planetTick | protectorateTick => exact .same rfl rfl
  | @eventTick γ _ now dice =>
    obtain ⟨_, _, _, same⟩ := world.eventTick_frame now dice
    rw [same]
    exact .same rfl rfl

/-- Where everybody knows the sector that they are in, what is known next is what
was known before and where everybody then is. -/
theorem Travels.discovered (travels : world.Travels after)
    (located : ∀ player row, world.players.get? player = some row →
      world.discoveries.contains (player, row.sector) = true) (player : PlayerId)
    (sector : SectorId) :
    after.discoveries.contains (player, sector) = true ↔
      world.discoveries.contains (player, sector) = true ∨
        ∃ row, after.players.get? player = some row ∧ row.sector = sector := by
  cases travels with
  | stays discoveries stayed =>
    rw [discoveries]
    refine (or_iff_left_of_imp ?_).symm
    rintro ⟨row, found, rfl⟩
    obtain ⟨old, before, here⟩ := stayed player row found
    exact here ▸ located player old before
  | @visits visitor visiting players discoveries =>
    rw [discoveries, players, Table.contains_insert]
    constructor
    · rintro (same | known)
      · obtain ⟨rfl, rfl⟩ := Prod.mk.inj same
        exact .inr ⟨visiting, Table.get?_insert_self _ _ _, rfl⟩
      · exact .inl known
    · rintro (known | ⟨row, found, rfl⟩)
      · exact .inr known
      · rw [Table.get?_insert] at found
        split at found
        · next same =>
          cases found
          exact .inl (by rw [same])
        · exact .inr (located player row found)

end World

namespace Page

variable {page : Page} {player : PlayerId} {sector : SectorId}

/-- A petition that is not accepted finds nothing. -/
theorem finding_refused {before after : World} {petition : Petition}
    (refused : wasAccepted petition.answer = false) :
    finding ⟨before, some petition, after⟩ player sector = none := by
  simp only [finding, refused, Option.bind_eq_bind, Option.bind_some]
  cases before.players.get? petition.player <;> simp

/-- An accepted scan finds what the sector of its commander has. -/
theorem finding_accepted {before after : World} {petition : Petition} {row : Player}
    (accepted : wasAccepted petition.answer = true)
    (found : before.players.get? petition.player = some row) :
    finding ⟨before, some petition, after⟩ player sector =
      if petition.player = player ∧ Command.ofRequest petition.request = .scan ∧
          row.sector = sector then some (before.survey sector petition.now)
      else none := by
  simp [finding, accepted, found]

/-- What a player knows of a port after a page is what they found there on it, or
what they knew before. -/
theorem Occurs.intel (occurs : page.Occurs) (filed : page.before.Filed) (player : PlayerId)
    (sector : SectorId) :
    page.after.intel.get? (player, sector) =
      (page.finding player sector).getD (page.before.intel.get? (player, sector)) := by
  cases occurs with
  | @answered world petition limit after executed =>
    rcases Storage.outcomes executed with ⟨_, failed, same⟩ | ⟨_, row, answered, refused⟩ |
      ⟨_, row, effects, answered, accepted⟩
    · rw [finding_refused (by rw [failed]; rfl), same]
      rfl
    · rw [finding_refused (by rw [answered]; exact refused.refusal), refused.committed]
      rfl
    · have own : row.id = petition.player := filed.players petition.player row accepted.found
      obtain ⟨experience, logs, same⟩ := accepted.state own
      obtain ⟨turns, stamp, paid⟩ := Command.paidBy_frame (.ofRequest petition.request) world
        petition.settings petition.now petition.player row
      have deed := accepted.deed
      rw [paid] at deed
      have known := deed.surveys filed player sector
      have good : wasAccepted petition.answer = true := by
        rw [answered]
        exact accepted.accepted
      rw [finding_accepted good accepted.found, ← own, same]
      change (world.writtenAll effects.writes).intel.get? _ = _
      rw [known]
      change (if row.id = player ∧ _ ∧ row.sector = sector then _ else _) = _
      split <;> rfl
  | @join world settings now id username =>
    obtain ⟨_, _, _, same⟩ := world.join_frame settings now id username
    rw [same]
    rfl
  | portTick | planetTick | protectorateTick => rfl
  | @eventTick world γ _ now dice =>
    obtain ⟨_, _, _, same⟩ := world.eventTick_frame now dice
    rw [same]
    rfl

/-- An accepted scan of a sector finds something exactly if there is a port. -/
theorem Occurs.finding_isSome (occurs : page.Occurs) {found : Option Intel}
    (told : page.finding player sector = some found) :
    found.isSome = page.before.ports.contains sector := by
  cases occurs with
  | @answered world petition limit after executed =>
    rcases Storage.outcomes executed with ⟨_, failed, _⟩ | ⟨_, _, answered, refused⟩ |
      ⟨_, row, effects, answered, accepted⟩
    · rw [finding_refused (by rw [failed]; rfl)] at told
      cases told
    · rw [finding_refused (by rw [answered]; exact refused.refusal)] at told
      cases told
    · obtain ⟨turns, stamp, paid⟩ := Command.paidBy_frame (.ofRequest petition.request) world
        petition.settings petition.now petition.player row
      have deed := accepted.deed
      rw [finding_accepted (by rw [answered]; exact accepted.accepted) accepted.found] at told
      split at told
      · next scanned =>
        obtain ⟨_, scanning, rfl⟩ := scanned
        cases told
        rw [paid, scanning] at deed
        exact deed.survey_isSome
      · cases told
  | _ => cases told

end Page

/-- Whether what is known in a world is what some pages tell. -/
structure World.Recalls (world : World) (pages : List Page) : Prop where
  located : ∀ player row, world.players.get? player = some row →
    world.discoveries.contains (player, row.sector) = true
  discovered : ∀ player sector, world.discoveries.contains (player, sector) = true ↔
    ∃ page ∈ pages, page.Locates player sector
  scanned : ∀ player sector, world.intel.get? (player, sector) =
    (pages.filterMap fun page => page.finding player sector).getLast?.join

/-- From a start without players or knowledge, what is known is what the chronicle
tells. -/
theorem Chronicle.recalled {start world : World} {pages : List Page}
    (chronicle : Chronicle start pages world) (reachable : start.Reachable)
    (players : start.players = .empty) (discoveries : start.discoveries = .empty)
    (intel : start.intel = .empty) : world.Recalls pages := by
  induction chronicle with
  | start =>
    constructor
    · rw [players]
      exact nofun
    · intro player sector
      rw [discoveries]
      refine iff_of_false Bool.false_ne_true ?_
      rintro ⟨_, listed, _⟩
      cases listed
    · intro player sector
      rw [intel]
      rfl
  | @turn pages page chronicle occurs ih =>
    have before := (chronicle.leads.ordered reachable).1
    -- That everybody knows where they are is what makes staying discover nothing new.
    have discovered := (occurs.next.travels before).discovered ih.located
    constructor
    · intro player row found
      exact (discovered player row.sector).mpr (.inr ⟨row, found, rfl⟩)
    · intro player sector
      rw [discovered, ih.discovered]
      simp only [List.mem_append, List.mem_singleton, or_and_right, exists_or, exists_eq_left]
      rfl
    · intro player sector
      rw [occurs.intel before, ih.scanned, List.filterMap_append, List.getLast?_append]
      cases told : page.finding player sector <;> simp [told]

/-- What players know after any course from a start without players or knowledge,
such as a checked universe that has just been laid out. Discovered are the sectors
that they were in at the end of some page. What is known of a port is what the
latest accepted scan there found, which is something exactly if there was a port;
every other page leaves it alone. -/
theorem knowledge_is_history {start world : World} {pages : List Page}
    (reachable : start.Reachable) (players : start.players = .empty)
    (discoveries : start.discoveries = .empty) (intel : start.intel = .empty)
    (chronicle : Chronicle start pages world) :
    (∀ player sector, world.discoveries.contains (player, sector) = true ↔
      ∃ page ∈ pages, page.Locates player sector) ∧
    (∀ player sector, world.intel.get? (player, sector) =
      (pages.filterMap fun page => page.finding player sector).getLast?.join) ∧
    ∀ page ∈ pages, ∀ player sector,
      (∀ found, page.finding player sector = some found →
        found.isSome = page.before.ports.contains sector) ∧
      (page.finding player sector = none →
        page.after.intel.get? (player, sector) = page.before.intel.get? (player, sector)) := by
  have recalls := chronicle.recalled reachable players discoveries intel
  refine ⟨recalls.discovered, recalls.scanned, fun page listed player sector => ?_⟩
  obtain ⟨occurs, earlier, told⟩ := chronicle.page listed
  refine ⟨fun found finding => occurs.finding_isSome finding, fun none => ?_⟩
  rw [occurs.intel (told.leads.ordered reachable).1, none, Option.getD_none]

/-- The requests of a pilot who scans both sectors and buys in the second. -/
def Drill.tour : List (PlayerId × Request) :=
  [(7, Request.ofKind "SCAN"), (7, moveTo 2), (7, Request.ofKind "SCAN"),
    (7, cargoRequest "TRADE" "BUY" "ORE" 5)]

/-- The pilot still knows the stock that the port had before they bought. -/
theorem knowledge_is_history_stock :
    let world := Drill.askedAll Drill.settled Drill.tour
    world.discoveries.contains (7, 1) = true ∧ world.intel.get? (7, 1) = none ∧
    world.discoveries.contains (7, 2) = true ∧
    (world.intel.get? (7, 2)).map (fun intel => (intel.quote .ore).qty) = some 1000 ∧
    (world.ports.get? 2).map (fun port => (port.stock .ore).qty) = some 995 := by
  intro world
  have chronicle := Drill.told Drill.settled_told Drill.tour
  obtain ⟨discovered, scanned, _⟩ := knowledge_is_history Drill.outpost_reachable rfl rfl rfl
    chronicle
  refine ⟨(discovered 7 1).mpr ⟨_, .head _, _, rfl, rfl⟩, (scanned 7 1).trans ?_,
    (discovered 7 2).mpr ?_, ?_, ?_⟩
  · decide +kernel
  · have there : ((Drill.askedAll Drill.settled (Drill.tour.take 2)).players.get? 7).map
        (·.sector) = some 2 := by decide +kernel
    obtain ⟨row, found, here⟩ := Option.map_eq_some_iff.mp there
    exact ⟨_, .tail _ (.tail _ (.head _)), row, found, here⟩
  · rw [scanned]
    decide +kernel
  · decide +kernel

end Starlane
