import Mathlib.Order.Monotone.Basic
import Starlane.Proofs.Ruling

/-!
# The same writes in worlds with different counters

One counter numbers new planets and minefields, so a command that comes after
another one gives out other numbers than it would have alone. Two worlds that
look alike to a player in a sector, up to the numbers given out since some point,
still do after the same writes, and answer the player alike.
-/

namespace Starlane

/-- What becomes of a number when some more are given out right after `last`. -/
def pushed (last more id : Nat) : Nat :=
  if id ≤ last then id else id + more

theorem pushed_old {last id : Nat} (old : id ≤ last) (more : Nat) : pushed last more id = id :=
  if_pos old

theorem pushed_next {last count : Nat} (counted : last ≤ count) (more : Nat) :
    pushed last more (count + 1) = count + more + 1 := by
  unfold pushed
  split <;> omega

theorem pushed_strictMono (last more : Nat) : StrictMono (pushed last more) := by
  intro a b before
  unfold pushed
  split <;> split <;> omega

/-- A planet under another number. -/
def Planet.renumbered (rename : PlanetId → PlanetId) (planet : Planet) : Planet :=
  { planet with id := rename planet.id }

/-- A minefield under another number. -/
def Minefield.renumbered (rename : MinefieldId → MinefieldId) (field : Minefield) : Minefield :=
  { field with id := rename field.id }

/-- The view of a sector with its planet under another number. -/
def SectorView.renumbered (rename : PlanetId → PlanetId) (view : SectorView) : SectorView :=
  { view with planet := view.planet.map fun planet => { planet with id := rename planet.id } }

/-- A response with the planet in it under another number. -/
def Response.renumbered (rename : PlanetId → PlanetId) (response : Response) : Response :=
  { response with sector := response.sector.renumbered rename }

theorem Response.renumbered_id (response : Response) : response.renumbered id = response := by
  rcases response with ⟨_, _, _, ⟨_, _, _, planet, _, _⟩, _⟩
  cases planet <;> rfl

theorem Response.renumbered_renumbered (rename number : PlanetId → PlanetId)
    (response : Response) : (response.renumbered rename).renumbered number =
      response.renumbered fun id => number (rename id) := by
  rcases response with ⟨_, _, _, ⟨_, _, _, planet, _, _⟩, _⟩
  cases planet <;> rfl

namespace Table

variable {α : Type} {rename : Nat → Nat} {relabel : α → α} {wanted : α → Prop}
  {table other : Table Nat α}

/-- Whether a table has the values of some sort of another one, under other
numbers. -/
def Renamed (rename : Nat → Nat) (relabel : α → α) (wanted : α → Prop)
    (table other : Table Nat α) : Prop :=
  ∀ key value, wanted value → (other.get? key = some value ↔
    ∃ id before, table.get? id = some before ∧ rename id = key ∧ relabel before = value)

theorem Renamed.insert (renamed : table.Renamed rename relabel wanted other)
    (injective : Function.Injective rename) (key : Nat) (value : α) :
    (table.insert key value).Renamed rename relabel wanted
      (other.insert (rename key) (relabel value)) := by
  intro place found sought
  rw [get?_insert]
  by_cases here : place = rename key
  · rw [if_pos here]
    constructor
    · intro same
      exact ⟨key, value, get?_insert_self _ _ _, here.symm, Option.some.inj same⟩
    · rintro ⟨id, before, present, moved, rfl⟩
      rw [injective (moved.trans here), get?_insert_self] at present
      rw [Option.some.inj present]
  · rw [if_neg here, renamed place found sought]
    refine exists_congr fun id => exists_congr fun before => ?_
    by_cases same : id = key
    · subst same
      constructor
      · rintro ⟨_, moved, _⟩
        exact absurd moved.symm here
      · rintro ⟨_, moved, _⟩
        exact absurd moved.symm here
    · rw [get?_insert_of_ne _ _ same]

theorem Renamed.erase (renamed : table.Renamed rename relabel wanted other)
    (injective : Function.Injective rename) (key : Nat) :
    (table.erase key).Renamed rename relabel wanted (other.erase (rename key)) := by
  intro place found sought
  rw [get?_erase]
  by_cases here : place = rename key
  · rw [if_pos here]
    constructor
    · intro same
      cases same
    · rintro ⟨id, before, present, moved, _⟩
      rw [injective (moved.trans here), get?_erase, if_pos rfl] at present
      cases present
  · rw [if_neg here, renamed place found sought]
    refine exists_congr fun id => exists_congr fun before => ?_
    by_cases same : id = key
    · subst same
      constructor
      · rintro ⟨_, moved, _⟩
        exact absurd moved.symm here
      · rintro ⟨_, moved, _⟩
        exact absurd moved.symm here
    · rw [get?_erase, if_neg same]

/-- Under numbers in the same order, the values of a sort are listed in the same
order. -/
theorem Renamed.filter_values (renamed : table.Renamed rename relabel wanted other)
    (mono : StrictMono rename) {p : α → Bool} (sort : ∀ value, p value = true → wanted value)
    (kept : ∀ value, p (relabel value) = p value) :
    other.values.filter p = (table.values.filter p).map relabel := by
  have first : Entries.Ascending (other.entries.filter fun entry => p entry.2) :=
    other.ascending.filter _
  have second : Entries.Ascending ((table.entries.filter fun entry => p entry.2).map fun entry =>
      (rename entry.1, relabel entry.2)) := by
    refine List.pairwise_map.mpr (List.Pairwise.imp (fun before => ?_) (table.ascending.filter _))
    exact decide_eq_true (mono (of_decide_eq_true before))
  have same := first.eq_of_mem second fun entry => by
    obtain ⟨key, value⟩ := entry
    simp only [List.mem_filter, List.mem_map, Prod.mk.injEq, Prod.exists, mem_entries_iff]
    constructor
    · rintro ⟨present, good⟩
      obtain ⟨id, before, found, rfl, rfl⟩ :=
        (renamed key value (sort value good)).mp present
      exact ⟨id, before, ⟨found, (kept before).symm.trans good⟩, rfl, rfl⟩
    · rintro ⟨id, before, ⟨found, good⟩, rfl, rfl⟩
      have good : p (relabel before) = true := (kept before).trans good
      exact ⟨(renamed _ _ (sort _ good)).mpr ⟨id, before, found, rfl, rfl⟩, good⟩
  simp only [values, List.filter_map, Function.comp_def, same, List.map_map]

/-- Values that stay under their numbers are renamed by what leaves those numbers
alone. -/
theorem SameWhere.renamed (same : table.SameWhere wanted other)
    (fixed : ∀ id value, table.get? id = some value → rename id = id ∧ relabel value = value) :
    table.Renamed rename relabel wanted other := by
  intro key value sought
  rw [same key value sought]
  constructor
  · intro present
    obtain ⟨stays, alike⟩ := fixed key value present
    exact ⟨key, value, present, stays, alike⟩
  · rintro ⟨id, before, present, rfl, rfl⟩
    obtain ⟨stays, alike⟩ := fixed id before present
    rw [stays, alike]
    exact present

/-- Under other numbers and labels that come to the same, and from a table that
has the same of that sort, the values are renamed as well. -/
theorem Renamed.congr {third : Table Nat α} {number : Nat → Nat} {label : α → α}
    (renamed : table.Renamed rename relabel wanted other) (same : table.SameWhere wanted third)
    (kept : ∀ value, wanted (label value) → wanted value)
    (kept' : ∀ value, wanted (relabel value) → wanted value)
    (agree : ∀ id value, table.get? id = some value →
      rename id = number id ∧ relabel value = label value) :
    third.Renamed number label wanted other := by
  intro key value sought
  rw [renamed key value sought]
  constructor
  · rintro ⟨id, before, present, rfl, rfl⟩
    obtain ⟨numbered, labelled⟩ := agree id before present
    exact ⟨id, before, (same id before (kept' before sought)).mpr present, numbered.symm,
      labelled.symm⟩
  · rintro ⟨id, before, present, rfl, rfl⟩
    have present := (same id before (kept before sought)).mp present
    obtain ⟨numbered, labelled⟩ := agree id before present
    exact ⟨id, before, present, numbered, labelled⟩

/-- A renaming of values of a sort is undone by what takes them back. -/
theorem Renamed.undo {third : Table Nat α} {number : Nat → Nat} {label : α → α}
    (renamed : table.Renamed rename relabel wanted other) (same : table.SameWhere wanted third)
    (kept : ∀ value, wanted (label value) → wanted value)
    (kept' : ∀ value, wanted value → wanted (relabel value))
    (undone : ∀ id value, table.get? id = some value →
      number (rename id) = id ∧ label (relabel value) = value) :
    other.Renamed number label wanted third := by
  intro key value sought
  rw [same key value sought]
  constructor
  · intro present
    obtain ⟨back, alike⟩ := undone key value present
    exact ⟨rename key, relabel value,
      (renamed _ _ (kept' value sought)).mpr ⟨key, value, present, rfl, rfl⟩, back, alike⟩
  · rintro ⟨id, before, moved, rfl, rfl⟩
    obtain ⟨old, original, present, rfl, rfl⟩ :=
      (renamed id before (kept before sought)).mp moved
    obtain ⟨back, alike⟩ := undone old original present
    rw [back, alike]
    exact present

/-- A renaming of values of two sorts that cover all of them is one of every
value. -/
theorem Renamed.get?_map {others : α → Prop} (one : table.Renamed rename relabel wanted other)
    (two : table.Renamed rename relabel others other)
    (covered : ∀ value, wanted value ∨ others value) (injective : Function.Injective rename)
    (id : Nat) : other.get? (rename id) = (table.get? id).map relabel := by
  have all : ∀ value, other.get? (rename id) = some value ↔
      ∃ old before, table.get? old = some before ∧ rename old = rename id ∧
        relabel before = value := fun value =>
    (covered value).elim (one _ value) (two _ value)
  refine Option.ext fun value => ?_
  rw [all, Option.map_eq_some_iff]
  constructor
  · rintro ⟨old, before, present, same, labelled⟩
    exact ⟨before, injective same ▸ present, labelled⟩
  · rintro ⟨before, present, labelled⟩
    exact ⟨id, before, present, rfl, labelled⟩

/-- Two tables that were reached from two sides, by adding to one side what the
other one has as well, differ by the numbers of either side. -/
theorem Renamed.meet {second both : Table Nat α} {others : α → Prop} {ahead back : Nat → Nat}
    (label : (Nat → Nat) → α → α) (kept : ∀ f value, wanted (label f value) ↔ wanted value)
    (kept' : ∀ f value, others (label f value) ↔ others value)
    (elsewhere : table.Renamed rename (label rename) wanted other)
    (late : table.SameWhere wanted both)
    (near : second.Renamed ahead (label ahead) others both)
    (early : second.SameWhere others other)
    (agree : ∀ id value, table.get? id = some value →
      rename id = back id ∧ label rename value = label back value)
    (undone : ∀ id value, second.get? id = some value →
      back (ahead id) = id ∧ label back (label ahead value) = value)
    (covered : ∀ value, wanted value ∨ others value) (injective : Function.Injective back)
    (id : Nat) : other.get? (back id) = (both.get? id).map (label back) :=
  have one := elsewhere.congr late (fun value => (kept _ value).mp)
    (fun value => (kept _ value).mp) agree
  have two := near.undo early (fun value => (kept' _ value).mp)
    (fun value => (kept' _ value).mpr) undone
  one.get?_map two covered injective id

/-- Values of a sort that are the same in both tables are listed alike. -/
theorem SameWhere.filter_values (same : table.SameWhere wanted other) (p : α → Bool)
    (sort : ∀ value, p value = true → wanted value) :
    other.values.filter p = table.values.filter p := by
  have renamed : table.Renamed id id wanted other := same.renamed fun _ _ _ => ⟨rfl, rfl⟩
  rw [renamed.filter_values strictMono_id sort fun _ => rfl, List.map_id]

end Table

namespace World

/-- Whether a world has what another one has, but for what a rival has and for
what is in a sector; the numbers given out since `last` are `more` ahead. -/
structure Echoes (last more : Nat) (rival : PlayerId) (there : SectorId) (world other : World) :
    Prop where
  players : ∀ player, player ≠ rival → other.players.get? player = world.players.get? player
  discoveries : ∀ player sector, player ≠ rival →
    other.discoveries.get? (player, sector) = world.discoveries.get? (player, sector)
  intel : ∀ player sector, player ≠ rival →
    other.intel.get? (player, sector) = world.intel.get? (player, sector)
  logs : ∀ player, player ≠ rival → other.logOf player = world.logOf player
  ports : ∀ sector, sector ≠ there → other.ports.get? sector = world.ports.get? sector
  planets : world.planets.Renamed (pushed last more) (Planet.renumbered (pushed last more))
    (fun planet => planet.sector ≠ there) other.planets
  minefields : world.minefields.Renamed (pushed last more)
    (Minefield.renumbered (pushed last more)) (fun field => field.sector ≠ there) other.minefields
  counted : last ≤ world.lastId
  ahead : other.lastId = world.lastId + more

variable {start world other : World} {more : Nat} {player rival : PlayerId}
  {here there : SectorId}

/-- Before anything else happens, a world echoes the one that a rival's command
left alone. -/
theorem LeavesAlone.echoes (alone : world.LeavesAlone rival there other) (filed : world.Filed) :
    Echoes world.lastId (other.lastId - world.lastId) rival there world other where
  players player different := alone.players player different
  discoveries player sector different := alone.discoveries player sector different
  intel player sector different := alone.intel player sector different
  logs player different := alone.logs player different
  ports sector elsewhere := alone.ports sector elsewhere
  planets := alone.planets.renamed fun id planet present => by
    have own : planet.id = id := filed.planets id planet present
    have old := pushed_old (filed.planetsUpTo id planet present) (other.lastId - world.lastId)
    subst own
    exact ⟨old, by rw [Planet.renumbered, old]⟩
  minefields := alone.minefields.renamed fun id field present => by
    have own : field.id = id := filed.minefields id field present
    have old := pushed_old (filed.minefieldsUpTo id field present) (other.lastId - world.lastId)
    subst own
    exact ⟨old, by rw [Minefield.renumbered, old]⟩
  counted := Nat.le_refl _
  ahead := (Nat.add_sub_of_le alone.counted).symm

/-- The same write keeps an echo. -/
theorem Echoes.write (echoes : Echoes start.lastId more rival there world other)
    (filed : start.Filed) {change : Write} (stays : change.Stays start player here) :
    Echoes start.lastId more rival there (world.written change) (other.written change) := by
  have injective := (pushed_strictMono start.lastId more).injective
  have next : pushed start.lastId more (world.lastId + 1) = other.lastId + 1 := by
    rw [pushed_next echoes.counted, echoes.ahead]
  have counted : start.lastId ≤ world.lastId + 1 := Nat.le_succ_of_le echoes.counted
  have ahead : other.lastId + 1 = world.lastId + 1 + more := by
    have ahead := echoes.ahead
    omega
  have within := stays.within
  cases change with
  | savePlayer row =>
    refine { echoes with players := fun player different => ?_ }
    simp only [written, Table.get?_insert, echoes.players player different]
  | discover explorer sector =>
    refine { echoes with discoveries := fun player sector different => ?_ }
    simp only [written, Table.get?_insert, echoes.discoveries player sector different]
  | saveIntel scout scan =>
    refine { echoes with intel := fun player sector different => ?_ }
    simp only [written, Table.get?_insert, echoes.intel player sector different]
  | deleteIntel scout sector =>
    refine { echoes with intel := fun player sector different => ?_ }
    simp only [written, Table.get?_erase, echoes.intel player sector different]
  | savePort port =>
    refine { echoes with ports := fun sector elsewhere => ?_ }
    simp only [written, Table.get?_insert, echoes.ports sector elsewhere]
  | insertPlanet planet =>
    have renamed := echoes.planets.insert injective (world.lastId + 1)
      { planet with id := world.lastId + 1 }
    rw [Planet.renumbered, next] at renamed
    exact { echoes with counted, ahead, planets := renamed }
  | savePlanet planet =>
    obtain ⟨_, before, present, _⟩ := within
    have old := pushed_old (filed.planetsUpTo _ _ present) more
    have renamed := echoes.planets.insert injective planet.id planet
    rw [Planet.renumbered, old] at renamed
    exact { echoes with planets := renamed }
  | insertMinefield field =>
    have renamed := echoes.minefields.insert injective (world.lastId + 1)
      { field with id := world.lastId + 1 }
    rw [Minefield.renumbered, next] at renamed
    exact { echoes with counted, ahead, minefields := renamed }
  | saveMinefield field =>
    obtain ⟨_, before, present, _⟩ := within
    have old := pushed_old (filed.minefieldsUpTo _ _ present) more
    have renamed := echoes.minefields.insert injective field.id field
    rw [Minefield.renumbered, old] at renamed
    exact { echoes with minefields := renamed }
  | deleteMinefield gone =>
    obtain ⟨before, present, _⟩ := within
    have old := pushed_old (filed.minefieldsUpTo _ _ present) more
    have renamed := echoes.minefields.erase injective gone
    rw [old] at renamed
    exact { echoes with minefields := renamed }
  | insertLog owner entry =>
    refine { echoes with logs := fun player different => ?_ }
    by_cases own : owner = player
    · rw [own, logOf_insertLog, logOf_insertLog, echoes.logs player different]
    · have others : (Write.insertLog owner entry).logged? ≠ some player := fun same =>
        own (Option.some.inj same)
      rw [logOf_written_of_ne others, logOf_written_of_ne others, echoes.logs player different]
  | pruneLogs owner keep =>
    refine { echoes with logs := fun player different => ?_ }
    by_cases own : owner = player
    · rw [own, logOf_pruneLogs, logOf_pruneLogs, echoes.logs player different]
    · have others : (Write.pruneLogs owner keep).logged? ≠ some player := fun same =>
        own (Option.some.inj same)
      rw [logOf_written_of_ne others, logOf_written_of_ne others, echoes.logs player different]
  | insertCorp | saveCorp | deleteCorp | insertMember | setRole | deleteMember | insertMessage =>
    exact absurd (by simp [Write.part]) stays.apart

/-- The same writes keep an echo. -/
theorem Echoes.writeAll (echoes : Echoes start.lastId more rival there world other)
    (filed : start.Filed) {changes : List Write}
    (stays : ∀ change ∈ changes, change.Stays start player here) :
    Echoes start.lastId more rival there (world.writtenAll changes) (other.writtenAll changes) := by
  induction changes generalizing world other with
  | nil => exact echoes
  | cons change rest ih =>
    exact ih (echoes.write filed (stays change (.head _))) fun later member =>
      stays later (.tail _ member)

/-- Whether two worlds have the same map, events, corporations and names. -/
structure SameBackground (world other : World) : Prop where
  sectors : other.sectors = world.sectors
  warps : other.warps = world.warps
  events : other.events = world.events
  seasons : other.seasons = world.seasons
  corps : other.corps = world.corps
  members : other.members = world.members
  messages : other.messages = world.messages
  names : ∀ id, (other.players.get? id).map (·.username) =
    (world.players.get? id).map (·.username)

theorem SameBackground.symm (same : world.SameBackground other) : other.SameBackground world where
  sectors := same.sectors.symm
  warps := same.warps.symm
  events := same.events.symm
  seasons := same.seasons.symm
  corps := same.corps.symm
  members := same.members.symm
  messages := same.messages.symm
  names id := (same.names id).symm

theorem SameBackground.trans {third : World} (first : world.SameBackground other)
    (second : other.SameBackground third) : world.SameBackground third where
  sectors := second.sectors.trans first.sectors
  warps := second.warps.trans first.warps
  events := second.events.trans first.events
  seasons := second.seasons.trans first.seasons
  corps := second.corps.trans first.corps
  members := second.members.trans first.members
  messages := second.messages.trans first.messages
  names id := (second.names id).trans (first.names id)

theorem LeavesAlone.background (alone : world.LeavesAlone player here other) :
    world.SameBackground other :=
  { alone with }

/-- On the same background owners have the same labels. -/
theorem SameBackground.ofOwner (same : world.SameBackground other) (owner : Owner) :
    OwnerLabel.ofOwner other.lookup owner = OwnerLabel.ofOwner world.lookup owner := by
  cases owner with
  | unowned => rfl
  | player id =>
    have name := same.names id
    simp [OwnerLabel.ofOwner, lookup, name]
  | corp id founder => simp [OwnerLabel.ofOwner, lookup, same.corps]

theorem lookup_planet (world : World) (sector : SectorId) :
    world.lookup.planet sector =
      (world.planets.values.filter fun planet => planet.sector == sector).head? :=
  List.head?_filter.symm

variable {last : Nat}

theorem Echoes.planet (echoes : Echoes last more rival there world other)
    (elsewhere : here ≠ there) : other.lookup.planet here =
      (world.lookup.planet here).map (Planet.renumbered (pushed last more)) := by
  rw [lookup_planet, lookup_planet, ← List.head?_map]
  refine congrArg List.head? (echoes.planets.filter_values (pushed_strictMono last more)
    (fun _ located => eq_of_beq located ▸ elsewhere) fun _ => rfl)

theorem Echoes.minefieldsIn (echoes : Echoes last more rival there world other)
    (elsewhere : here ≠ there) : other.minefieldsIn here =
      (world.minefieldsIn here).map (Minefield.renumbered (pushed last more)) :=
  echoes.minefields.filter_values (pushed_strictMono last more)
    (fun _ located => eq_of_beq located ▸ elsewhere) fun _ => rfl

/-- Mines are counted without regard to numbers. -/
theorem total_renumbered (rename : MinefieldId → MinefieldId) (fields : List Minefield) :
    Minefield.total (fields.map (Minefield.renumbered rename)) = Minefield.total fields := by
  rw [Minefield.total_eq, Minefield.total_eq, List.map_map]
  rfl

/-- A player is shown the same sector. -/
theorem Echoes.view (echoes : Echoes last more rival there world other)
    (elsewhere : here ≠ there) (same : world.SameBackground other) (now : Int) :
    other.lookup.view here now =
      (world.lookup.view here now).map (SectorView.renumbered (pushed last more)) := by
  have label : ∀ planet : Planet, PlanetView.ofPlanet other.lookup
      (planet.renumbered (pushed last more)) =
        { PlanetView.ofPlanet world.lookup planet with id := pushed last more planet.id } := by
    intro planet
    simp only [PlanetView.ofPlanet, Planet.renumbered, same.ofOwner]
  have planets : (other.lookup.planet here).map (PlanetView.ofPlanet other.lookup) =
      ((world.lookup.planet here).map (PlanetView.ofPlanet world.lookup)).map fun planet =>
        { planet with id := pushed last more planet.id } := by
    rw [echoes.planet elsewhere, Option.map_map, Option.map_map]
    exact congrArg (Option.map · _) (funext label)
  have mines : other.lookup.mineTotal here = world.lookup.mineTotal here := by
    change Minefield.total (other.minefieldsIn here) = Minefield.total (world.minefieldsIn here)
    rw [echoes.minefieldsIn elsewhere, total_renumbered]
  have sector : other.lookup.sectorOrFail here = world.lookup.sectorOrFail here := by
    simp only [Lookup.sectorOrFail, lookup, same.sectors]
  have event : other.lookup.event here now = world.lookup.event here now := by
    simp only [lookup, activeEvents, same.events]
  have port : other.lookup.port here = world.lookup.port here := by
    simp only [lookup, echoes.ports here elsewhere]
  have warps : other.lookup.warpsFrom here = world.lookup.warpsFrom here := by
    simp only [lookup, same.warps]
  unfold Lookup.view
  rw [sector, event, port, warps, planets, mines]
  cases world.lookup.sectorOrFail here with
  | error failure => rfl
  | ok sector => rfl

/-- A commander gets the same response. -/
theorem Echoes.respond (echoes : Echoes last more rival there world other)
    (same : world.SameBackground other) {commander : Commander}
    (different : commander.id ≠ rival) (elsewhere : commander.sector ≠ there) (shown : Nat)
    (now : Int) (message : String) (refusal : Option Refusal) :
    other.lookup.respond shown now commander message refusal =
      (world.lookup.respond shown now commander message refusal).map
        (Response.renumbered (pushed last more)) := by
  have logs : other.lookup.recentLogs commander.id shown =
      world.lookup.recentLogs commander.id shown := by
    simp only [lookup, echoes.logs _ different]
  unfold Lookup.respond
  rw [logs, echoes.view elsewhere same]
  cases world.lookup.view commander.sector now with
  | error failure => rfl
  | ok view => rfl

end World

end Starlane
