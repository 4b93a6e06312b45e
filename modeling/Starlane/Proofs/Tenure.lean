import Starlane.Proofs.Answer
import Starlane.Proofs.Settlement

/-!
# Who holds planets

Once a planet is owned nothing but its stores and its citadel change. These are
changed by whoever claimed it and by the members of the corporation that holds
it, in its sector. Numbers of corporations are counted up with all others, so
a planet that a corporation leaves behind goes to no other.
-/

namespace Starlane

open Chance

/-- Whoever may use a planet claimed it or is in the corporation that holds it. -/
theorem Owner.grantsAccess_cases {owner : Owner} {player : PlayerId} {membership : Option CorpId}
    (access : owner.grantsAccess player membership = true) :
    owner.player? = some player ∨
      ∃ corp, owner.corp? = some corp ∧ membership = some corp := by
  cases owner with
  | unowned => cases access
  | player holder => exact .inl (congrArg some (eq_of_beq access))
  | corp corp founder =>
    rcases Bool.or_eq_true_iff.mp access with claimed | belongs
    · exact .inl (congrArg some (eq_of_beq claimed))
    · exact .inr ⟨corp, rfl, eq_of_beq belongs⟩

/-- Whoever claims something claims it for their corporation. -/
theorem Owner.claimedBy_corp? (player : PlayerId) (corp : Option CorpId) :
    (Owner.claimedBy player corp).corp? = corp := by
  cases corp <;> rfl

namespace World

variable {start mid world after : World}

/-- A corporation that a commander is in exists, and the player has a line on
its roster. -/
theorem Commands.employer {player : PlayerId} {row : Player} {commander : Commander}
    (commands : world.Commands player row commander) (filed : world.Filed)
    (rostered : world.Rostered) {corp : CorpId} (belongs : commander.corp? = some corp) :
    world.corps.contains corp = true ∧
      ∃ line, world.memberOf? player = some line ∧ line.corp = corp := by
  obtain ⟨_, turns, stamp, rfl⟩ := commands
  obtain ⟨membership, snapshot, rfl⟩ := Option.map_eq_some_iff.mp belongs
  obtain ⟨line, _, listed, own, _, found, _⟩ := rostered.membership_line filed snapshot
  obtain ⟨lined, employer⟩ := mem_rosterOf.mp listed
  exact ⟨contains_iff.mpr ⟨_, found⟩, line, own ▸ rostered.memberOf?_of_mem lined, employer⟩

/-- What an order of a commander makes of one planet. -/
theorem Settles.of_stored {commander : Commander} {planets : Table PlanetId Planet}
    (settles : world.Settles commander planets) (filed : world.Filed) {id : PlanetId}
    {planet : Planet} (stored : world.planets.get? id = some planet) :
    planets.get? id = some planet ∨
    (planet.owner.isOwned = false ∧ ∃ name owner,
      planets.get? id = some { planet with name, owner }) ∨
    (planet.sector = commander.sector ∧ Plan.hasAccess commander planet = true ∧
      ∃ storage citadelLevel, planets.get? id = some { planet with storage, citadelLevel }) := by
  cases settles with
  | spared => exact .inl stored
  | founded =>
    have old : id < world.lastId + 1 := Nat.lt_succ_of_le (filed.planetsUpTo id planet stored)
    rw [Table.get?_insert_of_ne _ _ (Nat.ne_of_lt old)]
    exact .inl stored
  | claimed here free =>
    have there := (planet_here filed.planets here).1
    rw [Table.get?_insert]
    split
    · next same =>
      rw [← same, stored] at there
      cases there
      exact .inr (.inl ⟨free, _, _, rfl⟩)
    · exact .inl stored
  | used here access =>
    obtain ⟨there, located⟩ := planet_here filed.planets here
    rw [Table.get?_insert]
    split
    · next same =>
      rw [← same, stored] at there
      cases there
      exact .inr (.inr ⟨located, access, _, _, rfl⟩)
    · exact .inl stored

/-- Where the owner of a planet comes from after an order of a commander. -/
theorem Settles.owner_from {commander : Commander} {planets : Table PlanetId Planet}
    (settles : world.Settles commander planets) (filed : world.Filed) {id : PlanetId}
    {planet : Planet} (stored : planets.get? id = some planet) :
    (∃ before, world.planets.get? id = some before ∧ planet.owner = before.owner) ∨
      planet.owner = Owner.claimedBy commander.id commander.corp? := by
  cases settles with
  | spared => exact .inl ⟨planet, stored, rfl⟩
  | founded | claimed =>
    rw [Table.get?_insert] at stored
    split at stored
    · cases stored
      exact .inr rfl
    · exact .inl ⟨planet, stored, rfl⟩
  | @used before _ _ here =>
    have there := (planet_here filed.planets here).1
    rw [Table.get?_insert] at stored
    split at stored
    · next same =>
      cases stored
      exact .inl ⟨before, same ▸ there, rfl⟩
    · exact .inl ⟨planet, stored, rfl⟩

/-- An owned planet after whatever happens next: only its stores and its citadel
may be others. -/
theorem Next.tenure (next : world.Next after) (filed : world.Filed) {id : PlanetId}
    {planet : Planet} (stored : world.planets.get? id = some planet)
    (owned : planet.owner.isOwned = true) :
    ∃ storage citadelLevel,
      after.planets.get? id = some { planet with storage, citadelLevel } := by
  rcases next.settles with same | produced | ⟨player, row, commander, _, settles⟩
  · rw [same]
    exact ⟨planet.storage, planet.citadelLevel, stored⟩
  · rw [produced, Table.get?_mapValues, stored]
    exact ⟨_, _, rfl⟩
  · rcases settles.of_stored filed stored with kept | ⟨free, _⟩ | ⟨_, _, used⟩
    · exact ⟨planet.storage, planet.citadelLevel, kept⟩
    · rw [free] at owned
      cases owned
    · exact used

/-- An owned planet on a course: only its stores and its citadel become others. -/
theorem Leads.tenure (leads : mid.Leads world) (filed : mid.Filed) {id : PlanetId}
    {planet : Planet} (stored : mid.planets.get? id = some planet)
    (owned : planet.owner.isOwned = true) :
    world.Filed ∧ ∃ storage citadelLevel,
      world.planets.get? id = some { planet with storage, citadelLevel } := by
  induction leads with
  | refl => exact ⟨filed, planet.storage, planet.citadelLevel, stored⟩
  | tail _ next ih =>
    obtain ⟨filed, _, _, held⟩ := ih
    have tenure := next.tenure filed held owned
    exact ⟨filed.next next, tenure⟩

/-- Whoever changes what a planet stores or how strong its citadel is has access
to it, in its sector. -/
theorem access_of_request {settings : Settings} {now : Int} {player : PlayerId}
    {request : Request} {storage after : Storage} {answer : Except StoreFailure Response}
    (filed : storage.world.Filed) (rostered : storage.world.Rostered)
    (executed : Storage.execute settings now player request storage = (answer, after))
    {id : PlanetId} {planet later : Planet}
    (stored : storage.world.planets.get? id = some planet)
    (changed : after.world.planets.get? id = some later)
    (different : later.storage ≠ planet.storage ∨ later.citadelLevel ≠ planet.citadelLevel) :
    ∃ row, storage.world.players.get? player = some row ∧ row.sector = planet.sector ∧
      (planet.owner.player? = some player ∨
        ∃ corp line, planet.owner.corp? = some corp ∧
          storage.world.corps.contains corp = true ∧
          storage.world.memberOf? player = some line ∧ line.corp = corp) := by
  have same_stores : ∀ {name owner}, after.world.planets.get? id =
      some { planet with name, owner } → False := by
    intro name owner same
    rw [changed] at same
    cases same
    rcases different with other | other <;> exact other rfl
  rcases settles_of_request executed with same | ⟨row, commander, commands, settles⟩
  · rw [same] at same_stores
    exact (same_stores stored).elim
  · rcases settles.of_stored filed stored with kept | ⟨_, _, _, claimed⟩ | ⟨located, access, _⟩
    · exact (same_stores kept).elim
    · exact (same_stores claimed).elim
    · have employer := @commands.employer
      obtain ⟨found, turns, stamp, rfl⟩ := commands
      have own : row.id = player := filed.players player row found
      refine ⟨row, found, located.symm, ?_⟩
      rcases Owner.grantsAccess_cases access with claimed | ⟨corp, holds, belongs⟩
      · exact .inl (own ▸ claimed)
      · obtain ⟨present, line, lined, employed⟩ := employer filed rostered belongs
        exact .inr ⟨corp, line, holds, present, lined, employed⟩

/-- Whether the corporations that a world has beyond those of another have
numbers that had not been given out. -/
structure Succeeds (world after : World) : Prop where
  counted : world.lastId ≤ after.lastId
  corps : ∀ corp, after.corps.contains corp = true →
    world.corps.contains corp = true ∨ world.lastId < corp

theorem Succeeds.refl (world : World) : world.Succeeds world :=
  ⟨Nat.le_refl _, fun _ present => .inl present⟩

theorem Succeeds.trans (first : start.Succeeds world) (second : world.Succeeds after) :
    start.Succeeds after where
  counted := Nat.le_trans first.counted second.counted
  corps corp present := by
    rcases second.corps corp present with before | beyond
    · exact first.corps corp before
    · exact .inr (Nat.lt_of_le_of_lt first.counted beyond)

/-- Every new corporation gets the next number. -/
theorem Succeeds.kept : Kept world.Succeeds := by
  intro mid change before admits
  have counted := before.counted
  cases change with
  | insertCorp name now =>
    refine ⟨Nat.le_succ_of_le counted, fun corp present => ?_⟩
    rcases Table.contains_insert.mp present with new | present
    · exact .inr (new ▸ Nat.lt_succ_of_le counted)
    · exact before.corps corp present
  | saveCorp corp =>
    refine ⟨counted, fun other present => ?_⟩
    rcases Table.contains_insert.mp present with same | present
    · exact before.corps other (same ▸ admits)
    · exact before.corps other present
  | deleteCorp corp =>
    refine ⟨counted, fun other present => ?_⟩
    obtain ⟨row, found⟩ := contains_iff.mp present
    rw [written, Table.get?_erase] at found
    split at found
    · cases found
    · exact before.corps other (contains_iff.mpr ⟨row, found⟩)
  | insertPlanet | insertMinefield => exact ⟨Nat.le_succ_of_le counted, before.corps⟩
  | _ => exact ⟨counted, before.corps⟩

theorem Next.succeeds (next : world.Next after) : world.Succeeds after := by
  cases next with
  | @join settings now id username =>
    obtain ⟨_, _, _, same⟩ := world.join_frame settings now id username
    rw [same]
    exact ⟨Nat.le_refl _, fun _ present => .inl present⟩
  | command executed => exact Storage.limited_keeps Succeeds.kept executed (.refl _)
  | portTick | planetTick | protectorateTick =>
    exact ⟨Nat.le_refl _, fun _ present => .inl present⟩
  | @eventTick γ _ now dice =>
    obtain ⟨_, _, counted, same⟩ := world.eventTick_frame now dice
    rw [same]
    exact ⟨counted, fun _ present => .inl present⟩

theorem Leads.succeeds (leads : start.Leads world) : start.Succeeds world :=
  leads.keeps (.refl _) fun before next => before.trans next.succeeds

/-- A corporation that holds a planet held one before whatever happened, or it
existed then. -/
theorem Next.holder_from (next : world.Next after) (filed : world.Filed)
    (rostered : world.Rostered) {id : PlanetId} {planet : Planet} {corp : CorpId}
    (stored : after.planets.get? id = some planet) (holds : planet.owner.corp? = some corp) :
    (∃ id before, world.planets.get? id = some before ∧ before.owner.corp? = some corp) ∨
      world.corps.contains corp = true := by
  rcases next.settles with same | produced | ⟨player, row, commander, commands, settles⟩
  · exact .inl ⟨id, planet, same ▸ stored, holds⟩
  · rw [produced, Table.get?_mapValues] at stored
    obtain ⟨before, found, rfl⟩ := Option.map_eq_some_iff.mp stored
    exact .inl ⟨id, before, found, holds⟩
  · rcases settles.owner_from filed stored with ⟨before, found, same⟩ | claimed
    · exact .inl ⟨id, before, found, same ▸ holds⟩
    · have belongs : commander.corp? = some corp := by
        rw [← Owner.claimedBy_corp? commander.id commander.corp?, ← claimed]
        exact holds
      exact .inr (commands.employer filed rostered belongs).1

/-- What a course keeps about the holders of planets: rows are filed, rosters
in order, and every corporation that holds a planet has a number that was given
out, whether it still exists or not. -/
structure Chartered (world : World) : Prop where
  filed : world.Filed
  rostered : world.Rostered
  held : ∀ id planet corp, world.planets.get? id = some planet →
    planet.owner.corp? = some corp → corp ≤ world.lastId

/-- After whatever happens next the corporations that hold planets have numbers
that were given out before. -/
theorem Chartered.holders (chartered : world.Chartered) (next : world.Next after)
    {id : PlanetId} {planet : Planet} {corp : CorpId}
    (stored : after.planets.get? id = some planet) (holds : planet.owner.corp? = some corp) :
    corp ≤ world.lastId := by
  rcases next.holder_from chartered.filed chartered.rostered stored holds with
    ⟨id, before, found, held⟩ | present
  · exact chartered.held id before corp found held
  · obtain ⟨corporation, found⟩ := contains_iff.mp present
    exact chartered.filed.corpsUpTo corp corporation found

theorem Chartered.next (chartered : world.Chartered) (next : world.Next after) :
    after.Chartered where
  filed := chartered.filed.next next
  rostered := chartered.rostered.next chartered.filed next
  held _ _ _ stored holds :=
    Nat.le_trans (chartered.holders next stored holds) next.succeeds.counted

end World

/-- On a course from a start without planets, such as a checked universe that has
just been laid out: an owned planet keeps its owner, its name, its sector, its
production and its cap. Whoever changes by a request what it stores or how
strong its citadel is, is in its sector, and claimed it or is at that moment on
the roster of the corporation that holds it. A corporation that no longer exists
while it holds a planet never exists again, and one that has just been founded
holds none. -/
theorem planets_keep_owners {start mid : World} (reachable : start.Reachable)
    (bare : start.planets = .empty) (leads : start.Leads mid) :
    (∀ world, mid.Leads world → ∀ id planet, mid.planets.get? id = some planet →
      planet.owner.isOwned = true →
      ∃ storage citadelLevel,
        world.planets.get? id = some { planet with storage, citadelLevel }) ∧
    (∀ settings now player request limit answer after,
      Storage.execute settings now player request ⟨mid, limit⟩ = (answer, after) →
      ∀ id planet later, mid.planets.get? id = some planet →
      after.world.planets.get? id = some later →
      later.storage ≠ planet.storage ∨ later.citadelLevel ≠ planet.citadelLevel →
      ∃ row, mid.players.get? player = some row ∧ row.sector = planet.sector ∧
        (planet.owner.player? = some player ∨
          ∃ corp line, planet.owner.corp? = some corp ∧ mid.corps.contains corp = true ∧
            mid.memberOf? player = some line ∧ line.corp = corp)) ∧
    (∀ world, mid.Leads world → ∀ id planet corp, mid.planets.get? id = some planet →
      planet.owner.corp? = some corp → mid.corps.contains corp = false →
      world.corps.contains corp = false) ∧
    (∀ after, mid.Next after → ∀ corp, mid.corps.contains corp = false →
      after.corps.contains corp = true → ∀ id planet, after.planets.get? id = some planet →
      planet.owner.corp? ≠ some corp) := by
  have vacant : ∀ id planet corp, start.planets.get? id = some planet →
      planet.owner.corp? = some corp → corp ≤ start.lastId := by
    rw [bare]
    exact nofun
  have chartered := leads.keeps
    (World.Chartered.mk reachable.filed reachable.rostered vacant) World.Chartered.next
  refine ⟨?tenure, ?access, ?dissolved, ?founded⟩
  case tenure =>
    intro world later id planet stored owned
    exact (later.tenure chartered.filed stored owned).2
  case access =>
    intro settings now player request limit answer after executed id planet later stored
    exact World.access_of_request chartered.filed chartered.rostered executed stored
  case dissolved =>
    intro world later id planet corp stored holds gone
    have bound := chartered.held id planet corp stored holds
    refine Bool.eq_false_iff.mpr fun present => ?_
    rcases later.succeeds.corps corp present with before | beyond
    · rw [gone] at before
      cases before
    · exact absurd bound (Nat.not_le_of_lt beyond)
  case founded =>
    intro after next corp absent present id planet stored holds
    have bound := chartered.holders next stored holds
    rcases next.succeeds.corps corp present with before | beyond
    · rw [absent] at before
      cases before
    · exact absurd bound (Nat.not_le_of_lt beyond)

/-- A pilot of the drill with the money for a colony. -/
def Drill.settler : World :=
  (World.empty.addUniverse layout).addPlayer
    { Settings.standard.newPlayer 7 "ada" 2 ⟨1, "Season 1", startTime⟩ startTime with
      credits := 5000 }

theorem Drill.settler_reachable : settler.Reachable :=
  .seed (.seed .empty (.layout _)) (.player _)

/-- The drill with a colony that has produced once. -/
def Drill.homestead : World :=
  (Storage.execute Settings.standard startTime 7 (namedRequest "PLANET" "COLONIZE" "Haven")
    (.ofWorld settler)).2.world.planetTick.1

theorem Drill.homestead_leads : settler.Leads homestead :=
  .tail (.single (.command rfl)) .planetTick

/-- The settler takes goods from the colony, which stays theirs, from where they
are. -/
theorem planets_keep_owners_colony :
    let loaded := (Storage.execute Settings.standard Drill.startTime 7
      (Drill.cargoRequest "PLANET" "LOAD" "ORE" 5) (.ofWorld Drill.homestead)).2.world
    ∃ planet storage citadelLevel, Drill.homestead.planets.get? 1 = some planet ∧
      loaded.planets.get? 1 = some { planet with storage, citadelLevel } ∧
      storage ≠ planet.storage ∧
      ∃ row, Drill.homestead.players.get? 7 = some row ∧ row.sector = planet.sector := by
  intro loaded
  obtain ⟨tenure, access, _⟩ :=
    planets_keep_owners Drill.settler_reachable rfl Drill.homestead_leads
  have settled : ((Drill.homestead.planets.get? 1).map fun planet =>
      (planet.owner.isOwned, planet.storage.ore)) = some (true, 10) := by decide +kernel
  have taken : ((loaded.planets.get? 1).map fun planet => planet.storage.ore) = some 5 := by
    decide +kernel
  obtain ⟨planet, stored, owned⟩ := Option.map_eq_some_iff.mp settled
  obtain ⟨storage, citadelLevel, kept⟩ :=
    tenure loaded (.single (.command rfl)) 1 planet stored (congrArg Prod.fst owned)
  have different : storage ≠ planet.storage := by
    intro same
    rw [kept, same] at taken
    have full : planet.storage.ore = 10 := congrArg Prod.snd owned
    have left : planet.storage.ore = 5 := Option.some.inj taken
    cases full.symm.trans left
  obtain ⟨row, found, here, _⟩ := access _ _ _ _ none _ _ rfl 1 planet _ stored kept
    (.inl different)
  exact ⟨planet, storage, citadelLevel, stored, kept, different, row, found, here⟩

end Starlane
