import Starlane.Proofs.Table
import Starlane.World.Change

/-!
# The world after a write

`World.apply` guards a write and carries it out. Here the two are apart: when a
write is admitted, and the world after it in closed form, one equation for each
table.
-/

namespace Starlane.World

variable {world after : World} {change : Write}

/-- When a write does not fail. -/
def Admits (world : World) : Write → Prop
  | .savePlayer player => world.players.contains player.id = true
  | .savePort port => world.ports.contains port.sector = true
  | .savePlanet planet => world.planets.contains planet.id = true
  | .saveCorp corp => world.corps.contains corp.id = true
  | .saveMinefield field => world.minefields.contains field.id = true
  | .insertMember member => world.memberOf? member.player = none
  | .setRole corp player _ => world.members.any (isMember corp player) = true
  | _ => True

/-- The world after a write that does not fail. -/
def written (world : World) : Write → World
  | .savePlayer player => { world with players := world.players.insert player.id player }
  | .discover player sector =>
    { world with discoveries := world.discoveries.insert (player, sector) () }
  | .savePort port => { world with ports := world.ports.insert port.sector port }
  | .insertPlanet planet => world.addPlanet planet
  | .savePlanet planet => { world with planets := world.planets.insert planet.id planet }
  | .insertCorp name _ => world.addCorp name
  | .saveCorp corp => { world with corps := world.corps.insert corp.id corp }
  | .deleteCorp corp =>
    { world with
      corps := world.corps.erase corp
      members := world.members.filter fun member => member.corp != corp }
  | .insertMember member => { world with members := world.members ++ [member] }
  | .setRole corp player role =>
    { world with
      members := world.members.map fun member =>
        if isMember corp player member then { member with role } else member }
  | .deleteMember corp player =>
    { world with members := world.members.filter fun member => !isMember corp player member }
  | .insertMessage message => { world with messages := world.messages ++ [message] }
  | .insertMinefield field => world.addMinefield field
  | .saveMinefield field => { world with minefields := world.minefields.insert field.id field }
  | .deleteMinefield field => { world with minefields := world.minefields.erase field }
  | .saveIntel player intel =>
    { world with intel := world.intel.insert (player, intel.sector) intel }
  | .deleteIntel player sector => { world with intel := world.intel.erase (player, sector) }
  | .insertLog player entry => { world with logs := world.logs ++ [(player, entry)] }
  | .pruneLogs player keep =>
    { world with logs := dropOldest player (world.excessLogs player keep) world.logs }

theorem replace_success {α : Type} {table replaced : Table Nat α} {entity : Entity} {key : Nat}
    {value : α} (success : replace table entity key value = .ok replaced) :
    table.contains key = true ∧ replaced = table.insert key value := by
  unfold replace at success
  split at success
  · next present => cases success; exact ⟨present, rfl⟩
  · cases success

theorem replace_present {α : Type} {table : Table Nat α} {entity : Entity} {key : Nat} {value : α}
    (present : table.contains key = true) :
    replace table entity key value = .ok (table.insert key value) :=
  if_pos present

/-- What a write that does not fail has checked and done. -/
theorem apply_success (success : world.apply change = .ok after) :
    world.Admits change ∧ after = world.written change := by
  cases change with
  | savePlayer | savePort | savePlanet | saveCorp | saveMinefield =>
    simp only [apply, bind, Except.bind] at success
    split at success
    · cases success
    · next replaced =>
      obtain ⟨present, rfl⟩ := replace_success replaced
      cases success
      exact ⟨present, rfl⟩
  | insertMember member =>
    simp only [apply, addMember] at success
    split at success
    · cases success
    · next free =>
      cases success
      exact ⟨Option.not_isSome_iff_eq_none.mp free, rfl⟩
  | setRole corp player role =>
    simp only [apply, setRole] at success
    split at success
    · next present => cases success; exact ⟨present, rfl⟩
    · cases success
  | _ => cases success; exact ⟨trivial, rfl⟩

/-- The world after some writes, none of which fails. -/
def writtenAll (world : World) (changes : List Write) : World :=
  changes.foldl written world

theorem writtenAll_append (world : World) (first second : List Write) :
    world.writtenAll (first ++ second) = (world.writtenAll first).writtenAll second :=
  List.foldl_append

/-- A property that every admitted write keeps. -/
def Kept (holds : World → Prop) : Prop :=
  ∀ (world : World) (change : Write), holds world → world.Admits change →
    holds (world.written change)

section Tables

/-! Tables after a write: only the writes about a table change it. -/

theorem written_players (world : World) (change : Write) :
    (world.written change).players =
      match change with
      | .savePlayer player => world.players.insert player.id player
      | _ => world.players := by
  cases change <;> rfl

theorem written_ports (world : World) (change : Write) :
    (world.written change).ports =
      match change with
      | .savePort port => world.ports.insert port.sector port
      | _ => world.ports := by
  cases change <;> rfl

theorem written_planets (world : World) (change : Write) :
    (world.written change).planets =
      match change with
      | .insertPlanet planet =>
        world.planets.insert (world.lastId + 1) { planet with id := world.lastId + 1 }
      | .savePlanet planet => world.planets.insert planet.id planet
      | _ => world.planets := by
  cases change <;> rfl

theorem written_minefields (world : World) (change : Write) :
    (world.written change).minefields =
      match change with
      | .insertMinefield field =>
        world.minefields.insert (world.lastId + 1) { field with id := world.lastId + 1 }
      | .saveMinefield field => world.minefields.insert field.id field
      | .deleteMinefield field => world.minefields.erase field
      | _ => world.minefields := by
  cases change <;> rfl

end Tables

/-- Whether a write only changes a log. -/
def onlyLogs : Write → Bool
  | .insertLog _ _ | .pruneLogs _ _ => true
  | _ => false

theorem writtenAll_onlyLogs (world : World) {changes : List Write}
    (logs : ∀ change ∈ changes, onlyLogs change = true) :
    world.writtenAll changes = { world with logs := (world.writtenAll changes).logs } := by
  induction changes generalizing world with
  | nil => rfl
  | cons first rest ih =>
    have others := ih (world.written first) fun change member => logs change (.tail _ member)
    have only := logs first (.head _)
    change (world.written first).writtenAll rest = _
    rw [others]
    cases first with
    | insertLog | pruneLogs => rfl
    | _ => cases only

end Starlane.World
