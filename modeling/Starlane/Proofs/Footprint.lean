import Starlane.Proofs.Arrival
import Starlane.Proofs.Writing

/-!
# What the writes of a deed touch

Every write belongs to one part of the world, and each kind of command writes
to few parts. No deed writes to a player's row: the commander is saved by the
command itself, under the number they came with.
-/

namespace Starlane

/-- The parts of a world that writes belong to. A roster belongs to its
corporation. -/
inductive Part where
  | players
  | discoveries
  | ports
  | planets
  | corps
  | messages
  | minefields
  | intel
  | logs
  deriving DecidableEq, Repr

/-- The part that a write belongs to. -/
def Write.part : Write → Part
  | savePlayer _ => .players
  | discover _ _ => .discoveries
  | savePort _ => .ports
  | insertPlanet _ | savePlanet _ => .planets
  | insertCorp _ _ | saveCorp _ | deleteCorp _ => .corps
  | insertMember _ | setRole _ _ _ | deleteMember _ _ => .corps
  | insertMessage _ => .messages
  | insertMinefield _ | saveMinefield _ | deleteMinefield _ => .minefields
  | saveIntel _ _ | deleteIntel _ _ => .intel
  | insertLog _ _ | pruneLogs _ _ => .logs

/-- The parts that a command may write to besides the commander's own row and
log. -/
def Command.parts : Command → List Part
  | scan => [.discoveries, .intel]
  | move _ => [.discoveries, .minefields]
  | trade _ _ _ => [.ports]
  | planet _ => [.planets]
  | corp _ => [.corps, .messages, .logs]
  | mine _ => [.minefields]
  | _ => []

namespace World

theorem writtenAll_untouched {β : Type} (get : World → β) {changes : List Write}
    (untouched : ∀ change ∈ changes, ∀ world : World, get (world.written change) = get world)
    (world : World) : get (world.writtenAll changes) = get world := by
  induction changes generalizing world with
  | nil => rfl
  | cons change rest ih =>
    have others := ih (fun later member => untouched later (.tail _ member)) (world.written change)
    exact others.trans (untouched change (.head _) world)

variable {changes : List Write}

theorem writtenAll_players (apart : ∀ change ∈ changes, change.part ≠ .players) (world : World) :
    (world.writtenAll changes).players = world.players := by
  refine writtenAll_untouched (·.players) (fun change member world => ?_) world
  have other := apart change member
  cases change with
  | savePlayer => exact absurd rfl other
  | _ => rfl

theorem writtenAll_ports (apart : ∀ change ∈ changes, change.part ≠ .ports) (world : World) :
    (world.writtenAll changes).ports = world.ports := by
  refine writtenAll_untouched (·.ports) (fun change member world => ?_) world
  have other := apart change member
  cases change with
  | savePort => exact absurd rfl other
  | _ => rfl

theorem writtenAll_planets (apart : ∀ change ∈ changes, change.part ≠ .planets) (world : World) :
    (world.writtenAll changes).planets = world.planets := by
  refine writtenAll_untouched (·.planets) (fun change member world => ?_) world
  have other := apart change member
  cases change with
  | insertPlanet | savePlanet => exact absurd rfl other
  | _ => rfl

theorem writtenAll_corps (apart : ∀ change ∈ changes, change.part ≠ .corps) (world : World) :
    (world.writtenAll changes).corps = world.corps := by
  refine writtenAll_untouched (·.corps) (fun change member world => ?_) world
  have other := apart change member
  cases change with
  | insertCorp | saveCorp | deleteCorp => exact absurd rfl other
  | _ => rfl

theorem writtenAll_members (apart : ∀ change ∈ changes, change.part ≠ .corps) (world : World) :
    (world.writtenAll changes).members = world.members := by
  refine writtenAll_untouched (·.members) (fun change member world => ?_) world
  have other := apart change member
  cases change with
  | deleteCorp | insertMember | setRole | deleteMember => exact absurd rfl other
  | _ => rfl

theorem writtenAll_discoveries (apart : ∀ change ∈ changes, change.part ≠ .discoveries)
    (world : World) : (world.writtenAll changes).discoveries = world.discoveries := by
  refine writtenAll_untouched (·.discoveries) (fun change member world => ?_) world
  have other := apart change member
  cases change with
  | discover => exact absurd rfl other
  | _ => rfl

theorem writtenAll_intel (apart : ∀ change ∈ changes, change.part ≠ .intel) (world : World) :
    (world.writtenAll changes).intel = world.intel := by
  refine writtenAll_untouched (·.intel) (fun change member world => ?_) world
  have other := apart change member
  cases change with
  | saveIntel | deleteIntel => exact absurd rfl other
  | _ => rfl

theorem writtenAll_minefields (apart : ∀ change ∈ changes, change.part ≠ .minefields)
    (world : World) : (world.writtenAll changes).minefields = world.minefields := by
  refine writtenAll_untouched (·.minefields) (fun change member world => ?_) world
  have other := apart change member
  cases change with
  | insertMinefield | saveMinefield | deleteMinefield => exact absurd rfl other
  | _ => rfl

end World

namespace Plan

theorem handover_part {membership : Membership} {leaver : PlayerId} {members : List Member}
    {change : Write} (member : change ∈ handover membership leaver members) :
    change.part = .corps := by
  unfold handover at member
  split at member
  · rw [List.mem_singleton.mp member]
    rfl
  · cases member

theorem dissolution_part {membership : Membership} {members : List Member} {change : Write}
    (member : change ∈ dissolution membership members) : change.part = .corps := by
  unfold dissolution at member
  split at member
  · rw [List.mem_singleton.mp member]
    rfl
  · cases member

theorem delivery_part {members : List Member} {now : Int} {line : String} {change : Write}
    (member : change ∈ delivery members now line) : change.part = .logs := by
  obtain ⟨recipient, _, member⟩ := List.mem_flatMap.mp member
  rcases List.mem_cons.mp member with rfl | member
  · rfl
  · rw [List.mem_singleton.mp member]
    rfl

theorem change_part {changes : List Minefield.Change} {change : Write}
    (member : change ∈ changes.map Minefield.Change.toWrite) : change.part = .minefields := by
  obtain ⟨origin, _, rfl⟩ := List.mem_map.mp member
  cases origin <;> rfl

end Plan

namespace Deed

variable {look : Lookup} {now : Int} {commander : Commander} {command : Command}
  {effects : Effects}

/-- A deed writes to the parts of its command only. -/
theorem parts (deed : Deed look now commander command effects) :
    ∀ change ∈ effects.writes, change.part ∈ command.parts := by
  intro change member
  cases deed with
  | informed | foundClear | boughtShip | soldShip | upgradedCargo | upgradedTurns => cases member
  | scannedVoid | scannedPort =>
    rcases List.mem_cons.mp member with rfl | renewed
    · exact .head _
    · rw [List.mem_singleton.mp renewed]
      exact .tail _ (.head _)
  | incorporated =>
    rcases List.mem_cons.mp member with rfl | enrolled
    · exact .head _
    · rw [List.mem_singleton.mp enrolled]
      exact .head _
  | moved =>
    rw [Plan.arrival_eq] at member
    rcases List.mem_cons.mp member with rfl | struck
    · exact .head _
    · rw [Plan.change_part struck]
      exact .tail _ (.head _)
  | resigned =>
    rcases List.mem_append.mp member with handed | member
    · rw [Plan.handover_part handed]
      exact .head _
    · rcases List.mem_cons.mp member with rfl | dissolved
      · exact .head _
      · rw [Plan.dissolution_part dissolved]
        exact .head _
  | announced =>
    rcases List.mem_cons.mp member with rfl | delivered
    · exact .tail _ (.head _)
    · rw [Plan.delivery_part delivered]
      exact .tail _ (.tail _ (.head _))
  | swept =>
    rw [Plan.change_part member]
    exact .head _
  | _ =>
    rw [List.mem_singleton.mp member]
    exact .head _

/-- A deed leaves every player's row alone. -/
theorem players (deed : Deed look now commander command effects) (world : World) :
    (world.writtenAll effects.writes).players = world.players := by
  refine World.writtenAll_players (fun change member same => ?_) world
  have listed := deed.parts change member
  rw [same] at listed
  cases command <;> simp [Command.parts] at listed

/-- A deed never makes another player of the commander. -/
theorem commander_id (deed : Deed look now commander command effects) :
    effects.commander.id = commander.id := by
  cases deed with
  | moved => rw [Plan.arrival_eq]
  | _ => rfl

/-- Only the reward changes experience and level. -/
theorem commander_rank (deed : Deed look now commander command effects) :
    effects.commander.xp = commander.xp ∧ effects.commander.level = commander.level := by
  cases deed with
  | moved =>
    rw [Plan.arrival_eq]
    exact ⟨rfl, rfl⟩
  | _ => exact ⟨rfl, rfl⟩

end Deed

/-- After an accepted request the row of the player is the commander of the
deed, with the reward; all other tables but the logs are those after the
deed. -/
theorem Accepted.state {settings : Settings} {now : Int} {player : PlayerId} {command : Command}
    {world after : World} {row : Player} {effects : Effects} {response : Response}
    (accepted : Accepted settings now player command world row effects response after)
    (own : row.id = player) :
    ∃ experience logs, after =
      { world.writtenAll effects.writes with
        players := world.players.insert player (Rank.award experience effects.commander.toPlayer).1
        logs } := by
  obtain ⟨logs, same⟩ := accepted.tables
  obtain ⟨turns, stamp, paid⟩ := command.paidBy_frame world settings now player row
  have deed := accepted.deed
  rw [paid] at deed
  have id : effects.commander.id = player := deed.commander_id.trans own
  rw [deed.players, id] at same
  exact ⟨_, logs, same⟩

end Starlane
