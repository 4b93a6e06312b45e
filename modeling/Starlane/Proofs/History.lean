import Starlane.Drill.Basic
import Starlane.Drill.Layout
import Starlane.Proofs.Commit
import Starlane.World.Seed
import Starlane.World.Tick

/-!
# Histories of a world

A step of a game is a player joining, a command, or a ticker. A run is a list
of steps from a start, each with the world after it. Reachable worlds may also
have been laid out by hand between steps, in any order.
-/

namespace Starlane

open Chance

/-- What happens in one step. -/
inductive Occurrence where
  | joined (player : PlayerId)
  | commanded (player : PlayerId) (command : Command) (accepted : Bool)
  | ticked
  deriving DecidableEq, Repr

/-- Whether a request was answered and accepted. -/
def wasAccepted : Except StoreFailure Response → Bool
  | .ok response => response.ok
  | .error _ => false

/-- The steps of a game. Numbers of new players are fresh; commands may come
from anybody at any time, and may be refused or fail. -/
inductive Step (settings : Settings) (world : World) : Occurrence → World → Prop
  | join {now : Int} {id : PlayerId} {username : String}
      (fresh : world.players.get? id = none) :
      Step settings world (.joined id) (world.join settings now id username).2
  | command {now : Int} {player : PlayerId} {request : Request}
      {answer : Except StoreFailure Response} {after : Storage}
      (executed : Storage.execute settings now player request (.ofWorld world) =
        (answer, after)) :
      Step settings world (.commanded player (.ofRequest request) (wasAccepted answer)) after.world
  | portTick : Step settings world .ticked world.portTick.1
  | planetTick : Step settings world .ticked world.planetTick.1
  | protectorateTick {γ : Type} [Dice γ] {dice : γ} :
      Step settings world .ticked (world.protectorateTick dice).1
  | eventTick {γ : Type} [Dice γ] {now : Int} {dice : γ} :
      Step settings world .ticked (world.eventTick now dice).1

/-- A step of a run and the world after it. -/
structure Stage where
  what : Occurrence
  world : World

/-- The finite runs from a start, with all their stages. -/
inductive Run (settings : Settings) (start : World) : List Stage → World → Prop
  | start : Run settings start [] start
  | step {stages : List Stage} {world after : World} {what : Occurrence}
      (run : Run settings start stages world) (step : Step settings world what after) :
      Run settings start (stages ++ [⟨what, after⟩]) after

/-- Additions to a world by hand. -/
inductive World.Seeded (world : World) : World → Prop
  | sector (id : SectorId) (name : String) : Seeded world (world.addSector id name)
  | protectorate (id : SectorId) (fighters : Nat) : Seeded world (world.protect id fighters)
  | warp (ends : SectorId × SectorId) : Seeded world (world.addWarp ends)
  | port (port : Port) : Seeded world (world.addPort port)
  | layout (layout : Universe) : Seeded world (world.addUniverse layout)
  | season (season : Season) : Seeded world (world.addSeason season)
  | player (player : Player) : Seeded world (world.addPlayer player)
  | planet (planet : Planet) : Seeded world (world.addPlanet planet)
  | minefield (field : Minefield) : Seeded world (world.addMinefield field)
  | event (event : Event) : Seeded world (world.addEvent event)

/-- The worlds that seeding and steps under any settings lead to. -/
inductive World.Reachable : World → Prop
  | empty : Reachable World.empty
  | seed {world after : World} (before : Reachable world) (seeded : world.Seeded after) :
      Reachable after
  | step {settings : Settings} {world after : World} {what : Occurrence}
      (before : Reachable world) (step : Step settings world what after) : Reachable after

/-- A run from a universe laid out in an empty world stays among the reachable
worlds. -/
theorem Run.reachable {settings : Settings} {start world : World} {stages : List Stage}
    (run : Run settings start stages world) (before : start.Reachable) : world.Reachable := by
  induction run with
  | start => exact before
  | step _ step ih => exact .step ih step

/-- A run as far as one of its stages is a run to the world of that stage. -/
theorem Run.upTo {settings : Settings} {start world : World} {stages earlier later : List Stage}
    {stage : Stage} (run : Run settings start stages world)
    (parts : stages = earlier ++ stage :: later) :
    Run settings start (earlier ++ [stage]) stage.world := by
  induction run generalizing later with
  | start => exact absurd parts.symm (List.append_ne_nil_of_right_ne_nil _ (List.cons_ne_nil _ _))
  | @step stages world after what run step ih =>
    rcases List.eq_nil_or_concat later with rfl | ⟨middle, final, rfl⟩
    · obtain ⟨rfl, last⟩ := List.append_inj' parts rfl
      cases last
      exact .step run step
    · rw [List.concat_eq_append, ← List.cons_append, ← List.append_assoc] at parts
      exact ih (List.append_inj' parts rfl).1

namespace World

/-- A join may start a season, and enters the player in a sector that exists, or
nobody if there is none. -/
theorem join_cases (world : World) (settings : Settings) (now : Int) (id : PlayerId)
    (username : String) :
    ∃ seasons, (world.join settings now id username).2 = { world with seasons } ∨
      ∃ start season, start ∈ world.sectors.keys ∧
        (world.join settings now id username).2 = ({ world with seasons } : World).addPlayer
          (settings.newPlayer id username start season now) := by
  have seasoned : ∃ seasons, (if world.seasons.values.isEmpty then
      world.addSeason (world.currentSeason now) else world) = { world with seasons } := by
    split
    · exact ⟨_, rfl⟩
    · exact ⟨world.seasons, rfl⟩
  obtain ⟨seasons, same⟩ := seasoned
  refine ⟨seasons, ?_⟩
  unfold join
  dsimp only
  rw [same]
  split
  · exact .inl rfl
  · next start first => exact .inr ⟨start, _, List.mem_of_head? first, rfl⟩

/-- A join touches players, what they know, and seasons. -/
theorem join_frame (world : World) (settings : Settings) (now : Int) (id : PlayerId)
    (username : String) :
    ∃ players discoveries seasons, (world.join settings now id username).2 =
      { world with players, discoveries, seasons } := by
  obtain ⟨seasons, same | ⟨start, season, _, same⟩⟩ :=
    world.join_cases settings now id username
  · exact ⟨_, _, seasons, same⟩
  · exact ⟨_, _, seasons, same⟩

/-- A round of the event ticker touches events, and counts the one it starts. -/
theorem eventTick_frame {γ : Type} [Dice γ] (world : World) (now : Int) (dice : γ) :
    ∃ events lastId, world.lastId ≤ lastId ∧
      (world.eventTick now dice).1 = { world with events, lastId } := by
  unfold eventTick
  dsimp only
  split
  · exact ⟨_, _, Nat.le_refl _, rfl⟩
  · exact ⟨_, _, Nat.le_succ _, rfl⟩

end World

/-- The universe of the drill with a pilot at the port of sector 2. -/
def Drill.docked : World :=
  (World.empty.addUniverse layout).addPlayer
    (Settings.standard.newPlayer 7 "ada" 2 ⟨1, "Season 1", startTime⟩ startTime)

theorem Drill.docked_reachable : docked.Reachable :=
  .seed (.seed .empty (.layout _)) (.player _)

end Starlane
