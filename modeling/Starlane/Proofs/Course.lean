import Mathlib.Logic.Relation
import Starlane.Proofs.Limit
import Starlane.Proofs.Roster

/-!
# Courses of a world

A course leads from any world on: players join under any number, taken or not,
requests come under any settings and any limit on writes, and the tickers run at
any time. The steps of a game are among what may happen; the rest is a request
that a limit undoes, and a join in the place of another player.
-/

namespace Starlane

open Chance

namespace World

/-- What may happen to a world next. -/
inductive Next (world : World) : World → Prop
  | join {settings : Settings} {now : Int} {id : PlayerId} {username : String} :
      Next world (world.join settings now id username).2
  | command {settings : Settings} {now : Int} {player : PlayerId} {request : Request}
      {limit : Option Nat} {answer : Except StoreFailure Response} {after : Storage}
      (executed : Storage.execute settings now player request ⟨world, limit⟩ = (answer, after)) :
      Next world after.world
  | portTick : Next world world.portTick.1
  | planetTick : Next world world.planetTick.1
  | protectorateTick {γ : Type} [Dice γ] {dice : γ} : Next world (world.protectorateTick dice).1
  | eventTick {γ : Type} [Dice γ] {now : Int} {dice : γ} : Next world (world.eventTick now dice).1

/-- Whether some course leads from one world to another. -/
def Leads : World → World → Prop :=
  Relation.ReflTransGen Next

variable {start world after : World}

/-- The steps of a game may happen next. -/
theorem Next.ofStep {settings : Settings} {what : Occurrence}
    (step : Step settings world what after) : world.Next after := by
  cases step with
  | join => exact .join
  | command executed => exact .command executed
  | portTick => exact .portTick
  | planetTick => exact .planetTick
  | protectorateTick => exact .protectorateTick
  | eventTick => exact .eventTick

/-- What happens next is nothing, a join, or a step of a game. -/
theorem Next.cases (next : world.Next after) :
    after = world ∨
    (∃ settings now id username, after = (world.join settings now id username).2) ∨
    ∃ settings what, Step settings world what after := by
  cases next with
  | join => exact .inr (.inl ⟨_, _, _, _, rfl⟩)
  | command executed =>
    rcases Storage.execute_unlimited executed with ⟨_, _, rfl⟩ | unlimited
    · exact .inl rfl
    · have step := Step.command unlimited
      exact .inr (.inr ⟨_, _, step⟩)
  | portTick => exact .inr (.inr ⟨.standard, _, .portTick⟩)
  | planetTick => exact .inr (.inr ⟨.standard, _, .planetTick⟩)
  | protectorateTick => exact .inr (.inr ⟨.standard, _, .protectorateTick⟩)
  | eventTick => exact .inr (.inr ⟨.standard, _, .eventTick⟩)

/-- What may happen next to every world on a course holds of its end, if it held
of the start. -/
theorem Leads.keeps {holds : World → Prop} (leads : start.Leads world) (before : holds start)
    (kept : ∀ {world after : World}, holds world → world.Next after → holds after) :
    holds world := by
  induction leads with
  | refl => exact before
  | tail _ next ih => exact kept ih next

/-- The runs of a game are courses. -/
theorem Leads.ofRun {settings : Settings} {stages : List Stage}
    (run : Run settings start stages world) : start.Leads world := by
  induction run with
  | start => exact .refl
  | step _ step ih => exact ih.tail (.ofStep step)

/-- The commander behind a request: the row of a player, with other turns, and
the snapshot of their corporation. -/
def Commands (world : World) (player : PlayerId) (row : Player) (commander : Commander) : Prop :=
  world.players.get? player = some row ∧ ∃ turns stamp, commander =
    { toPlayer := { row with turns, regenStamp := stamp }, membership := world.membershipOf player }

/-- Whatever happens next misfiles nothing. -/
theorem Filed.next (filed : world.Filed) (next : world.Next after) : after.Filed := by
  rcases next.cases with rfl | ⟨settings, now, id, username, rfl⟩ | ⟨_, _, step⟩
  · exact filed
  · exact filed.join settings now id username
  · exact filed.step step

/-- Whatever happens next keeps the rosters in order. -/
theorem Rostered.next (rostered : world.Rostered) (filed : world.Filed)
    (next : world.Next after) : after.Rostered := by
  rcases next.cases with rfl | ⟨settings, now, id, username, rfl⟩ | ⟨_, _, step⟩
  · exact rostered
  · obtain ⟨corps, members⟩ := world.join_corps settings now id username
    exact rostered.transfer members corps
  · exact rostered.step filed step

/-- On a course from a reachable world rows stay filed and rosters in order. -/
theorem Leads.ordered (leads : start.Leads world) (reachable : start.Reachable) :
    world.Filed ∧ world.Rostered := by
  induction leads with
  | refl => exact ⟨reachable.filed, reachable.rostered⟩
  | tail _ next ih => exact ⟨ih.1.next next, ih.2.next ih.1 next⟩

end World

/-- A request touches nothing but rows of players, or it carries out a deed of
its commander, whatever the limit. -/
theorem Storage.execute_deed {settings : Settings} {now : Int} {player : PlayerId}
    {request : Request} {storage after : Storage} {answer : Except StoreFailure Response}
    (executed : execute settings now player request storage = (answer, after)) :
    (∃ players, after.world = { storage.world with players }) ∨
    ∃ row commander effects players logs, storage.world.Commands player row commander ∧
      Deed storage.world.lookup now commander (.ofRequest request) effects ∧
      after.world = { storage.world.writtenAll effects.writes with players, logs } := by
  rcases outcomes executed with ⟨_, _, same⟩ | ⟨_, _, _, refused⟩ | ⟨_, row, effects, _, accepted⟩
  · exact .inl ⟨_, same⟩
  · exact .inl ⟨_, refused.committed⟩
  · obtain ⟨turns, stamp, paid⟩ :=
      Command.paidBy_frame (.ofRequest request) storage.world settings now player row
    have deed := accepted.deed
    rw [paid] at deed
    obtain ⟨logs, same⟩ := accepted.tables
    exact .inr ⟨row, _, effects, _, logs, ⟨accepted.found, turns, stamp, rfl⟩, deed, same⟩

/-- A world of the drill after a request. -/
def Drill.asked (player : PlayerId) (request : Request) (world : World) : World :=
  (Storage.execute Settings.standard startTime player request (.ofWorld world)).2.world

theorem Drill.asked_next (player : PlayerId) (request : Request) (world : World) :
    world.Next (asked player request world) :=
  .command rfl

end Starlane
