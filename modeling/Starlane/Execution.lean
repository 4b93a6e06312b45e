import Starlane.Plan
import Starlane.Report
import Starlane.Settings

/-!
# Carrying out a command

A request is planned against the state before it, for the commander as they are after the grant
of turns and the payment of the command's cost.  A refused command makes the writes that come
before its refusal and saves the player with the grant of turns, without the command's changes; a
failure is for the caller to undo.
-/

namespace Starlane

/-- The turns that a commander pays for a command; administrators pay none. -/
def Command.costFor (command : Command) (commander : Commander) : Nat :=
  if commander.isAdmin then 0 else command.turnCost

/-- The commander after paying the turns of a command. -/
def Command.charge (command : Command) (commander : Commander) : Plan Commander := do
  Plan.require (!commander.mustChangePassword) .passwordChange
  let cost := command.costFor commander
  Plan.require (decide (cost ≤ commander.turns)) .turnsShort
  return { commander with turns := commander.turns - cost }

namespace Effects

/-- The effects with the award of experience on top; a rise in level is announced and logged. -/
def rewarded (effects : Effects) (experience : Int) : Effects :=
  let (player, promotion) := Rank.award experience effects.commander.toPlayer
  let commander := { effects.commander with toPlayer := player }
  match promotion with
  | none => { effects with commander }
  | some promotion =>
    { effects with
      commander
      message := s!"{effects.message}\n{promotion.announcement}"
      lines := effects.lines ++ [(.system, promotion.announcement)] }

/-- The lines that reach the log: all but empty ones. -/
def entries (effects : Effects) (now : Int) : List LogEntry :=
  (effects.lines.filter fun line => !line.2.isEmpty).map fun line => ⟨now, line.1, line.2⟩

/-- The writes for the log: the lines, and a pruning if there were any. -/
def logWrites (effects : Effects) (now : Int) : List Write :=
  let player := effects.commander.id
  let entries := effects.entries now
  entries.map (Write.insertLog player) ++
    if entries.isEmpty then [] else [.pruneLogs player logKeep]

/-- Everything that is written: the effects on the world, then the player, then the log. -/
def allWrites (effects : Effects) (now : Int) : List Write :=
  effects.writes ++ .savePlayer effects.commander.toPlayer :: effects.logWrites now

end Effects

/-- What a command comes to: its effects with the reward, or why there are none. -/
def Command.outcome (look : Lookup) (now : Int) (command : Command) (commander : Commander) :
    Plan Effects := do
  let paid ← command.charge commander
  let effects ← command.plan look now paid
  let cost := command.costFor commander
  return effects.rewarded (Rank.reward command.kindCode command.actionCode cost)

namespace Store

variable {σ : Type} [Store σ]

/-- Carries out some writes and responds from the state after them. -/
def settle (settings : Settings) (now : Int) (commander : Commander) (message : String)
    (refusal : Option Refusal) (writes : List Write) (store : σ) :
    Except StoreFailure Response × σ :=
  match writeAll writes store with
  | (.error failure, store) => (.error failure, store)
  | (.ok _, store) =>
    let shown := Settings.shownLogs settings.recentLogLimit
    ((lookup store).respond shown now commander message refusal, store)

/-- Carries out a player's request. -/
def execute (settings : Settings) (now : Int) (player : PlayerId) (request : Request)
    (store : σ) : Except StoreFailure Response × σ :=
  let look := lookup store
  match look.commander player with
  | .error failure => (.error failure, store)
  | .ok loaded =>
    let commander := loaded.regenerate settings.turnRegenSeconds now
    match (Command.ofRequest request).outcome look now commander with
    | .ok effects =>
      settle settings now effects.commander effects.message none (effects.allWrites now) store
    | .error (.refused written reason) =>
      settle settings now commander reason.message (some reason)
        (written ++ [.savePlayer commander.toPlayer]) store
    | .error (.failed written failure) =>
      match writeAll written store with
      | (.error earlier, store) => (.error earlier, store)
      | (.ok _, store) => (.error failure, store)

end Store

end Starlane
