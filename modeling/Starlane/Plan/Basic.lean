import Starlane.Refusal
import Starlane.Store.Write

/-!
# Plans

A command is planned against one lookup: the plan is a refusal, a failure, or the effects of the
command.  Its writes stand where the command makes them, between the checks and the readings; what
stops a command after a write carries that write, for nothing takes it back.
-/

namespace Starlane

/-- What a command does when it is carried out. -/
structure Effects where
  /-- The commander afterwards, who is saved last. -/
  commander : Commander
  /-- The changes before that, in order. -/
  writes : List Write
  /-- What the player is told. -/
  message : String
  /-- The lines for the player's log. -/
  lines : List (LogKind × String)
  deriving DecidableEq, Repr

/-- Why a command has no effects. -/
inductive Halt where
  /-- The rules forbid it, after some writes. -/
  | refused (written : List Write) (reason : Refusal)
  /-- A record that it needs fails, after some writes. -/
  | failed (written : List Write) (failure : StoreFailure)
  deriving DecidableEq, Repr

/-- The halt of what comes after some writes. -/
def Halt.after (changes : List Write) : Halt → Halt
  | .refused written reason => .refused (changes ++ written) reason
  | .failed written failure => .failed (changes ++ written) failure

/-- The effects of a command, or why it has none. -/
abbrev Plan (α : Type) := Except Halt α

namespace Plan

/-- A refusal. -/
def refuse {α : Type} (reason : Refusal) : Plan α :=
  .error (.refused [] reason)

/-- Refuses unless a condition holds. -/
def require (condition : Bool) (reason : Refusal) : Plan Unit :=
  if condition then .ok () else refuse reason

/-- The value that must be there, or else a refusal. -/
def expect {α : Type} (value : Option α) (reason : Refusal) : Plan α :=
  match value with
  | some value => .ok value
  | none => refuse reason

/-- A record that is read. -/
def read {α : Type} : Except StoreFailure α → Plan α
  | .ok value => .ok value
  | .error failure => .error (.failed [] failure)

/-- Makes some writes and goes on with the rest: they come before all that the rest writes, also
where it is refused or fails. -/
def writing (changes : List Write) : Plan Effects → Plan Effects
  | .ok effects => .ok { effects with writes := changes ++ effects.writes }
  | .error halt => .error (halt.after changes)

end Plan

namespace Effects

/-- Effects whose message is also their one log line. -/
def logged (commander : Commander) (writes : List Write) (kind : LogKind) (message : String) :
    Effects :=
  ⟨commander, writes, message, [(kind, message)]⟩

/-- Effects without a log line. -/
def silent (commander : Commander) (writes : List Write) (message : String) : Effects :=
  ⟨commander, writes, message, []⟩

end Effects

end Starlane
