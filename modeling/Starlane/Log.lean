/-!
# Log lines
-/

namespace Starlane

/-- The kind of a log line. -/
inductive LogKind where
  | system
  | action
  | combat
  | corp
  deriving DecidableEq, Repr

namespace LogKind

/-- Every kind. -/
def all : List LogKind :=
  [system, action, combat, corp]

/-- The upper-case code. -/
def code : LogKind → String
  | system => "SYSTEM"
  | action => "ACTION"
  | combat => "COMBAT"
  | corp => "CORP"

/-- The kind of an upper-case code. -/
def ofCode? (code : String) : Option LogKind :=
  all.find? fun kind => kind.code == code

@[simp] theorem ofCode?_code (kind : LogKind) : ofCode? kind.code = some kind := by
  cases kind <;> decide

end LogKind

/-- A line of a player's log. -/
structure LogEntry where
  time : Int
  kind : LogKind
  message : String
  deriving DecidableEq, Repr

/-- The most lines that a player's log keeps. -/
def logKeep : Nat := 50

/-- Of one player's line numbers in any order, those past the newest `keep`, newest first. -/
def idsToPrune (ids : List Nat) (keep : Nat) : List Nat :=
  (ids.mergeSort fun a b => decide (b ≤ a)).drop keep

end Starlane
