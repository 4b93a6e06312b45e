import Starlane.Player

/-!
# Corporations
-/

namespace Starlane

/-- A corporation and its bank. -/
structure Corporation where
  id : CorpId
  name : String
  bank : Int
  deriving DecidableEq, Repr

/-- A line of a corporation's roster. -/
structure Member where
  corp : CorpId
  player : PlayerId
  role : Role
  joinedAt : Int
  deriving DecidableEq, Repr

/-- A message to a corporation. -/
structure CorpMessage where
  corp : CorpId
  player : PlayerId
  text : String
  time : Int
  deriving DecidableEq, Repr

/-- The longest message, in characters. -/
def messageLengthMax : Nat := 200

/-- Roster lines in order of joining time; lines of one time keep their order. -/
def Member.sortByJoining (members : List Member) : List Member :=
  members.mergeSort fun a b => decide (a.joinedAt ≤ b.joinedAt)

/-- A line of the rankings. -/
structure Ranking where
  username : String
  credits : Int
  corpName : Option String
  deriving DecidableEq, Repr

/-- The richest `limit` players: by credits, the most first, then by name. -/
def Ranking.top (limit : Nat) (rows : List Ranking) : List Ranking :=
  (rows.mergeSort fun a b =>
    decide (b.credits < a.credits) ||
      (decide (a.credits = b.credits) && decide (a.username ≤ b.username))).take limit

/-- A season of play. -/
structure Season where
  id : SeasonId
  name : String
  startedAt : Int
  deriving DecidableEq, Repr

end Starlane
