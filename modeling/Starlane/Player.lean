import Starlane.Commodity
import Starlane.Identity
import Starlane.Ship

/-!
# Players

The record of a player, and the commander: a player as loaded for a command, with a snapshot of
the corporation they belong to.
-/

namespace Starlane

/-- The role of a member in a corporation. -/
inductive Role where
  | leader
  | officer
  | member
  deriving DecidableEq, Repr

namespace Role

/-- Every role. -/
def all : List Role :=
  [leader, officer, member]

/-- The upper-case code. -/
def code : Role → String
  | leader => "LEADER"
  | officer => "OFFICER"
  | member => "MEMBER"

/-- The role of an upper-case code. -/
def ofCode? (code : String) : Option Role :=
  all.find? fun role => role.code == code

/-- Whether the role may draw on the corporation's bank. -/
def canWithdraw : Role → Bool
  | leader | officer => true
  | member => false

@[simp] theorem ofCode?_code (role : Role) : ofCode? role.code = some role := by
  cases role <;> decide

end Role

/-- The record of a player. -/
structure Player where
  id : PlayerId
  username : String
  isAdmin : Bool
  mustChangePassword : Bool
  credits : Int
  xp : Int
  level : Nat
  ship : Ship
  cargoUpgrades : Nat
  turnUpgrades : Nat
  turns : Nat
  turnsMax : Nat
  sector : SectorId
  cargoMax : Nat
  cargo : Goods Nat
  /-- The time up to which turns have been granted; unset before the first grant. -/
  regenStamp : Option Int
  season : SeasonId
  seasonName : String
  deriving DecidableEq, Repr

namespace Player

/-- The cargo space left. -/
def freeCargo (player : Player) : Nat :=
  player.cargoMax - player.cargo.total

/-- The shortest interval at which turns are granted, in seconds. -/
def regenIntervalMin : Int := 10

/-- Grants one turn per whole interval since the stamp, as far as the ship stores them, and moves
the stamp by those intervals, so that a part of an interval is not lost.  A player without a stamp
only receives one.  Also returns the number of turns granted, those that did not fit included. -/
def regenerate (interval now : Int) (player : Player) : Player × Nat :=
  let interval := max interval regenIntervalMin
  match player.regenStamp with
  | none => ({ player with regenStamp := some now }, 0)
  | some stamp =>
    let elapsed := now - stamp
    if elapsed < interval then (player, 0)
    else
      let periods := elapsed / interval
      let granted := min periods.toNat counterMax
      ({ player with
          turns := min (addCapped player.turns granted) player.turnsMax
          regenStamp := some (stamp + periods * interval) },
       granted)

end Player

/-- What a player's record says about their corporation at the time it is loaded. -/
structure Membership where
  corp : CorpId
  name : String
  role : Role
  bank : Int
  deriving DecidableEq, Repr

/-- A player who gives commands, with their membership. -/
structure Commander extends Player where
  membership : Option Membership
  deriving DecidableEq, Repr

namespace Commander

/-- The corporation of a commander. -/
def corp? (commander : Commander) : Option CorpId :=
  commander.membership.map (·.corp)

/-- The commander after the grant of turns. -/
def regenerate (interval now : Int) (commander : Commander) : Commander :=
  { commander with toPlayer := (commander.toPlayer.regenerate interval now).1 }

end Commander

end Starlane
