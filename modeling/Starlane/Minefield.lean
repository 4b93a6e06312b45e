import Starlane.Bounds
import Starlane.Identity

/-!
# Minefields

Which mines are hostile to whom, in what order fields lose mines, and what detonations cost.
A sweep takes from the largest fields first, a strike from the oldest; both take mines with
`consume` over fields in that order.
-/

namespace Starlane

/-- A field of mines in a sector. -/
structure Minefield where
  id : MinefieldId
  sector : SectorId
  owner : Owner
  qty : Nat
  createdAt : Int
  deriving DecidableEq, Repr

namespace Minefield

/-- Whether the mines threaten a player: neither did the player lay them nor do they belong to the
player's corporation. -/
def isHostileTo (field : Minefield) (player : PlayerId) (corp : Option CorpId) : Bool :=
  if field.owner.player? = some player then false
  else
    match field.owner.corp?, corp with
    | some holder, some corp => holder != corp
    | _, _ => true

/-- The fields with mines that threaten a player. -/
def hostile (fields : List Minefield) (player : PlayerId) (corp : Option CorpId) :
    List Minefield :=
  fields.filter fun field => decide (0 < field.qty) && field.isHostileTo player corp

/-- The hostile fields, largest first; of two equally large ones the one with the smaller number. -/
def sweepOrder (fields : List Minefield) (player : PlayerId) (corp : Option CorpId) :
    List Minefield :=
  (hostile fields player corp).mergeSort fun a b =>
    decide (b.qty < a.qty) || (a.qty == b.qty && decide (a.id ≤ b.id))

/-- The hostile fields, oldest first; of two equally old ones the one with the smaller number. -/
def strikeOrder (fields : List Minefield) (player : PlayerId) (corp : Option CorpId) :
    List Minefield :=
  (hostile fields player corp).mergeSort fun a b =>
    decide (a.createdAt < b.createdAt) || (a.createdAt == b.createdAt && decide (a.id ≤ b.id))

/-- What happens to a field that loses mines: it keeps fewer, or it is gone. -/
inductive Change where
  | shrink (field : Minefield) (qty : Nat)
  | remove (field : Minefield)
  deriving DecidableEq, Repr

/-- Takes up to `amount` mines from the fields in order.  Returns the number taken and the change
of every field that lost mines; empty fields are passed over. -/
def consume : List Minefield → Nat → Nat × List Change
  | [], _ => (0, [])
  | field :: rest, amount =>
    if amount = 0 then (0, [])
    else if field.qty = 0 then consume rest amount
    else
      let taken := min field.qty amount
      let change :=
        if field.qty ≤ amount then Change.remove field else .shrink field (field.qty - taken)
      let (more, changes) := consume rest (amount - taken)
      (taken + more, change :: changes)

/-- The mines of a list of fields, which stop at the largest counter. -/
def total (fields : List Minefield) : Nat :=
  fields.foldl (fun sum field => addCapped sum field.qty) 0

/-- The mines that one sweep removes. -/
def sweepCapacity : Nat := 10

/-- The most mines that go off when a ship enters a sector. -/
def triggerCap : Nat := 5

/-- The credits of damage per mine. -/
def damagePerMine : Int := 50

/-- The most mines laid by one command. -/
def deployMax : Nat := 1000

/-- The mines that go off when a ship meets a number of hostile ones. -/
def triggered (hostile : Nat) : Nat :=
  min hostile triggerCap

/-- The repair bill for detonations, at most what the player has. -/
def strikeDamage (detonated : Nat) (credits : Int) : Int :=
  min (detonated * damagePerMine) (max credits 0)

/-- Mines are hostile to exactly those to whom their owner grants no access. -/
theorem isHostileTo_eq_not_grantsAccess (field : Minefield) (player : PlayerId)
    (corp : Option CorpId) :
    field.isHostileTo player corp = !field.owner.grantsAccess player corp := by
  cases h : field.owner <;> cases corp <;>
    simp [isHostileTo, Owner.player?, Owner.corp?, Owner.grantsAccess, h] <;> grind

end Minefield

end Starlane
