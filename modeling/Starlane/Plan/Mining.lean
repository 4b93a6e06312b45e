import Starlane.Command
import Starlane.Plan.Basic

/-!
# Laying and sweeping mines
-/

namespace Starlane.Plan

/-- The quantity of a deployment, if it is one. -/
def deployment (quantity : Int) : Plan Nat := do
  require (decide (1 ≤ quantity)) .deployTooSmall
  require (decide (quantity ≤ Minefield.deployMax)) .deployTooLarge
  return quantity.toNat

/-- Plans laying mines from the equipment on board, outside protectorates.  They join the field
that the player already has in the sector. -/
def deploy (look : Lookup) (now : Int) (commander : Commander) (quantity : Int) :
    Plan Effects := do
  let qty ← deployment quantity
  let here := commander.sector
  let sector ← read (look.sectorOrFail here)
  require (!sector.isProtectorate) .protectoratePeace
  require (decide (qty ≤ commander.cargo.equipment)) .minesShort
  let cargo := { commander.cargo with equipment := commander.cargo.equipment - qty }
  let owner := Owner.claimedBy commander.id commander.corp?
  let own := (look.minefields here).find? fun field => field.owner.player? == some commander.id
  let (change, total) :=
    match own with
    | some field =>
      let total := addCapped field.qty qty
      (Write.saveMinefield { field with qty := total, owner }, total)
    | none => (Write.insertMinefield ⟨0, here, owner, qty, now⟩, qty)
  writing [change] do
    return .logged { commander with cargo } [] .action
      s!"Deployed {qty} mines in sector {here}. Your minefield here is now {total}."

/-- Plans a sweep: up to ten hostile mines, from the largest fields first. -/
def sweep (look : Lookup) (commander : Commander) : Plan Effects :=
  let here := commander.sector
  let hostile := Minefield.sweepOrder (look.minefields here) commander.id commander.corp?
  let (swept, changes) := Minefield.consume hostile Minefield.sweepCapacity
  if swept = 0 then return .logged commander [] .system "No hostile mines detected."
  else
    writing (changes.map Minefield.Change.toWrite) do
      return .logged commander [] .action s!"Swept {swept} hostile mines in sector {here}."

/-- Plans an order for mines. -/
def mine (look : Lookup) (now : Int) (commander : Commander) : MineOrder → Plan Effects
  | .info =>
    return .logged commander [] .system
      "MINE DEPLOY \x7bqty\x7d (uses equipment cargo) | MINE SWEEP"
  | .deploy quantity => deploy look now commander quantity
  | .sweep => sweep look commander
  | .unknown => refuse (.unknownSubcommand .mine)

end Starlane.Plan
