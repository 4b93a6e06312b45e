import Starlane.Chance.Dice
import Starlane.Port

/-!
# Protectorates

The standing force of a protectorate sector, which changes at random from time to time.
-/

namespace Starlane.Protectorate

open Chance

/-- The fewest fighters of a protectorate sector. -/
def fightersMin : Nat := 25

/-- The most fighters of a protectorate sector. -/
def fightersMax : Nat := 200

variable {γ : Type} [Dice γ]

/-- The fighters of a protectorate sector. -/
def rollFighters (dice : γ) : Nat × γ :=
  let (extra, dice) := below (fightersMax + 1 - fightersMin) dice
  (fightersMin + extra, dice)

/-- The protectorate sectors of a list with fresh fighters, drawn in their order. -/
def muster (dice : γ) : List Sector → List Sector × γ
  | [] => ([], dice)
  | sector :: rest =>
    if sector.isProtectorate then
      let (fighters, dice) := rollFighters dice
      let (mustered, dice) := muster dice rest
      ({ sector with fighters } :: mustered, dice)
    else muster dice rest

end Starlane.Protectorate
