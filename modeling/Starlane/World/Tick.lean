import Starlane.Event.Roll
import Starlane.Protectorate
import Starlane.World.Change

/-!
# Tickers of a world

What happens between commands: ports restock, planets produce, protectorates muster and events
come and go.
-/

namespace Starlane.World

open Chance

/-- Every port restocks.  Also returns how many of them changed. -/
def portTick (world : World) : World × Nat :=
  ({ world with ports := world.ports.mapValues fun _ port => port.restock },
   world.ports.values.countP fun port => port.restock != port)

/-- Every planet produces.  Also returns how many of them changed. -/
def planetTick (world : World) : World × Nat :=
  ({ world with planets := world.planets.mapValues fun _ planet => planet.produce },
   world.planets.values.countP fun planet => planet.produce != planet)

section Draws

variable {γ : Type} [Dice γ]

/-- Every protectorate musters.  Also returns how many there are. -/
def protectorateTick (world : World) (dice : γ) : World × Nat × γ :=
  let (mustered, dice) := Protectorate.muster dice world.sectors.values
  let sectors := mustered.foldl (fun table sector => table.insert sector.id sector) world.sectors
  ({ world with sectors }, mustered.length, dice)

/-- Finished events go, and perhaps a new one starts.  The new one is returned with its number. -/
def eventTick (world : World) (now : Int) (dice : γ) : World × Event.Round × γ :=
  let (round, dice) :=
    Event.round world.events.values world.sectors.keys world.ports.keys now dice
  let world := { world with events := round.expired.foldl Table.erase world.events }
  match round.spawned with
  | none => (world, round, dice)
  | some event =>
    let world := world.addEvent event
    (world, { round with spawned := some { event with id := world.lastId } }, dice)

end Draws

end Starlane.World
