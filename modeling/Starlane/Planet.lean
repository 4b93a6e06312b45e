import Starlane.Commodity
import Starlane.Identity

/-!
# Planets
-/

namespace Starlane

/-- A planet.  Each commodity in storage is capped on its own. -/
structure Planet where
  id : PlanetId
  sector : SectorId
  name : String
  owner : Owner
  production : Goods Nat
  storage : Goods Nat
  storageMax : Nat
  citadelLevel : Nat
  deriving DecidableEq, Repr

namespace Planet

/-- One production cycle: every storage grows by its rate and stops at the cap. -/
def produce (planet : Planet) : Planet :=
  let grown := fun c =>
    min (addCapped (planet.storage.get c) (planet.production.get c)) planet.storageMax
  { planet with storage := Goods.ofFn grown }

/-- The price of founding a colony. -/
def colonyCost : Int := 1500

/-- The production of a new colony. -/
def colonyProduction : Goods Nat :=
  ⟨10, 6, 3⟩

/-- The storage cap of a new colony. -/
def colonyStorageMax : Nat := 2000

/-- The highest citadel level. -/
def citadelLevelMax : Nat := 10

/-- The price of raising a citadel to a level. -/
def citadelCost (level : Nat) : Int :=
  max level 1 * 5000

end Planet

end Starlane
