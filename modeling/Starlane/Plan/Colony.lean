import Starlane.Plan.Trade

/-!
# Planets

Founding a colony, moving goods between ship and planet, and building a citadel.
-/

namespace Starlane.Plan

/-- Whether a commander may use a planet. -/
def hasAccess (commander : Commander) (planet : Planet) : Bool :=
  planet.owner.grantsAccess commander.id commander.corp?

/-- How a commander sees the owner of a planet. -/
def ownerLabel (commander : Commander) (planet : Planet) : String :=
  match planet.owner with
  | .unowned => "Unclaimed"
  | .player _ => if hasAccess commander planet then "You" else "Another player"
  | .corp holder _ =>
    if hasAccess commander planet then
      match commander.membership with
      | some membership =>
        if membership.corp = holder then s!"Your corp ({membership.name})" else "You"
      | none => "You"
    else "Another corporation"

/-- Plans the report on the planet of the sector. -/
def planetInfo (look : Lookup) (commander : Commander) : Plan Effects :=
  match look.planet commander.sector with
  | none => return .logged commander [] .system "No planet in this sector."
  | some planet =>
    let made := planet.production
    let stored := planet.storage
    let cap := planet.storageMax
    let text := "\n".intercalate [
      s!"Planet: {planet.name}",
      s!"Owner: {ownerLabel commander planet}",
      s!"Citadel: {planet.citadelLevel}",
      s!"Production/tick: Ore {made.ore}, Org {made.organics}, Eq {made.equipment}",
      s!"Storage: Ore {stored.ore}/{cap}, Org {stored.organics}/{cap}, " ++
        s!"Eq {stored.equipment}/{cap}"]
    return .logged commander [] .system text

/-- A name for a planet that the player left unnamed. -/
def nameOrDefault (sector : SectorId) (name : String) : String :=
  if (Text.trim name).isEmpty then s!"Planet {sector}" else name

/-- Plans a colony: on a planet that nobody owns, or on a new one. -/
def colonize (look : Lookup) (commander : Commander) (name : String) : Plan Effects := do
  let here := commander.sector
  let name ←
    match Naming.planetName (nameOrDefault here name) with
    | .ok name => pure name
    | .error error => refuse (.invalidName error)
  let existing := look.planet here
  match existing with
  | some planet =>
    require (!planet.owner.isOwned)
      (if hasAccess commander planet then .alreadyYours else .alreadyControlled)
  | none => pure ()
  require (decide (Planet.colonyCost ≤ commander.credits)) .colonyCreditsShort
  let founder := { commander with credits := commander.credits - Planet.colonyCost }
  let owner := Owner.claimedBy commander.id commander.corp?
  match existing with
  | some planet =>
    writing [.savePlanet { planet with name, owner }] do
      return .logged founder [] .action
        s!"Colonized existing planet '{name}' for {Planet.colonyCost} credits."
  | none =>
    let planet : Planet := {
      id := 0, sector := here, name, owner
      production := Planet.colonyProduction
      storage := Goods.empty
      storageMax := Planet.colonyStorageMax
      citadelLevel := 0 }
    writing [.insertPlanet planet] do
      return .logged founder [] .action
        s!"Established new planet '{name}' for {Planet.colonyCost} credits."

/-- The planet of the sector, if the commander may use it. -/
def accessiblePlanet (look : Lookup) (commander : Commander) : Plan Planet := do
  let planet ← expect (look.planet commander.sector) .noPlanet
  require (hasAccess commander planet) .noAccess
  return planet

/-- Plans taking goods from the planet of the sector on board. -/
def load (look : Lookup) (commander : Commander) (commodity : Option Commodity) (quantity : Int) :
    Plan Effects := do
  let c ← expect commodity .transferCommodityMissing
  let qty ← expect (quantity? quantity) .transferQuantity
  let planet ← accessiblePlanet look commander
  require (decide (qty ≤ commander.freeCargo)) .spaceShort
  require (decide (qty ≤ planet.storage.get c)) (.storedShort c)
  let stored := planet.storage.set c (planet.storage.get c - qty)
  let cargo := commander.cargo.set c (commander.cargo.get c + qty)
  writing [.savePlanet { planet with storage := stored }] do
    return .logged { commander with cargo } [] .action
      s!"Loaded {qty} {c.noun} from {planet.name}."

/-- Plans leaving goods on the planet of the sector. -/
def unload (look : Lookup) (commander : Commander) (commodity : Option Commodity)
    (quantity : Int) : Plan Effects := do
  let c ← expect commodity .transferCommodityMissing
  let qty ← expect (quantity? quantity) .transferQuantity
  let planet ← accessiblePlanet look commander
  require (decide (qty ≤ commander.cargo.get c)) (.cargoShort c)
  require (decide (planet.storage.get c + qty ≤ planet.storageMax)) (.storageFull c)
  let stored := planet.storage.set c (planet.storage.get c + qty)
  let cargo := commander.cargo.set c (commander.cargo.get c - qty)
  writing [.savePlanet { planet with storage := stored }] do
    return .logged { commander with cargo } [] .action
      s!"Unloaded {qty} {c.noun} to {planet.name}."

/-- Plans the next level of the citadel. -/
def upgradeCitadel (look : Lookup) (commander : Commander) : Plan Effects := do
  let planet ← accessiblePlanet look commander
  require (decide (planet.citadelLevel < Planet.citadelLevelMax)) .citadelComplete
  let level := planet.citadelLevel + 1
  let cost := Planet.citadelCost level
  require (decide (cost ≤ commander.credits)) (.citadelCreditsShort cost)
  writing [.savePlanet { planet with citadelLevel := level }] do
    return .logged { commander with credits := commander.credits - cost } [] .action
      s!"Citadel upgraded to level {level} for {cost} credits."

/-- Plans an order for a planet. -/
def planet (look : Lookup) (commander : Commander) : PlanetOrder → Plan Effects
  | .info => planetInfo look commander
  | .colonize name => colonize look commander name
  | .load commodity quantity => load look commander commodity quantity
  | .unload commodity quantity => unload look commander commodity quantity
  | .upgradeCitadel => upgradeCitadel look commander
  | .unknown => refuse (.unknownSubcommand .planet)

end Starlane.Plan
