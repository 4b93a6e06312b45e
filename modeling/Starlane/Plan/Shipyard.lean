import Starlane.Command
import Starlane.Plan.Basic

/-!
# Shipyards

Buying, selling and upgrading ships.  Only protectorate sectors have a shipyard, and it changes
nothing but the player.
-/

namespace Starlane.Plan

/-- The offers of a shipyard. -/
def yardText (player : Player) : String :=
  let cargoAdded := player.cargoUpgrades * cargoPerUpgrade
  let turnsAdded := player.turnUpgrades * turnsPerUpgrade
  let cargoDone := s!"{player.cargoUpgrades}/{cargoUpgradesMax}"
  let turnsDone := s!"{player.turnUpgrades}/{turnUpgradesMax}"
  let head := [
    "SHIPYARD commands: SHIPYARD BUY \x7btype\x7d | SHIPYARD SELL | " ++
      "SHIPYARD UPGRADE \x7bCARGO|TURNS\x7d",
    s!"Current ship: {player.ship.code} " ++
      s!"(CargoMax={player.cargoMax}, TurnsMax={player.turnsMax})",
    s!"Upgrades: Cargo +{cargoAdded} ({cargoDone}), Turns +{turnsAdded} ({turnsDone})",
    "Available ships:"]
  let offers := Ship.all.map fun ship =>
    s!"- {ship.code}: CargoMax={ship.cargoMax} TurnsMax={ship.turnsMax} Price={ship.price}"
  let costs := [
    s!"Next cargo upgrade cost: {cargoUpgradeCost player.cargoUpgrades}",
    s!"Next turns upgrade cost: {turnUpgradeCost player.turnUpgrades}"]
  "\n".intercalate (head ++ offers ++ costs)

/-- The player in another hull: upgrades are lost, and turns that do not fit. -/
def refit (player : Player) (ship : Ship) : Player :=
  { player with
    ship
    cargoUpgrades := 0
    turnUpgrades := 0
    cargoMax := ship.cargoMax
    turnsMax := ship.turnsMax
    turns := min player.turns ship.turnsMax }

/-- Buys a ship by its code. -/
def buyShip (player : Player) (code : String) : Plan (Player × String) := do
  require (!code.isEmpty) .shipMissing
  let ship ← expect (Ship.ofCode? code) .unknownShip
  require (ship != player.ship) .shipAlreadyOwned
  require (decide (ship.price ≤ player.credits)) .shipCreditsShort
  require (decide (player.cargo.total ≤ ship.cargoMax)) .cargoTooLargeToBuy
  let paid := { player with credits := player.credits - ship.price }
  return (refit paid ship,
    s!"Purchased {ship.code} for {ship.price} credits. " ++
      s!"CargoMax={ship.cargoMax}, TurnsMax={ship.turnsMax}.")

/-- Sells the ship and returns to a scout. -/
def sellShip (player : Player) : Plan (Player × String) := do
  require (player.ship != .scout) .starterShip
  require (decide (player.cargo.total ≤ Ship.scout.cargoMax)) .cargoTooLargeToSell
  let refund := player.ship.resale
  let paid := { player with credits := player.credits + refund }
  return (refit paid .scout,
    s!"Sold {player.ship.code} for {refund} credits. You are now flying a SCOUT.")

/-- Adds cargo space. -/
def upgradeCargo (player : Player) : Plan (Player × String) := do
  require (decide (player.cargoUpgrades < cargoUpgradesMax)) .cargoUpgradesComplete
  let cost := cargoUpgradeCost player.cargoUpgrades
  require (decide (cost ≤ player.credits)) .cargoUpgradeCreditsShort
  let cargoMax := player.cargoMax + cargoPerUpgrade
  return ({ player with
      credits := player.credits - cost
      cargoUpgrades := player.cargoUpgrades + 1
      cargoMax },
    s!"Cargo upgraded (+{cargoPerUpgrade}). New CargoMax={cargoMax}. Cost={cost}.")

/-- Adds stored turns. -/
def upgradeTurns (player : Player) : Plan (Player × String) := do
  require (decide (player.turnUpgrades < turnUpgradesMax)) .turnUpgradesComplete
  let cost := turnUpgradeCost player.turnUpgrades
  require (decide (cost ≤ player.credits)) .turnUpgradeCreditsShort
  let turnsMax := player.turnsMax + turnsPerUpgrade
  return ({ player with
      credits := player.credits - cost
      turnUpgrades := player.turnUpgrades + 1
      turnsMax },
    s!"Turns capacity upgraded (+{turnsPerUpgrade}). New TurnsMax={turnsMax}. Cost={cost}.")

/-- Upgrades a part of the ship by its code. -/
def upgradeShip (player : Player) (part : String) : Plan (Player × String) := do
  require (!part.isEmpty) .upgradeMissing
  match part with
  | "CARGO" => upgradeCargo player
  | "TURNS" => upgradeTurns player
  | _ => refuse .unknownUpgrade

/-- What an order does at a shipyard: the kind of its log line, the player afterwards and the
message. -/
def atYard (player : Player) : YardOrder → Plan (LogKind × Player × String)
  | .info => return (.system, player, yardText player)
  | .buy ship => return (.action, ← buyShip player ship)
  | .sell => return (.action, ← sellShip player)
  | .upgrade part => return (.action, ← upgradeShip player part)
  | .unknown => refuse (.unknownSubcommand .shipyard)

/-- Plans an order for a shipyard. -/
def shipyard (look : Lookup) (commander : Commander) (order : YardOrder) : Plan Effects := do
  let sector ← read (look.sectorOrFail commander.sector)
  require sector.isProtectorate .noShipyard
  let (kind, player, message) ← atYard commander.toPlayer order
  return .logged { commander with toPlayer := player } [] kind message

end Starlane.Plan
