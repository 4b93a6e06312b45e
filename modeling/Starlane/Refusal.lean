import Starlane.Commodity
import Starlane.Log
import Starlane.Naming

/-!
# Refusals

Why a command is refused.  A refusal is part of the game and not a failure: it has a stable code
and a text for the player.
-/

namespace Starlane

/-- The commands that take a sub-command. -/
inductive Family where
  | planet
  | corp
  | mine
  | shipyard
  deriving DecidableEq, Repr

/-- The upper-case code of the command. -/
def Family.code : Family → String
  | planet => "PLANET"
  | corp => "CORP"
  | mine => "MINE"
  | shipyard => "SHIPYARD"

/-- Why a command is refused. -/
inductive Refusal where
  | passwordChange
  | turnsShort
  | unknownCommand
  | unknownSubcommand (family : Family)
  | invalidDestination
  | noWarp
  | tradeSideMissing
  | tradeCommodityMissing
  | tradeQuantity
  | noPort
  | notSelling (commodity : Commodity)
  | inventoryShort
  | tradeSpaceShort
  | tradeCreditsShort
  | notBuying (commodity : Commodity)
  | tradeCargoShort (commodity : Commodity)
  | demandSaturated
  | invalidName (error : NameError)
  | alreadyYours
  | alreadyControlled
  | colonyCreditsShort
  | transferCommodityMissing
  | transferQuantity
  | noPlanet
  | noAccess
  | spaceShort
  | storedShort (commodity : Commodity)
  | cargoShort (commodity : Commodity)
  | storageFull (commodity : Commodity)
  | citadelComplete
  | citadelCreditsShort (cost : Int)
  | alreadyInCorp
  | corpNameTaken
  | corpNameMissing
  | corpNotFound
  | notInCorp
  | messageEmpty
  | messageTooLong
  | depositTooSmall
  | depositCreditsShort
  | withdrawForbidden
  | withdrawTooSmall
  | bankShort
  | deployTooSmall
  | deployTooLarge
  | protectoratePeace
  | minesShort
  | noShipyard
  | shipMissing
  | unknownShip
  | shipAlreadyOwned
  | shipCreditsShort
  | cargoTooLargeToBuy
  | starterShip
  | cargoTooLargeToSell
  | upgradeMissing
  | cargoUpgradesComplete
  | cargoUpgradeCreditsShort
  | turnUpgradesComplete
  | turnUpgradeCreditsShort
  | unknownUpgrade
  deriving DecidableEq, Repr

namespace Refusal

/-- The stable code. -/
def code : Refusal → String
  | passwordChange => "PASSWORD_CHANGE_REQUIRED"
  | turnsShort => "NOT_ENOUGH_TURNS"
  | unknownCommand => "UNKNOWN_COMMAND"
  | unknownSubcommand _ => "UNKNOWN_SUBCOMMAND"
  | invalidDestination | noWarp => "INVALID_MOVE"
  | tradeSideMissing | tradeCommodityMissing | tradeQuantity | noPort | notSelling _
  | inventoryShort | tradeSpaceShort | tradeCreditsShort | notBuying _ | tradeCargoShort _
  | demandSaturated => "TRADE_ERROR"
  | invalidName _ => "INVALID_NAME"
  | alreadyYours | alreadyControlled => "ALREADY_OWNED"
  | colonyCreditsShort | citadelCreditsShort _ | depositCreditsShort | shipCreditsShort
  | cargoUpgradeCreditsShort | turnUpgradeCreditsShort => "INSUFFICIENT_CREDITS"
  | transferCommodityMissing => "INVALID_COMMODITY"
  | transferQuantity | deployTooSmall | deployTooLarge => "INVALID_QTY"
  | noPlanet => "NO_PLANET"
  | noAccess => "NO_ACCESS"
  | spaceShort => "NO_CARGO_SPACE"
  | storedShort _ => "INSUFFICIENT_STORED"
  | cargoShort _ => "INSUFFICIENT_CARGO"
  | storageFull _ => "STORAGE_FULL"
  | citadelComplete => "MAX_LEVEL"
  | alreadyInCorp => "ALREADY_IN_CORP"
  | corpNameTaken => "NAME_UNAVAILABLE"
  | corpNameMissing | messageEmpty | messageTooLong | depositTooSmall | withdrawTooSmall =>
    "INVALID_ARGS"
  | corpNotFound => "NOT_FOUND"
  | notInCorp => "NOT_IN_CORP"
  | withdrawForbidden => "FORBIDDEN"
  | bankShort => "INSUFFICIENT_FUNDS"
  | protectoratePeace => "PROTECTORATE_PEACE"
  | minesShort => "INSUFFICIENT_EQUIPMENT"
  | noShipyard => "NO_SHIPYARD"
  | shipMissing | unknownShip | shipAlreadyOwned | starterShip => "INVALID_SHIP"
  | cargoTooLargeToBuy | cargoTooLargeToSell => "CARGO_TOO_LARGE"
  | cargoUpgradesComplete | turnUpgradesComplete => "MAX_UPGRADES"
  | upgradeMissing | unknownUpgrade => "INVALID_UPGRADE"

/-- What the player is told. -/
def message : Refusal → String
  | passwordChange => "Password change required. Use the Change Password form."
  | turnsShort => "Not enough turns."
  | unknownCommand => "Unknown command."
  | unknownSubcommand family => s!"Unknown {family.code} subcommand."
  | invalidDestination => "Invalid destination sector."
  | noWarp => "No warp to that sector."
  | tradeSideMissing => "Trade action must be BUY or SELL."
  | tradeCommodityMissing | transferCommodityMissing =>
    "Commodity must be ORE, ORGANICS, or EQUIPMENT."
  | tradeQuantity | transferQuantity => "Quantity must be between 1 and 1000000."
  | noPort => "No port in this sector."
  | notSelling c => s!"This port is not selling {c.code}."
  | inventoryShort => "Port does not have enough inventory."
  | tradeSpaceShort | spaceShort => "Not enough cargo space."
  | tradeCreditsShort | depositCreditsShort => "Not enough credits."
  | notBuying c => s!"This port is not buying {c.code}."
  | tradeCargoShort c | cargoShort c => s!"You do not have that {c.quantifier} {c.noun}."
  | demandSaturated => "Port demand is saturated right now."
  | invalidName error => error.message
  | alreadyYours => "You already control this planet."
  | alreadyControlled => "This planet is already controlled."
  | colonyCreditsShort => "Colonization requires 1500 credits."
  | noPlanet => "No planet in this sector."
  | noAccess => "You do not have access to this planet."
  | storedShort c => s!"Planet does not have that {c.quantifier} {c.noun} stored."
  | storageFull c => s!"Planet {c.noun} storage is full."
  | citadelComplete => "Citadel is already at max level."
  | citadelCreditsShort cost => s!"Citadel upgrade requires {cost} credits."
  | alreadyInCorp => "You are already in a corporation."
  | corpNameTaken => "Corporation name unavailable."
  | corpNameMissing => "Usage: CORP JOIN \x7bname\x7d"
  | corpNotFound => "Corporation not found."
  | notInCorp => "You are not in a corporation."
  | messageEmpty => "Message cannot be empty."
  | messageTooLong => "Message too long (max 200)."
  | depositTooSmall => "Deposit amount must be at least 1."
  | withdrawForbidden => "Only corp leadership can withdraw."
  | withdrawTooSmall => "Withdraw amount must be at least 1."
  | bankShort => "Corp bank does not have enough credits."
  | deployTooSmall => "Deploy quantity must be at least 1."
  | deployTooLarge => "Deploy quantity too large (max 1000 per command)."
  | protectoratePeace =>
    "The Galactic Protectorate forbids mine deployment in Protectorate sectors."
  | minesShort => "Not enough equipment cargo to deploy mines."
  | noShipyard =>
    "No shipyard is available in this sector. Shipyards are found in Protectorate sectors."
  | shipMissing => "SHIPYARD BUY requires a ship type (e.g., TRADER)."
  | unknownShip => "Unknown ship type."
  | shipAlreadyOwned => "You already own this ship type."
  | shipCreditsShort => "Insufficient credits to buy that ship."
  | cargoTooLargeToBuy =>
    "Your current cargo exceeds the capacity of that ship. Reduce cargo before buying."
  | starterShip => "You cannot sell your starter SCOUT."
  | cargoTooLargeToSell => "Your cargo exceeds SCOUT capacity. Reduce cargo before selling."
  | upgradeMissing => "SHIPYARD UPGRADE requires CARGO or TURNS."
  | cargoUpgradesComplete => "Cargo upgrades are already at maximum."
  | cargoUpgradeCreditsShort => "Insufficient credits for cargo upgrade."
  | turnUpgradesComplete => "Turns upgrades are already at maximum."
  | turnUpgradeCreditsShort => "Insufficient credits for turns upgrade."
  | unknownUpgrade => "Unknown upgrade type. Use CARGO or TURNS."

end Refusal

end Starlane
