import Starlane.Json.Value
import Starlane.Rank

/-!
# The status of a player

What a player is told about themselves in every response.
-/

namespace Starlane

/-- A player's own view of their record. -/
structure Status where
  id : PlayerId
  username : String
  isAdmin : Bool
  mustChangePassword : Bool
  credits : Int
  turns : Nat
  turnsMax : Nat
  sector : SectorId
  cargoMax : Nat
  cargo : Goods Nat
  ship : Ship
  cargoUpgrades : Nat
  turnUpgrades : Nat
  xp : Int
  level : Nat
  rank : String
  nextLevelXp : Int
  season : SeasonId
  seasonName : String
  membership : Option Membership
  deriving DecidableEq, Repr

namespace Status

/-- The status of a commander.  Every player has at least level 1. -/
def ofCommander (commander : Commander) : Status :=
  let level := max commander.level 1
  { id := commander.id
    username := commander.username
    isAdmin := commander.isAdmin
    mustChangePassword := commander.mustChangePassword
    credits := commander.credits
    turns := commander.turns
    turnsMax := commander.turnsMax
    sector := commander.sector
    cargoMax := commander.cargoMax
    cargo := commander.cargo
    ship := commander.ship
    cargoUpgrades := commander.cargoUpgrades
    turnUpgrades := commander.turnUpgrades
    xp := commander.xp
    level
    rank := Rank.title level
    nextLevelXp := Rank.threshold (min (level + 1) Rank.levelMax)
    season := commander.season
    seasonName := commander.seasonName
    membership := commander.membership }

/-- The fields of a membership; none without one. -/
def membershipFields : Option Membership → List (String × Json)
  | some membership =>
    [("corp_id", .ofNat membership.corp), ("corp_name", .ofString membership.name),
      ("corp_role", .ofString membership.role.code), ("corp_credits", .ofInt membership.bank)]
  | none => []

/-- The JSON form. -/
def toJson (status : Status) : Json :=
  .ofFields ([
    ("id", .ofNat status.id),
    ("username", .ofString status.username),
    ("is_admin", .bool status.isAdmin),
    ("must_change_password", .bool status.mustChangePassword),
    ("credits", .ofInt status.credits),
    ("turns", .ofNat status.turns),
    ("turns_max", .ofNat status.turnsMax),
    ("sector_id", .ofNat status.sector),
    ("cargo_max", .ofNat status.cargoMax),
    ("cargo_ore", .ofNat status.cargo.ore),
    ("cargo_organics", .ofNat status.cargo.organics),
    ("cargo_equipment", .ofNat status.cargo.equipment),
    ("ship_type", .ofString status.ship.code),
    ("cargo_upgrades", .ofNat status.cargoUpgrades),
    ("turn_upgrades", .ofNat status.turnUpgrades),
    ("xp", .ofInt status.xp),
    ("level", .ofNat status.level),
    ("rank", .ofString status.rank),
    ("next_level_xp", .ofInt status.nextLevelXp),
    ("season_id", .ofNat status.season),
    ("season_name", .ofString status.seasonName)] ++ membershipFields status.membership)

end Status

end Starlane
