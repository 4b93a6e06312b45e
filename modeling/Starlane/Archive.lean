import Starlane.Corporation
import Starlane.Minefield
import Starlane.Planet
import Starlane.Report.View
import Starlane.Universe

/-!
# Archives

The JSON forms of the records that the game keeps, with nothing left out: what is needed to write
down a universe or the state of a game.  What players are shown is in `Starlane.Report`.
-/

namespace Starlane

/-- The JSON form of an owner: a word, or an object that names the kind of owner. -/
def Owner.toJson : Owner → Json
  | .unowned => .ofString "Unowned"
  | .player id => .ofFields [("Player", .ofNat id)]
  | .corp id founder =>
    .ofFields [("Corp", .ofFields [("corp", .ofNat id), ("founder", .ofNat founder)])]

/-- The JSON form of a stock. -/
def Stock.toJson (stock : Stock) : Json :=
  .ofFields [("mode", .ofString stock.mode.code), ("qty", .ofNat stock.qty),
    ("base_qty", .ofNat stock.baseQty), ("base_price", .ofNat stock.basePrice),
    ("regen", .ofNat stock.regen)]

/-- The JSON form of a port. -/
def Port.toJson (port : Port) : Json :=
  .ofFields [("sector_id", .ofNat port.sector), ("ore", port.stocks.ore.toJson),
    ("organics", port.stocks.organics.toJson), ("equipment", port.stocks.equipment.toJson)]

/-- The JSON form of a sector. -/
def Sector.toJson (sector : Sector) : Json :=
  .ofFields [("id", .ofNat sector.id), ("name", .ofString sector.name),
    ("is_protectorate", .bool sector.isProtectorate),
    ("protectorate_fighters", .ofNat sector.fighters)]

/-- The JSON form of a link. -/
def WarpLink.toJson (link : WarpLink) : Json :=
  .ofFields [("from", .ofNat link.source), ("to", .ofNat link.target),
    ("one_way", .bool link.oneWay)]

/-- The JSON form of a universe. -/
def Universe.toJson (layout : Universe) : Json :=
  .ofFields [("sectors", .ofList Sector.toJson layout.sectors),
    ("warps", .ofList WarpLink.toJson layout.warps), ("ports", .ofList Port.toJson layout.ports)]

/-- The JSON form of an event; no scope means every commodity. -/
def Event.toJson (event : Event) : Json :=
  .ofFields [("id", .ofNat event.id), ("kind", .ofString event.kind.code),
    ("sector_id", .ofNat event.sector),
    ("scope", .ofOption (fun c => .ofString c.code) event.scope),
    ("price_percent", .ofInt event.pricePercent), ("severity", .ofNat event.severity),
    ("title", .ofString event.title), ("description", .ofString event.description),
    ("started_at", .ofInt event.startedAt), ("ends_at", .ofInt event.endsAt)]

/-- The JSON form of a planet. -/
def Planet.toJson (planet : Planet) : Json :=
  .ofFields [("id", .ofNat planet.id), ("sector_id", .ofNat planet.sector),
    ("name", .ofString planet.name), ("owner", planet.owner.toJson),
    ("production", planet.production.toJson), ("storage", planet.storage.toJson),
    ("storage_max", .ofNat planet.storageMax), ("citadel_level", .ofNat planet.citadelLevel)]

/-- The JSON form of a minefield. -/
def Minefield.toJson (field : Minefield) : Json :=
  .ofFields [("id", .ofNat field.id), ("sector_id", .ofNat field.sector),
    ("owner", field.owner.toJson), ("qty", .ofNat field.qty), ("created_at", .ofInt field.createdAt)]

/-- The JSON form of a season. -/
def Season.toJson (season : Season) : Json :=
  .ofFields [("id", .ofNat season.id), ("name", .ofString season.name),
    ("started_at", .ofInt season.startedAt)]

/-- The JSON form of a corporation. -/
def Corporation.toJson (corp : Corporation) : Json :=
  .ofFields [("id", .ofNat corp.id), ("name", .ofString corp.name), ("bank", .ofInt corp.bank)]

/-- The JSON form of a line of a roster. -/
def Member.toJson (member : Member) : Json :=
  .ofFields [("corp_id", .ofNat member.corp), ("player_id", .ofNat member.player),
    ("role", .ofString member.role.code), ("joined_at", .ofInt member.joinedAt)]

/-- The JSON form of a message to a corporation. -/
def CorpMessage.toJson (message : CorpMessage) : Json :=
  .ofFields [("corp_id", .ofNat message.corp), ("player_id", .ofNat message.player),
    ("text", .ofString message.text), ("at", .ofInt message.time)]

/-- The JSON form of a membership. -/
def Membership.toJson (membership : Membership) : Json :=
  .ofFields [("corp_id", .ofNat membership.corp), ("name", .ofString membership.name),
    ("role", .ofString membership.role.code), ("bank", .ofInt membership.bank)]

/-- The JSON form of a commander; turns that never grew back have no stamp. -/
def Commander.toJson (commander : Commander) : Json :=
  .ofFields [
    ("id", .ofNat commander.id),
    ("username", .ofString commander.username),
    ("is_admin", .bool commander.isAdmin),
    ("must_change_password", .bool commander.mustChangePassword),
    ("credits", .ofInt commander.credits),
    ("xp", .ofInt commander.xp),
    ("level", .ofNat commander.level),
    ("ship", .ofString commander.ship.code),
    ("cargo_upgrades", .ofNat commander.cargoUpgrades),
    ("turn_upgrades", .ofNat commander.turnUpgrades),
    ("turns", .ofNat commander.turns),
    ("turns_max", .ofNat commander.turnsMax),
    ("sector_id", .ofNat commander.sector),
    ("cargo_max", .ofNat commander.cargoMax),
    ("cargo", commander.cargo.toJson),
    ("last_turn_regen", .ofOption .ofInt commander.regenStamp),
    ("season_id", .ofNat commander.season),
    ("season_name", .ofString commander.seasonName),
    ("corp", .ofOption Membership.toJson commander.membership)]

/-- The JSON form of a player, which knows of no membership. -/
def Player.toJson (player : Player) : Json :=
  ({ toPlayer := player, membership := none } : Commander).toJson

end Starlane
