import Starlane.Event
import Starlane.Intel
import Starlane.Minefield
import Starlane.Planet
import Starlane.Server.Row
import Starlane.Store.Failure

/-!
# Reading and writing rows

How the records of the game are kept as rows.  What is written can always be read back; a row
whose code or document means nothing is unreadable.
-/

namespace Starlane.Server

/-- The value that a code or document means, or else the failure that names the field. -/
def readable {α : Type} (value : Option α) (entity : Entity) (id : Nat) (field : String) :
    Except StoreFailure α :=
  match value with
  | some value => .ok value
  | none => .error (.unreadable entity id field)

/-- The owner that two columns mean. -/
def ownerOfColumns : Option PlayerId → Option CorpId → Owner
  | founder, some corp => .corp corp (founder.getD 0)
  | some player, none => .player player
  | none, none => .unowned

/-- The columns of a stock. -/
def StockColumns.ofStock (stock : Stock) : StockColumns :=
  ⟨stock.mode.code, stock.qty, stock.baseQty, stock.basePrice, stock.regen⟩

/-- The stock of a port in a sector. -/
def StockColumns.toStock (columns : StockColumns) (sector : SectorId) :
    Except StoreFailure Stock := do
  let mode ← readable (TradeMode.ofCode? columns.mode) .port sector "mode"
  return ⟨mode, columns.qty, columns.baseQty, columns.basePrice, columns.regen⟩

/-- The row of a port. -/
def PortRow.ofPort (port : Port) : PortRow :=
  ⟨port.sector, port.stocks.map .ofStock⟩

/-- The port of a row. -/
def PortRow.toPort (row : PortRow) : Except StoreFailure Port := do
  let ore ← row.stocks.ore.toStock row.sector
  let organics ← row.stocks.organics.toStock row.sector
  let equipment ← row.stocks.equipment.toStock row.sector
  return ⟨row.sector, ⟨ore, organics, equipment⟩⟩

/-- The row of a planet. -/
def PlanetRow.ofPlanet (planet : Planet) : PlanetRow :=
  { id := planet.id
    sector := planet.sector
    name := planet.name
    ownerPlayer := planet.owner.player?
    ownerCorp := planet.owner.corp?
    production := planet.production
    storage := planet.storage
    storageMax := planet.storageMax
    citadelLevel := planet.citadelLevel }

/-- The planet of a row. -/
def PlanetRow.toPlanet (row : PlanetRow) : Planet :=
  { id := row.id
    sector := row.sector
    name := row.name
    owner := ownerOfColumns row.ownerPlayer row.ownerCorp
    production := row.production
    storage := row.storage
    storageMax := row.storageMax
    citadelLevel := row.citadelLevel }

/-- The row of a minefield. -/
def MinefieldRow.ofMinefield (field : Minefield) : MinefieldRow :=
  ⟨field.id, field.sector, field.owner.player?, field.owner.corp?, field.qty, field.createdAt⟩

/-- The minefield of a row. -/
def MinefieldRow.toMinefield (row : MinefieldRow) : Minefield :=
  ⟨row.id, row.sector, ownerOfColumns row.ownerPlayer row.ownerCorp, row.qty, row.createdAt⟩

/-- The row of an event. -/
def EventRow.ofEvent (event : Event) : EventRow :=
  { id := event.id
    kind := event.kind.code
    sector := event.sector
    commodity := (event.scope.map Commodity.code).getD ""
    pricePercent := event.pricePercent
    severity := event.severity
    title := event.title
    description := event.description
    startedAt := event.startedAt
    endsAt := event.endsAt }

/-- The scope of an event that a column means. -/
def EventRow.scope (row : EventRow) : Except StoreFailure (Option Commodity) :=
  if row.commodity.isEmpty then .ok none
  else (readable (Commodity.ofCode? row.commodity) .event row.id "commodity").map some

/-- The event of a row. -/
def EventRow.toEvent (row : EventRow) : Except StoreFailure Event := do
  let scope ← row.scope
  let kind ← readable (EventKind.ofCode? row.kind) .event row.id "kind"
  return {
    id := row.id
    kind
    sector := row.sector
    scope
    pricePercent := row.pricePercent
    severity := row.severity
    title := row.title
    description := row.description
    startedAt := row.startedAt
    endsAt := row.endsAt }

/-- The corporation of a row. -/
def CorpRow.toCorp (row : CorpRow) : Corporation :=
  ⟨row.id, row.name, row.bank⟩

/-- The row of a new roster line. -/
def MemberRow.ofMember (member : Member) : MemberRow :=
  ⟨0, member.player, member.corp, member.role.code, member.joinedAt⟩

/-- The role that a column means. -/
def MemberRow.readRole (row : MemberRow) : Except StoreFailure Role :=
  readable (Role.ofCode? row.role) .member row.player "role"

/-- The roster line of a row. -/
def MemberRow.toMember (row : MemberRow) : Except StoreFailure Member := do
  let role ← row.readRole
  return ⟨row.corp, row.player, role, row.joinedAt⟩

/-- The row of a new scan. -/
def IntelRow.ofIntel (player : PlayerId) (intel : Intel) : IntelRow :=
  ⟨0, player, intel.sector, intel.scannedAt, intel.toJson.render⟩

/-- The scan of a row. -/
def IntelRow.toIntel (row : IntelRow) : Except StoreFailure Intel :=
  readable ((Json.parse? row.payload).bind Intel.ofJson?) .intel row.id "payload"

/-- The row of a new log line. -/
def LogRow.ofEntry (player : PlayerId) (entry : LogEntry) : LogRow :=
  ⟨0, player, entry.kind.code, entry.message, entry.time⟩

/-- The log line of a row. -/
def LogRow.toEntry (row : LogRow) : Except StoreFailure LogEntry := do
  let kind ← readable (LogKind.ofCode? row.kind) .log row.id "kind"
  return ⟨row.time, kind, row.message⟩

/-- The row of a player of a client. -/
def PlayerRow.ofPlayer (identity : Identity) (createdAt : Micros) (player : Player) : PlayerRow :=
  { id := player.id
    identity
    username := player.username
    isAdmin := player.isAdmin
    mustChangePassword := player.mustChangePassword
    credits := player.credits
    xp := player.xp
    level := player.level
    ship := player.ship.code
    cargoUpgrades := player.cargoUpgrades
    turnUpgrades := player.turnUpgrades
    turns := player.turns
    turnsMax := player.turnsMax
    sector := player.sector
    cargoMax := player.cargoMax
    cargo := player.cargo
    regenStamp := player.regenStamp
    season := player.season
    createdAt }

/-- The row after a command: the client, the name, the flags and the season stay. -/
def PlayerRow.save (row : PlayerRow) (player : Player) : PlayerRow :=
  { row with
    credits := player.credits
    xp := player.xp
    level := player.level
    ship := player.ship.code
    cargoUpgrades := player.cargoUpgrades
    turnUpgrades := player.turnUpgrades
    turns := player.turns
    turnsMax := player.turnsMax
    sector := player.sector
    cargoMax := player.cargoMax
    cargo := player.cargo
    regenStamp := player.regenStamp }

/-- The player of a row in a season of some name. -/
def PlayerRow.toPlayer (row : PlayerRow) (seasonName : String) : Except StoreFailure Player := do
  let ship ← readable (Ship.ofCode? row.ship) .player row.id "ship type"
  return {
    id := row.id
    username := row.username
    isAdmin := row.isAdmin
    mustChangePassword := row.mustChangePassword
    credits := row.credits
    xp := row.xp
    level := row.level
    ship
    cargoUpgrades := row.cargoUpgrades
    turnUpgrades := row.turnUpgrades
    turns := row.turns
    turnsMax := row.turnsMax
    sector := row.sector
    cargoMax := row.cargoMax
    cargo := row.cargo
    regenStamp := row.regenStamp
    season := row.season
    seasonName }

end Starlane.Server
