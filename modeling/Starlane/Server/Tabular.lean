import Starlane.Server.Column
import Starlane.Server.Row

/-!
# Rows as records of columns

The columns of every kind of row, in their order, and the row whose columns are all blank.
-/

namespace Starlane.Server

/-- How a row is written as a record of columns. -/
class Tabular (ρ : Type) where
  /-- The row of which nothing is known. -/
  blank : ρ
  /-- The columns in their order. -/
  columns : List (Column ρ)

namespace Tabular

variable {ρ : Type} [Tabular ρ]

/-- The row as an object of its columns. -/
def toJson (row : ρ) : Json :=
  Column.rowToJson columns row

/-- The row with the columns that an object names replaced. -/
def overwrite (values : Json) (row : ρ) : ρ :=
  Column.overwrite columns values row

/-- The row that an object describes; what it does not name is blank. -/
def ofJson (values : Json) : ρ :=
  overwrite values blank

end Tabular

/-- The columns of a commodity that is not stocked. -/
def StockColumns.blank : StockColumns :=
  ⟨"", 0, 0, 0, 0⟩

/-- The columns of the stocks of a port, named after their commodity. -/
def stockColumns : List (Column PortRow) :=
  Commodity.all.flatMap fun c =>
    let get := fun row : PortRow => row.stocks.get c
    let set := fun (row : PortRow) (stock : StockColumns) =>
      { row with stocks := row.stocks.set c stock }
    [.text (c.noun ++ "_mode") (fun row => (get row).mode)
        fun row mode => set row { get row with mode },
      .number (c.noun ++ "_qty") (fun row => (get row).qty)
        fun row qty => set row { get row with qty },
      .number (c.noun ++ "_base_qty") (fun row => (get row).baseQty)
        fun row baseQty => set row { get row with baseQty },
      .number (c.noun ++ "_base_price") (fun row => (get row).basePrice)
        fun row basePrice => set row { get row with basePrice },
      .number (c.noun ++ "_regen") (fun row => (get row).regen)
        fun row regen => set row { get row with regen }]

instance : Tabular SettingsRow where
  blank := ⟨0, 0, ""⟩
  columns :=
    [.number "id" (·.id) fun row id => { row with id },
      .number "owner" (·.owner) fun row owner => { row with owner },
      .text "settings" (·.document) fun row document => { row with document }]

instance : Tabular Season where
  blank := ⟨0, "", 0⟩
  columns :=
    [.number "id" (·.id) fun row id => { row with id },
      .text "name" (·.name) fun row name => { row with name },
      .amount "started_at" (·.startedAt) fun row startedAt => { row with startedAt }]

instance : Tabular PlayerRow where
  blank :=
    { id := 0, identity := 0, username := "", isAdmin := false, mustChangePassword := false,
      credits := 0, xp := 0, level := 0, ship := "", cargoUpgrades := 0, turnUpgrades := 0,
      turns := 0, turnsMax := 0, sector := 0, cargoMax := 0, cargo := Goods.empty,
      regenStamp := none, season := 0, createdAt := 0 }
  columns :=
    [.number "id" (·.id) fun row id => { row with id },
      .number "identity" (·.identity) fun row identity => { row with identity },
      .text "username" (·.username) fun row username => { row with username },
      .flag "is_admin" (·.isAdmin) fun row isAdmin => { row with isAdmin },
      .flag "must_change_password" (·.mustChangePassword)
        fun row mustChangePassword => { row with mustChangePassword },
      .amount "credits" (·.credits) fun row credits => { row with credits },
      .amount "xp" (·.xp) fun row xp => { row with xp },
      .number "level" (·.level) fun row level => { row with level },
      .text "ship_type" (·.ship) fun row ship => { row with ship },
      .number "cargo_upgrades" (·.cargoUpgrades)
        fun row cargoUpgrades => { row with cargoUpgrades },
      .number "turn_upgrades" (·.turnUpgrades) fun row turnUpgrades => { row with turnUpgrades },
      .number "turns" (·.turns) fun row turns => { row with turns },
      .number "turns_max" (·.turnsMax) fun row turnsMax => { row with turnsMax },
      .number "sector_id" (·.sector) fun row sector => { row with sector },
      .number "cargo_max" (·.cargoMax) fun row cargoMax => { row with cargoMax }] ++
    Column.load ("cargo_" ++ ·) (·.cargo) (fun row cargo => { row with cargo }) ++
    [.stamp "last_turn_regen" (·.regenStamp) fun row regenStamp => { row with regenStamp },
      .number "season_id" (·.season) fun row season => { row with season },
      .amount "created_at" (·.createdAt) fun row createdAt => { row with createdAt }]

instance : Tabular SessionRow where
  blank := ⟨0, none, 0⟩
  columns :=
    [.number "identity" (·.identity) fun row identity => { row with identity },
      .reference "player_id" (·.player) fun row player => { row with player },
      .amount "connected_at" (·.connectedAt) fun row connectedAt => { row with connectedAt }]

instance : Tabular ResultRow where
  blank := ⟨0, 0, "", 0⟩
  columns :=
    [.number "player_id" (·.player) fun row player => { row with player },
      .number "identity" (·.identity) fun row identity => { row with identity },
      .text "payload" (·.payload) fun row payload => { row with payload },
      .amount "at" (·.time) fun row time => { row with time }]

instance : Tabular LogRow where
  blank := ⟨0, 0, "", "", 0⟩
  columns :=
    [.number "id" (·.id) fun row id => { row with id },
      .number "player_id" (·.player) fun row player => { row with player },
      .text "kind" (·.kind) fun row kind => { row with kind },
      .text "message" (·.message) fun row message => { row with message },
      .amount "at" (·.time) fun row time => { row with time }]

instance : Tabular DiscoveryRow where
  blank := ⟨0, 0, 0⟩
  columns :=
    [.number "id" (·.id) fun row id => { row with id },
      .number "player_id" (·.player) fun row player => { row with player },
      .number "sector_id" (·.sector) fun row sector => { row with sector }]

instance : Tabular IntelRow where
  blank := ⟨0, 0, 0, 0, ""⟩
  columns :=
    [.number "id" (·.id) fun row id => { row with id },
      .number "player_id" (·.player) fun row player => { row with player },
      .number "sector_id" (·.sector) fun row sector => { row with sector },
      .amount "scanned_at" (·.scannedAt) fun row scannedAt => { row with scannedAt },
      .text "payload" (·.payload) fun row payload => { row with payload }]

instance : Tabular Sector where
  blank := ⟨0, "", false, 0⟩
  columns :=
    [.number "id" (·.id) fun row id => { row with id },
      .text "name" (·.name) fun row name => { row with name },
      .flag "is_protectorate" (·.isProtectorate)
        fun row isProtectorate => { row with isProtectorate },
      .number "protectorate_fighters" (·.fighters) fun row fighters => { row with fighters }]

instance : Tabular WarpRow where
  blank := ⟨0, 0, 0⟩
  columns :=
    [.number "id" (·.id) fun row id => { row with id },
      .number "from_sector" (·.source) fun row source => { row with source },
      .number "to_sector" (·.target) fun row target => { row with target }]

instance : Tabular PortRow where
  blank := ⟨0, ⟨StockColumns.blank, StockColumns.blank, StockColumns.blank⟩⟩
  columns :=
    .number "sector_id" (·.sector) (fun row sector => { row with sector }) :: stockColumns

instance : Tabular PlanetRow where
  blank := ⟨0, 0, "", none, none, Goods.empty, Goods.empty, 0, 0⟩
  columns :=
    [.number "id" (·.id) fun row id => { row with id },
      .number "sector_id" (·.sector) fun row sector => { row with sector },
      .text "name" (·.name) fun row name => { row with name },
      .reference "owner_player_id" (·.ownerPlayer) fun row ownerPlayer => { row with ownerPlayer },
      .reference "owner_corp_id" (·.ownerCorp) fun row ownerCorp => { row with ownerCorp }] ++
    Column.load ("prod_" ++ ·) (·.production) (fun row production => { row with production }) ++
    Column.load id (·.storage) (fun row storage => { row with storage }) ++
    [.number "storage_max" (·.storageMax) fun row storageMax => { row with storageMax },
      .number "citadel_level" (·.citadelLevel) fun row citadelLevel => { row with citadelLevel }]

instance : Tabular MinefieldRow where
  blank := ⟨0, 0, none, none, 0, 0⟩
  columns :=
    [.number "id" (·.id) fun row id => { row with id },
      .number "sector_id" (·.sector) fun row sector => { row with sector },
      .reference "owner_player_id" (·.ownerPlayer) fun row ownerPlayer => { row with ownerPlayer },
      .reference "owner_corp_id" (·.ownerCorp) fun row ownerCorp => { row with ownerCorp },
      .number "qty" (·.qty) fun row qty => { row with qty },
      .amount "created_at" (·.createdAt) fun row createdAt => { row with createdAt }]

instance : Tabular EventRow where
  blank := ⟨0, "", 0, "", 0, 0, "", "", 0, 0⟩
  columns :=
    [.number "id" (·.id) fun row id => { row with id },
      .text "kind" (·.kind) fun row kind => { row with kind },
      .number "sector_id" (·.sector) fun row sector => { row with sector },
      .text "commodity" (·.commodity) fun row commodity => { row with commodity },
      .amount "price_percent" (·.pricePercent) fun row pricePercent => { row with pricePercent },
      .number "severity" (·.severity) fun row severity => { row with severity },
      .text "title" (·.title) fun row title => { row with title },
      .text "description" (·.description) fun row description => { row with description },
      .amount "started_at" (·.startedAt) fun row startedAt => { row with startedAt },
      .amount "ends_at" (·.endsAt) fun row endsAt => { row with endsAt }]

instance : Tabular CorpRow where
  blank := ⟨0, "", 0, 0⟩
  columns :=
    [.number "id" (·.id) fun row id => { row with id },
      .text "name" (·.name) fun row name => { row with name },
      .amount "bank" (·.bank) fun row bank => { row with bank },
      .amount "created_at" (·.createdAt) fun row createdAt => { row with createdAt }]

instance : Tabular MemberRow where
  blank := ⟨0, 0, 0, "", 0⟩
  columns :=
    [.number "id" (·.id) fun row id => { row with id },
      .number "player_id" (·.player) fun row player => { row with player },
      .number "corp_id" (·.corp) fun row corp => { row with corp },
      .text "role" (·.role) fun row role => { row with role },
      .amount "joined_at" (·.joinedAt) fun row joinedAt => { row with joinedAt }]

instance : Tabular MessageRow where
  blank := ⟨0, 0, 0, "", 0⟩
  columns :=
    [.number "id" (·.id) fun row id => { row with id },
      .number "corp_id" (·.corp) fun row corp => { row with corp },
      .number "player_id" (·.player) fun row player => { row with player },
      .text "text" (·.text) fun row text => { row with text },
      .amount "at" (·.time) fun row time => { row with time }]

instance : Tabular TimerRow where
  blank := ⟨0, 0⟩
  columns :=
    [.number "scheduled_id" (·.id) fun row id => { row with id },
      { name := "scheduled_at"
        get := fun row => .ofFields [("Interval", .ofInt row.interval)]
        set := fun value row =>
          { row with interval := ((value.get? "Interval").bind Json.amount?).getD 0 } }]

end Starlane.Server
