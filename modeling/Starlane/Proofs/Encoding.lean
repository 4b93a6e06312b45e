import Starlane.Proofs.Scans
import Starlane.Server.Tabular

/-!
# Rows lose nothing

The records of the game are spread over the columns of rows by hand, and rows
are shown to others as texts in which every column stands under its name. Both
ways nothing is lost: a row that is written out and read back is the same row,
so long as its numbers fit their columns, and the record that it was made of is
the record that is read from it. The columns of a table have different names, so
no column can be taken for another.
-/

namespace Starlane

/-- The value of a name among the fields of a record, written and read. -/
theorem Json.get?_reread (fields : List (String × Json)) (name : String) :
    (reread (ofFields fields)).get? name =
      (fields.find? fun field => field.1 == name).map fun field => reread field.2 := by
  rw [ofFields, reread, get?, rereadFields_eq, List.map_map, List.find?_map, Option.map_map]
  simp [Function.comp_def, chars?_reread]

/-- What holds of every commodity, part by part. -/
theorem Goods.parts {α : Type} {goods : Goods α} (holds : α → Prop)
    (each : ∀ c, holds (goods.get c)) :
    holds goods.ore ∧ holds goods.organics ∧ holds goods.equipment :=
  ⟨each .ore, each .organics, each .equipment⟩

namespace Server

namespace Column

variable {ρ : Type} {columns : List (Column ρ)} {name : String} {row done : ρ}

/-- A column is the only one with its name. -/
theorem find?_name (distinct : (columns.map (·.name)).Nodup) {column : Column ρ}
    (listed : column ∈ columns) :
    (columns.find? fun other => other.name == column.name) = some column := by
  cases found : columns.find? fun other => other.name == column.name with
  | none => exact absurd (List.find?_eq_none.mp found column listed) (by simp)
  | some other =>
    have named := List.find?_some found
    rw [List.inj_on_of_nodup_map distinct (List.mem_of_find?_eq_some found) listed
      (eq_of_beq named)]

/-- With different names, every column is set to what it shows of the row. -/
theorem overwrite_reread (distinct : (columns.map (·.name)).Nodup) (row start : ρ) :
    overwrite columns (Json.reread (rowToJson columns row)) start =
      columns.foldl (fun done column => column.set (Json.reread (column.get row)) done) start := by
  unfold overwrite
  refine List.foldl_ext _ _ _ fun done column listed => ?_
  have shown : (Json.reread (rowToJson columns row)).get? column.name =
      some (Json.reread (column.get row)) := by
    rw [rowToJson, Json.get?_reread, List.find?_map, Option.map_map]
    simp only [Function.comp_def, find?_name distinct listed, Option.map_some]
  rw [shown]

section Kinds

/-! Each kind of column shows what can be written down, and is set to what it
shows of a row if that fits. -/

@[simp] theorem legible_number {get : ρ → Nat} {set : ρ → Nat → ρ} :
    ((number name get set).get row).Legible :=
  Json.legible_ofNat _

@[simp] theorem legible_amount {get : ρ → Int} {set : ρ → Int → ρ} :
    ((amount name get set).get row).Legible :=
  Json.legible_ofInt _

@[simp] theorem legible_text {get : ρ → String} {set : ρ → String → ρ} :
    ((text name get set).get row).Legible :=
  Json.legible_ofString _

@[simp] theorem legible_reference {get : ρ → Option Nat} {set : ρ → Option Nat → ρ} :
    ((reference name get set).get row).Legible := by
  unfold reference
  dsimp only
  cases get row with
  | none => trivial
  | some id => exact Json.legible_ofNat id

@[simp] theorem set_number {get : ρ → Nat} {set : ρ → Nat → ρ} (fits : get row ≤ identifierMax) :
    (number name get set).set (Json.reread ((number name get set).get row)) done =
      set done (get row) := by
  simp [number, Json.identifier?_reread fits]

@[simp] theorem set_amount {get : ρ → Int} {set : ρ → Int → ρ} (low : amountMin ≤ get row)
    (high : get row ≤ amountMax) :
    (amount name get set).set (Json.reread ((amount name get set).get row)) done =
      set done (get row) := by
  simp [amount, Json.amount?_reread low high]

@[simp] theorem set_text {get : ρ → String} {set : ρ → String → ρ} :
    (text name get set).set (Json.reread ((text name get set).get row)) done =
      set done (get row) := by
  simp [text, Json.string?_reread]

@[simp] theorem set_reference {get : ρ → Option Nat} {set : ρ → Option Nat → ρ}
    (fits : (get row).getD 0 ≤ identifierMax) :
    (reference name get set).set (Json.reread ((reference name get set).get row)) done =
      set done (get row) := by
  unfold reference
  dsimp only
  cases held : get row with
  | none => rfl
  | some id =>
    rw [held] at fits
    exact congrArg (set done) (Json.identifier?_reread fits)

end Kinds

end Column

namespace Tabular

variable {ρ : Type} [Tabular ρ]

/-- What a row is read back as once its columns are written out under their
names. -/
def rewritten (row : ρ) : Option ρ :=
  (Json.parse? (toJson row).render).map ofJson

/-- A row that is written out is read back column by column. -/
theorem rewritten_eq {row : ρ} (distinct : ((columns : List (Column ρ)).map (·.name)).Nodup)
    (legible : ∀ column ∈ (columns : List (Column ρ)), (column.get row).Legible) :
    rewritten row = some ((columns : List (Column ρ)).foldl
      (fun done column => column.set (Json.reread (column.get row)) done) blank) := by
  have readable : (toJson row).Legible := by
    refine Json.legible_ofFields fun field listed => ?_
    obtain ⟨column, among, rfl⟩ := List.mem_map.mp listed
    exact legible column among
  rw [rewritten, Json.parse?_render readable]
  exact congrArg some (Column.overwrite_reread distinct row blank)

end Tabular

/-- Whether the numbers of a stock fit their columns. -/
structure StockColumns.Fits (columns : StockColumns) : Prop where
  qty : columns.qty ≤ identifierMax
  baseQty : columns.baseQty ≤ identifierMax
  basePrice : columns.basePrice ≤ identifierMax
  regen : columns.regen ≤ identifierMax

/-- Whether the numbers of the row of a port fit their columns. -/
structure PortRow.Fits (row : PortRow) : Prop where
  sector : row.sector ≤ identifierMax
  stocks : ∀ c, (row.stocks.get c).Fits

/-- Whether the numbers of the row of a planet fit their columns. -/
structure PlanetRow.Fits (row : PlanetRow) : Prop where
  id : row.id ≤ identifierMax
  sector : row.sector ≤ identifierMax
  ownerPlayer : row.ownerPlayer.getD 0 ≤ identifierMax
  ownerCorp : row.ownerCorp.getD 0 ≤ identifierMax
  production : ∀ c, row.production.get c ≤ identifierMax
  storage : ∀ c, row.storage.get c ≤ identifierMax
  storageMax : row.storageMax ≤ identifierMax
  citadelLevel : row.citadelLevel ≤ identifierMax

/-- Whether the numbers of the row of a minefield fit their columns. -/
structure MinefieldRow.Fits (row : MinefieldRow) : Prop where
  id : row.id ≤ identifierMax
  sector : row.sector ≤ identifierMax
  ownerPlayer : row.ownerPlayer.getD 0 ≤ identifierMax
  ownerCorp : row.ownerCorp.getD 0 ≤ identifierMax
  qty : row.qty ≤ identifierMax
  created_low : amountMin ≤ row.createdAt
  created_high : row.createdAt ≤ amountMax

/-- Whether the numbers of the row of an event fit their columns. -/
structure EventRow.Fits (row : EventRow) : Prop where
  id : row.id ≤ identifierMax
  sector : row.sector ≤ identifierMax
  percent_low : amountMin ≤ row.pricePercent
  percent_high : row.pricePercent ≤ amountMax
  severity : row.severity ≤ identifierMax
  started_low : amountMin ≤ row.startedAt
  started_high : row.startedAt ≤ amountMax
  ends_low : amountMin ≤ row.endsAt
  ends_high : row.endsAt ≤ amountMax

/-- Whether the numbers of the row of a scan fit their columns. -/
structure IntelRow.Fits (row : IntelRow) : Prop where
  id : row.id ≤ identifierMax
  player : row.player ≤ identifierMax
  sector : row.sector ≤ identifierMax
  scanned_low : amountMin ≤ row.scannedAt
  scanned_high : row.scannedAt ≤ amountMax

section Tables

theorem PortRow.rewritten_eq {row : PortRow} (fits : row.Fits) :
    Tabular.rewritten row = some row := by
  rw [Tabular.rewritten_eq (by decide +kernel)
    (by simp [Tabular.columns, stockColumns, Commodity.all])]
  obtain ⟨ore, organics, equipment⟩ := Goods.parts StockColumns.Fits fits.stocks
  simp [Tabular.columns, stockColumns, Commodity.all, Goods.get, Goods.set, fits.sector,
    ore.qty, ore.baseQty, ore.basePrice, ore.regen, organics.qty, organics.baseQty,
    organics.basePrice, organics.regen, equipment.qty, equipment.baseQty, equipment.basePrice,
    equipment.regen]

theorem PlanetRow.rewritten_eq {row : PlanetRow} (fits : row.Fits) :
    Tabular.rewritten row = some row := by
  rw [Tabular.rewritten_eq (by decide +kernel)
    (by simp [Tabular.columns, Column.load, Commodity.all])]
  have made := Goods.parts (· ≤ identifierMax) fits.production
  have stored := Goods.parts (· ≤ identifierMax) fits.storage
  simp [Tabular.columns, Column.load, Commodity.all, Goods.get, Goods.set, fits.id, fits.sector,
    fits.ownerPlayer, fits.ownerCorp, made, stored, fits.storageMax, fits.citadelLevel]

theorem MinefieldRow.rewritten_eq {row : MinefieldRow} (fits : row.Fits) :
    Tabular.rewritten row = some row := by
  rw [Tabular.rewritten_eq (by decide +kernel) (by simp [Tabular.columns])]
  simp [Tabular.columns, fits.id, fits.sector, fits.ownerPlayer, fits.ownerCorp, fits.qty,
    fits.created_low, fits.created_high]

theorem EventRow.rewritten_eq {row : EventRow} (fits : row.Fits) :
    Tabular.rewritten row = some row := by
  rw [Tabular.rewritten_eq (by decide +kernel) (by simp [Tabular.columns])]
  simp [Tabular.columns, fits.id, fits.sector, fits.percent_low, fits.percent_high, fits.severity,
    fits.started_low, fits.started_high, fits.ends_low, fits.ends_high]

theorem IntelRow.rewritten_eq {row : IntelRow} (fits : row.Fits) :
    Tabular.rewritten row = some row := by
  rw [Tabular.rewritten_eq (by decide +kernel) (by simp [Tabular.columns])]
  simp [Tabular.columns, fits.id, fits.player, fits.sector, fits.scanned_low, fits.scanned_high]

end Tables

/-- Rows lose nothing: what is read from the row of a port, a planet, a minefield
or an event is the record that it was made of, also once the row is written out
column by column and read back. A scan is read from its document, and from its
row, and in a database that began without scans the scan that is saved is the
one of its sector that the player is shown, whatever was written before. -/
theorem rows_lose_nothing :
    (∀ port : Port, (PortRow.ofPort port).toPort = .ok port ∧
      ((PortRow.ofPort port).Fits →
        (Tabular.rewritten (PortRow.ofPort port)).map PortRow.toPort = some (.ok port))) ∧
    (∀ planet : Planet, (PlanetRow.ofPlanet planet).toPlanet = planet ∧
      ((PlanetRow.ofPlanet planet).Fits →
        (Tabular.rewritten (PlanetRow.ofPlanet planet)).map PlanetRow.toPlanet = some planet)) ∧
    (∀ field : Minefield, (MinefieldRow.ofMinefield field).toMinefield = field ∧
      ((MinefieldRow.ofMinefield field).Fits →
        (Tabular.rewritten (MinefieldRow.ofMinefield field)).map MinefieldRow.toMinefield =
          some field)) ∧
    (∀ event : Event, (EventRow.ofEvent event).toEvent = .ok event ∧
      ((EventRow.ofEvent event).Fits →
        (Tabular.rewritten (EventRow.ofEvent event)).map EventRow.toEvent = some (.ok event))) ∧
    ∀ intel : Intel, intel.Fits →
      (Json.parse? intel.toJson.render).bind Intel.ofJson? = some intel ∧
      (∀ key player, (Row.withKey key (IntelRow.ofIntel player intel)).Fits →
        (Tabular.rewritten (Row.withKey key (IntelRow.ofIntel player intel))).map
          IntelRow.toIntel = some (.ok intel)) ∧
      ∀ (start : Database) (changes : List Write) (player : PlayerId),
        start.intel.rows = .empty →
        (∀ scout scan, .saveIntel scout scan ∈ changes → scan.Fits) →
        ∃ after list, (start.afterWrites changes).saveIntel player intel = (.ok (), after) ∧
          after.intelOf player = .ok list ∧ intel ∈ list ∧
          ∀ other ∈ list, other.sector = intel.sector → other = intel := by
  refine ⟨fun port => ⟨PortRow.toPort_ofPort port, fun fits => ?_⟩,
    fun planet => ⟨PlanetRow.toPlanet_ofPlanet planet, fun fits => ?_⟩,
    fun field => ⟨MinefieldRow.toMinefield_ofMinefield field, fun fits => ?_⟩,
    fun event => ⟨EventRow.toEvent_ofEvent event, fun fits => ?_⟩,
    fun intel fits => ⟨Intel.read_written fits, fun key player columns => ?_,
      fun start changes player vacant others => ?_⟩⟩
  · rw [PortRow.rewritten_eq fits, Option.map_some, PortRow.toPort_ofPort]
  · rw [PlanetRow.rewritten_eq fits, Option.map_some, PlanetRow.toPlanet_ofPlanet]
  · rw [MinefieldRow.rewritten_eq fits, Option.map_some, MinefieldRow.toMinefield_ofMinefield]
  · rw [EventRow.rewritten_eq fits, Option.map_some, EventRow.toEvent_ofEvent]
  · rw [IntelRow.rewritten_eq columns, Option.map_some, IntelRow.toIntel_ofIntel key player fits]
  · have legible := Database.scansLegible_afterWrites vacant others
    obtain ⟨after, list, saved, _, shown, listed, lone⟩ := legible.save fits player
    exact ⟨after, list, saved, shown, listed, lone⟩

/-- A planet that a corporation holds, without a founder to speak of. -/
def Drill.bastion : Planet where
  id := identifierMax
  sector := 4
  name := "Haven"
  owner := .corp 3 0
  production := ⟨1, 2, 3⟩
  storage := ⟨4, 5, 6⟩
  storageMax := 7
  citadelLevel := 8

/-- Quotes at the ends of their ranges. -/
def Drill.extremes : Goods Quote :=
  ⟨⟨.sell, 0, counterMax, amountMin⟩, ⟨.buy, 1, 2, amountMax⟩, ⟨.buy, 3, 4, -1⟩⟩

/-- A scan of a sector whose name needs escapes. -/
def Drill.sighting (now : Int) : Intel :=
  ⟨2, "\"Vega\\\u0007 \u00e9", now, extremes⟩

theorem Drill.sighting_fits {now : Int} (low : amountMin ≤ now) (high : now ≤ amountMax) :
    (sighting now).Fits where
  sector := (by decide : 2 ≤ counterMax)
  scanned_low := low
  scanned_high := high
  quotes := by
    have fit : ∀ c, (extremes.get c).Fits := by
      intro c
      cases c <;> constructor <;> decide
    exact fit

/-- The planet and an event for all goods are read back, and a second scan is
shown in place of the first. -/
theorem rows_lose_nothing_sighting :
    (Tabular.rewritten (PlanetRow.ofPlanet Drill.bastion)).map PlanetRow.toPlanet =
      some Drill.bastion ∧
    (EventRow.ofEvent ⟨5, .limited, 2, none, 80, 0, "Sale", "", amountMin, 9⟩).toEvent =
      .ok ⟨5, .limited, 2, none, 80, 0, "Sale", "", amountMin, 9⟩ ∧
    ∃ after list, (Database.empty.afterWrites [.saveIntel 7 (Drill.sighting 100),
        .saveIntel 8 (Drill.sighting 150)]).saveIntel 7 (Drill.sighting 200) = (.ok (), after) ∧
      after.intelOf 7 = .ok list ∧ Drill.sighting 200 ∈ list ∧ Drill.sighting 100 ∉ list := by
  obtain ⟨_, planets, _, events, scans⟩ := rows_lose_nothing
  have fits : (PlanetRow.ofPlanet Drill.bastion).Fits := by
    constructor <;> first | decide | (intro c; cases c <;> decide)
  have others : ∀ scout scan, Write.saveIntel scout scan ∈
      [Write.saveIntel 7 (Drill.sighting 100), .saveIntel 8 (Drill.sighting 150)] →
      scan.Fits := by
    intro scout scan listed
    rcases List.mem_pair.mp listed with same | same
    · cases same
      exact Drill.sighting_fits (by decide) (by decide)
    · cases same
      exact Drill.sighting_fits (by decide) (by decide)
  obtain ⟨_, _, saves⟩ := scans (Drill.sighting 200) (Drill.sighting_fits (by decide) (by decide))
  obtain ⟨after, list, saved, shown, listed, lone⟩ := saves .empty _ 7 rfl others
  refine ⟨(planets _).2 fits, (events _).1, after, list, saved, shown, listed, fun old => ?_⟩
  have same := congrArg Intel.scannedAt (lone _ old rfl)
  revert same
  decide

end Server

end Starlane
