import Starlane.Store.Lookup

/-!
# The view of a sector

Everything that a player sees in a sector: warps, port, planet, event and mines.
-/

namespace Starlane

/-- What is told about the owner of a planet. -/
inductive OwnerLabel where
  /-- Nobody owns it. -/
  | unclaimed
  /-- A player, by name if there still is such a player. -/
  | player (name : Option String)
  /-- A corporation, by name if it still exists. -/
  | corp (name : Option String)
  deriving DecidableEq, Repr

/-- A planet as seen from its sector. -/
structure PlanetView where
  id : PlanetId
  name : String
  owner : OwnerLabel
  production : Goods Nat
  storage : Goods Nat
  storageMax : Nat
  citadelLevel : Nat
  deriving DecidableEq, Repr

/-- An event as seen from its sector. -/
structure EventView where
  kind : EventKind
  sector : SectorId
  scopeLabel : String
  pricePercent : Int
  severity : Nat
  title : String
  description : String
  endsAt : Int
  deriving DecidableEq, Repr

/-- A sector as seen by a player in it. -/
structure SectorView where
  sector : Sector
  warps : List SectorId
  port : Option (Goods Quote)
  planet : Option PlanetView
  event : Option EventView
  mines : Nat
  deriving DecidableEq, Repr

/-- The stocks of a port at their prices under the sector's event. -/
def Port.quotes (port : Port) (event : Option Event) : Goods Quote :=
  (Intel.capture port "" event 0).quotes

/-- The label of an owner under the names of today. -/
def OwnerLabel.ofOwner (look : Lookup) : Owner → OwnerLabel
  | .unowned => unclaimed
  | .player id => player (look.username id)
  | .corp id _ => corp ((look.corp id).map (·.name))

/-- The view of a planet. -/
def PlanetView.ofPlanet (look : Lookup) (planet : Planet) : PlanetView :=
  { id := planet.id
    name := planet.name
    owner := .ofOwner look planet.owner
    production := planet.production
    storage := planet.storage
    storageMax := planet.storageMax
    citadelLevel := planet.citadelLevel }

/-- The view of an event. -/
def EventView.ofEvent (event : Event) : EventView :=
  { kind := event.kind
    sector := event.sector
    scopeLabel := event.scopeLabel
    pricePercent := event.pricePercent
    severity := event.severity
    title := event.title
    description := event.description
    endsAt := event.endsAt }

/-- The view of a sector that must be there. -/
def Lookup.view (look : Lookup) (id : SectorId) (now : Int) : Except StoreFailure SectorView := do
  let sector ← look.sectorOrFail id
  let event ← look.event id now
  let port ← look.port id
  return {
    sector
    warps := look.warpsFrom id
    port := port.map fun port => port.quotes event
    planet := (look.planet id).map (PlanetView.ofPlanet look)
    event := event.map EventView.ofEvent
    mines := look.mineTotal id }

/-- The JSON form of a load. -/
def Goods.toJson (goods : Goods Nat) : Json :=
  .ofFields [("ore", .ofNat goods.ore), ("organics", .ofNat goods.organics),
    ("equipment", .ofNat goods.equipment)]

/-- The fields that name an owner. -/
def OwnerLabel.fields : OwnerLabel → List (String × Json)
  | unclaimed => []
  | player name =>
    ("owner_type", .ofString "PLAYER") :: Json.optionalField "owner" (name.map .ofString)
  | corp name =>
    ("owner_type", .ofString "CORP") :: Json.optionalField "owner" (name.map .ofString)

/-- The JSON form of a planet. -/
def PlanetView.toJson (view : PlanetView) : Json :=
  .ofFields ([("id", .ofNat view.id), ("name", .ofString view.name)] ++ view.owner.fields ++
    [("production", view.production.toJson), ("storage", view.storage.toJson),
      ("storage_max", .ofNat view.storageMax), ("citadel_level", .ofNat view.citadelLevel)])

/-- The JSON form of an event. -/
def EventView.toJson (view : EventView) : Json :=
  .ofFields [("kind", .ofString view.kind.code), ("sector_id", .ofNat view.sector),
    ("commodity", .ofString view.scopeLabel), ("price_percent", .ofInt view.pricePercent),
    ("severity", .ofNat view.severity), ("title", .ofString view.title),
    ("description", .ofString view.description), ("ends_at", .ofInt view.endsAt)]

/-- The JSON form of the stocks of a port. -/
def Quote.stocksToJson (quotes : Goods Quote) : Json :=
  .ofFields [("ore", quotes.ore.toJson), ("organics", quotes.organics.toJson),
    ("equipment", quotes.equipment.toJson)]

/-- The JSON form of a sector; what is not there is left out. -/
def SectorView.toJson (view : SectorView) : Json :=
  .ofFields ([("id", .ofNat view.sector.id), ("name", .ofString view.sector.name),
      ("warps", .list (view.warps.map .ofNat)),
      ("is_protectorate", .bool view.sector.isProtectorate),
      ("protectorate_fighters", .ofNat view.sector.fighters)] ++
    Json.optionalField "port" (view.port.map Quote.stocksToJson) ++
    Json.optionalField "planet" (view.planet.map PlanetView.toJson) ++
    Json.optionalField "event" (view.event.map EventView.toJson) ++
    [("mines", .ofNat view.mines)])

end Starlane
