import Starlane.Intel

/-!
# Universe documents

A universe is laid out in advance as sectors, warps and ports.  A document is accepted when it is
consistent: no sector twice, no warp or port at an unknown sector, no warp from a sector to
itself, and no stock above its base quantity.
-/

namespace Starlane

/-- A link between two sectors, both ways unless it is one-way. -/
structure WarpLink where
  source : SectorId
  target : SectorId
  oneWay : Bool
  deriving DecidableEq, Repr

/-- The directed warps of a link. -/
def WarpLink.edges (link : WarpLink) : List (SectorId × SectorId) :=
  if link.oneWay then [(link.source, link.target)]
  else [(link.source, link.target), (link.target, link.source)]

/-- A universe as laid out. -/
structure Universe where
  sectors : List Sector
  warps : List WarpLink
  ports : List Port
  deriving DecidableEq, Repr

/-- Why a document is refused. -/
inductive UniverseError where
  | malformed
  | duplicateSector (sector : SectorId)
  | danglingWarp (source target : SectorId)
  | selfWarp (sector : SectorId)
  | danglingPort (sector : SectorId)
  | overstockedPort (sector : SectorId) (commodity : Commodity)
  deriving DecidableEq, Repr

/-- What the importer is told. -/
def UniverseError.message : UniverseError → String
  | malformed => "invalid universe JSON:"
  | duplicateSector sector => s!"sector {sector} is defined twice"
  | danglingWarp source target => s!"warp {source} -> {target} references an unknown sector"
  | selfWarp sector => s!"warp from sector {sector} to itself"
  | danglingPort sector => s!"port references unknown sector {sector}"
  | overstockedPort sector c =>
    s!"port in sector {sector} stocks more {c.code} than its base quantity"

namespace Universe

/-- The first sector that repeats the number of an earlier one. -/
def firstRepeated? (seen : List SectorId) : List Sector → Option SectorId
  | [] => none
  | sector :: rest =>
    if seen.contains sector.id then some sector.id
    else firstRepeated? (sector.id :: seen) rest

/-- What is wrong with a link among some sectors. -/
def linkError? (ids : List SectorId) (link : WarpLink) : Option UniverseError :=
  if link.source = link.target then some (.selfWarp link.source)
  else if ids.contains link.source && ids.contains link.target then none
  else some (.danglingWarp link.source link.target)

/-- What is wrong with a port among some sectors. -/
def portError? (ids : List SectorId) (port : Port) : Option UniverseError :=
  if ids.contains port.sector then
    (Commodity.all.find? fun c => decide ((port.stock c).baseQty < (port.stock c).qty)).map
      fun c => .overstockedPort port.sector c
  else some (.danglingPort port.sector)

/-- The first thing wrong with a universe: sectors are checked first, then links, then ports. -/
def error? (layout : Universe) : Option UniverseError :=
  let ids := layout.sectors.map (·.id)
  ((firstRepeated? [] layout.sectors).map .duplicateSector)
    |>.or (layout.warps.findSome? (linkError? ids))
    |>.or (layout.ports.findSome? (portError? ids))

/-- Whether one warp comes before another: by its source, then by its target. -/
def warpBefore (a b : SectorId × SectorId) : Bool :=
  decide (a.1 < b.1) || (a.1 == b.1 && decide (a.2 ≤ b.2))

/-- The directed warps in order, each once. -/
def edges (layout : Universe) : List (SectorId × SectorId) :=
  ((layout.warps.flatMap WarpLink.edges).eraseDups).mergeSort warpBefore

/-- Reads a sector; every field must be given. -/
def sectorOfJson? (value : Json) : Option Sector := do
  match ← Json.record? ["id", "name", "is_protectorate", "protectorate_fighters"] value with
  | [id, name, isProtectorate, fighters] =>
    return {
      id := ← Json.required Json.counter? id
      name := ← Json.required Json.string? name
      isProtectorate := ← Json.required Json.bool? isProtectorate
      fighters := ← Json.required Json.counter? fighters }
  | _ => none

/-- Reads a link, which goes both ways unless it says otherwise. -/
def linkOfJson? (value : Json) : Option WarpLink := do
  match ← Json.record? ["from", "to", "one_way"] value with
  | [source, target, oneWay] =>
    return {
      source := ← Json.required Json.counter? source
      target := ← Json.required Json.counter? target
      oneWay := ← Json.defaulted false Json.bool? oneWay }
  | _ => none

/-- Reads a stock; every field must be given. -/
def stockOfJson? (value : Json) : Option Stock := do
  match ← Json.record? ["mode", "qty", "base_qty", "base_price", "regen"] value with
  | [mode, qty, baseQty, basePrice, regen] =>
    return {
      mode := ← Json.required TradeMode.ofJson? mode
      qty := ← Json.required Json.counter? qty
      baseQty := ← Json.required Json.counter? baseQty
      basePrice := ← Json.required Json.counter? basePrice
      regen := ← Json.required Json.counter? regen }
  | _ => none

/-- Reads a port; every field must be given. -/
def portOfJson? (value : Json) : Option Port := do
  match ← Json.record? ["sector_id", "ore", "organics", "equipment"] value with
  | [sector, ore, organics, equipment] =>
    return {
      sector := ← Json.required Json.counter? sector
      stocks := {
        ore := ← Json.required stockOfJson? ore
        organics := ← Json.required stockOfJson? organics
        equipment := ← Json.required stockOfJson? equipment } }
  | _ => none

/-- Reads a universe; a list that is not given is empty. -/
def ofJson? (value : Json) : Option Universe := do
  match ← Json.record? ["sectors", "warps", "ports"] value with
  | [sectors, warps, ports] =>
    return {
      sectors := ← Json.defaulted [] (Json.list? sectorOfJson?) sectors
      warps := ← Json.defaulted [] (Json.list? linkOfJson?) warps
      ports := ← Json.defaulted [] (Json.list? portOfJson?) ports }
  | _ => none

/-- The universe itself, if nothing is wrong with it. -/
def validate (layout : Universe) : Except UniverseError Universe :=
  match layout.error? with
  | some error => .error error
  | none => .ok layout

/-- The universe of a document. -/
def read (document : String) : Except UniverseError Universe :=
  match (Json.parse? document).bind ofJson? with
  | none => .error .malformed
  | some layout => layout.validate

end Universe

end Starlane
