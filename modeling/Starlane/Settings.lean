import Starlane.Corporation
import Starlane.Json.Record
import Starlane.Log
import Starlane.Rank

/-!
# Settings

The intervals of turn grants and tickers, the length of the log in a response, and what a new
player starts with.  Every field has a default, so a partial document is a valid one; `normalized`
raises or lowers what is out of bounds.
-/

namespace Starlane

/-- The settings of a game.  An event or protectorate interval of zero means no ticker. -/
structure Settings where
  turnRegenSeconds : Nat
  portTickSeconds : Nat
  planetTickSeconds : Nat
  eventTickSeconds : Nat
  protectorateTickSeconds : Nat
  recentLogLimit : Nat
  startCredits : Int
  startTurns : Nat
  startTurnsMax : Nat
  startCargoMax : Nat
  deriving DecidableEq, Repr

namespace Settings

/-- The settings where nothing is said. -/
def standard : Settings where
  turnRegenSeconds := 120
  portTickSeconds := 60
  planetTickSeconds := 60
  eventTickSeconds := 60
  protectorateTickSeconds := 60
  recentLogLimit := 20
  startCredits := 1000
  startTurns := 100
  startTurnsMax := 100
  startCargoMax := 30

/-- The length of the log in a response: between one line and all that are kept. -/
def shownLogs (limit : Nat) : Nat :=
  max 1 (min limit logKeep)

/-- An interval of at least `floor` seconds, or zero. -/
def floorOrOff (seconds floor : Nat) : Nat :=
  if seconds = 0 then 0 else max seconds floor

/-- The settings with every field within its bounds. -/
def normalized (settings : Settings) : Settings :=
  let startTurnsMax := max settings.startTurnsMax 1
  { turnRegenSeconds := max settings.turnRegenSeconds 10
    portTickSeconds := max settings.portTickSeconds 5
    planetTickSeconds := max settings.planetTickSeconds 5
    eventTickSeconds := floorOrOff settings.eventTickSeconds 10
    protectorateTickSeconds := floorOrOff settings.protectorateTickSeconds 10
    recentLogLimit := shownLogs settings.recentLogLimit
    startCredits := max settings.startCredits 0
    startTurns := min settings.startTurns startTurnsMax
    startTurnsMax
    startCargoMax := max settings.startCargoMax 1 }

/-- The names of the fields, in order. -/
def fieldNames : List String :=
  ["turn_regen_seconds", "port_tick_seconds", "planet_tick_seconds", "event_tick_seconds",
   "protectorate_tick_seconds", "recent_log_limit", "start_credits", "start_turns",
   "start_turns_max", "start_cargo_max"]

/-- The JSON form, every field in order. -/
def toJson (settings : Settings) : Json :=
  .ofFields [
    ("turn_regen_seconds", .ofNat settings.turnRegenSeconds),
    ("port_tick_seconds", .ofNat settings.portTickSeconds),
    ("planet_tick_seconds", .ofNat settings.planetTickSeconds),
    ("event_tick_seconds", .ofNat settings.eventTickSeconds),
    ("protectorate_tick_seconds", .ofNat settings.protectorateTickSeconds),
    ("recent_log_limit", .ofNat settings.recentLogLimit),
    ("start_credits", .ofInt settings.startCredits),
    ("start_turns", .ofNat settings.startTurns),
    ("start_turns_max", .ofNat settings.startTurnsMax),
    ("start_cargo_max", .ofNat settings.startCargoMax)]

/-- Reads settings; a field that is not given takes its standard value. -/
def ofJson? (value : Json) : Option Settings := do
  match ← Json.record? fieldNames value with
  | [turnRegen, portTick, planetTick, eventTick, protectorateTick, recentLogs, credits, turns,
      turnsMax, cargoMax] =>
    return {
      turnRegenSeconds :=
        ← Json.defaulted standard.turnRegenSeconds Json.counter? turnRegen
      portTickSeconds := ← Json.defaulted standard.portTickSeconds Json.counter? portTick
      planetTickSeconds := ← Json.defaulted standard.planetTickSeconds Json.counter? planetTick
      eventTickSeconds := ← Json.defaulted standard.eventTickSeconds Json.counter? eventTick
      protectorateTickSeconds :=
        ← Json.defaulted standard.protectorateTickSeconds Json.counter? protectorateTick
      recentLogLimit := ← Json.defaulted standard.recentLogLimit Json.identifier? recentLogs
      startCredits := ← Json.defaulted standard.startCredits Json.amount? credits
      startTurns := ← Json.defaulted standard.startTurns Json.counter? turns
      startTurnsMax := ← Json.defaulted standard.startTurnsMax Json.counter? turnsMax
      startCargoMax := ← Json.defaulted standard.startCargoMax Json.counter? cargoMax }
  | _ => none

/-- The document of the settings. -/
def write (settings : Settings) : String :=
  settings.toJson.render

/-- The settings that a document gives, as given. -/
def readRaw? (document : String) : Option Settings :=
  (Json.parse? document).bind ofJson?

/-- The settings that a document gives, within their bounds. -/
def read? (document : String) : Option Settings :=
  (readRaw? document).map normalized

/-- A new player in a sector and a season. -/
def newPlayer (settings : Settings) (id : PlayerId) (username : String) (sector : SectorId)
    (season : Season) (now : Int) : Player where
  id
  username
  isAdmin := false
  mustChangePassword := false
  credits := settings.startCredits
  xp := 0
  level := Rank.levelFor 0
  ship := .scout
  cargoUpgrades := 0
  turnUpgrades := 0
  turns := settings.startTurns
  turnsMax := settings.startTurnsMax
  sector
  cargoMax := settings.startCargoMax
  cargo := Goods.empty
  regenStamp := some now
  season := season.id
  seasonName := season.name

end Settings

end Starlane
