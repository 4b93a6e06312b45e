import Starlane.Server.Codec
import Starlane.Settings

/-!
# Databases

All tables of a server.
-/

namespace Starlane.Server

/-- The tables of a server. -/
structure Database where
  settings : Relation SettingsRow
  seasons : Relation Season
  players : Relation PlayerRow
  sessions : Relation SessionRow
  results : Relation ResultRow
  logs : Relation LogRow
  discoveries : Relation DiscoveryRow
  intel : Relation IntelRow
  sectors : Relation Sector
  warps : Relation WarpRow
  ports : Relation PortRow
  planets : Relation PlanetRow
  minefields : Relation MinefieldRow
  events : Relation EventRow
  corps : Relation CorpRow
  members : Relation MemberRow
  messages : Relation MessageRow
  portTimers : Relation TimerRow
  planetTimers : Relation TimerRow
  eventTimers : Relation TimerRow
  protectorateTimers : Relation TimerRow

namespace Database

/-- The database without rows. -/
def empty : Database where
  settings := .empty
  seasons := .empty
  players := .empty
  sessions := .empty
  results := .empty
  logs := .empty
  discoveries := .empty
  intel := .empty
  sectors := .empty
  warps := .empty
  ports := .empty
  planets := .empty
  minefields := .empty
  events := .empty
  corps := .empty
  members := .empty
  messages := .empty
  portTimers := .empty
  planetTimers := .empty
  eventTimers := .empty
  protectorateTimers := .empty

/-- The rows of one state with the key counters of a later one: what is left of an undone
change. -/
def restore (before after : Database) : Database where
  settings := before.settings.restore after.settings
  seasons := before.seasons.restore after.seasons
  players := before.players.restore after.players
  sessions := before.sessions.restore after.sessions
  results := before.results.restore after.results
  logs := before.logs.restore after.logs
  discoveries := before.discoveries.restore after.discoveries
  intel := before.intel.restore after.intel
  sectors := before.sectors.restore after.sectors
  warps := before.warps.restore after.warps
  ports := before.ports.restore after.ports
  planets := before.planets.restore after.planets
  minefields := before.minefields.restore after.minefields
  events := before.events.restore after.events
  corps := before.corps.restore after.corps
  members := before.members.restore after.members
  messages := before.messages.restore after.messages
  portTimers := before.portTimers.restore after.portTimers
  planetTimers := before.planetTimers.restore after.planetTimers
  eventTimers := before.eventTimers.restore after.eventTimers
  protectorateTimers := before.protectorateTimers.restore after.protectorateTimers

/-- The settings in force: the stored ones, or the standard ones where none are stored or the
document means nothing. -/
def currentSettings (db : Database) : Settings :=
  ((db.settings.find? 0).bind fun row => Settings.read? row.document).getD Settings.standard

/-- The player of a client. -/
def playerOf? (db : Database) (identity : Identity) : Option PlayerRow :=
  db.players.search? fun row => row.identity == identity

/-- The roster row of a player. -/
def memberOf? (db : Database) (player : PlayerId) : Option MemberRow :=
  db.members.search? fun row => row.player == player

end Database

end Starlane.Server
