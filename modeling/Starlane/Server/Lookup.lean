import Starlane.Server.Database
import Starlane.Store.Lookup
import Starlane.Text.Casing

/-!
# Looking things up in a database

The lookups of a database read the rows that they need, so a row that means nothing fails only
those lookups that come upon it.
-/

namespace Starlane.Server.Database

/-- What a player's record says about their corporation. -/
def membershipOf (db : Database) (player : PlayerId) : Except StoreFailure (Option Membership) :=
  match db.memberOf? player with
  | none => .ok none
  | some member =>
    match db.corps.find? member.corp with
    | none => .ok none
    | some corp => do
      let role ← member.readRole
      return some ⟨corp.id, corp.name, role, corp.bank⟩

/-- The name of a season, or one made from its number. -/
def seasonName (db : Database) (season : SeasonId) : String :=
  match db.seasons.find? season with
  | some season => season.name
  | none => s!"Season {season}"

/-- A player with their membership. -/
def commander (db : Database) (id : PlayerId) : Except StoreFailure Commander :=
  match db.players.find? id with
  | none => .error (.missing .player id)
  | some row => do
    let player ← row.toPlayer (db.seasonName row.season)
    let membership ← db.membershipOf id
    return { toPlayer := player, membership }

/-- The ends of the warps out of a sector, ascending and each once. -/
def warpsFrom (db : Database) (sector : SectorId) : List SectorId :=
  let targets := (db.warps.all.filter fun row => row.source == sector).map (·.target)
  (targets.mergeSort fun a b => decide (a ≤ b)).eraseDups

/-- The warps with both ends among some sectors. -/
def warpsAmong (db : Database) (sectors : List SectorId) : List (SectorId × SectorId) :=
  (db.warps.all.filter fun row => sectors.contains row.source && sectors.contains row.target).map
    fun row => (row.source, row.target)

/-- The sectors that a player has discovered, ascending. -/
def discovered (db : Database) (player : PlayerId) : List SectorId :=
  ((db.discoveries.all.filter fun row => row.player == player).map (·.sector)).mergeSort
    fun a b => decide (a ≤ b)

/-- The corporation with a name, in any case. -/
def corpNamed (db : Database) (name : String) : Option Corporation :=
  let wanted := Text.lower name
  (db.corps.search? fun row => Text.lower row.name == wanted).map CorpRow.toCorp

/-- The roster of a corporation by joining time, then by row. -/
def membersOf (db : Database) (corp : CorpId) : Except StoreFailure (List Member) :=
  let rows := db.members.all.filter fun row => row.corp == corp
  (rows.mergeSort fun a b =>
    decide (a.joinedAt < b.joinedAt) || (a.joinedAt == b.joinedAt && decide (a.id ≤ b.id))).mapM
      MemberRow.toMember

/-- The rows of the events at a time. -/
def activeEvents (db : Database) (now : Int) : List EventRow :=
  db.events.all.filter fun row => decide (now < row.endsAt)

/-- The event of a sector at a time: the one that ends first. -/
def eventIn (db : Database) (sector : SectorId) (now : Int) :
    Except StoreFailure (Option Event) :=
  match ((db.activeEvents now).filter fun row => row.sector == sector).minOn? (·.endsAt) with
  | none => .ok none
  | some row => row.toEvent.map some

/-- The scans of a player, newest first. -/
def intelOf (db : Database) (player : PlayerId) : Except StoreFailure (List Intel) :=
  ((db.intel.all.filter fun row => row.player == player).mapM IntelRow.toIntel).map
    Intel.sortNewestFirst

/-- The rows of a player's log. -/
def logRows (db : Database) (player : PlayerId) : List LogRow :=
  db.logs.all.filter fun row => row.player == player

/-- The newest lines of a player's log, newest first. -/
def recentLogs (db : Database) (player : PlayerId) (limit : Nat) :
    Except StoreFailure (List LogEntry) :=
  (((db.logRows player).mergeSort fun a b => decide (b.id ≤ a.id)).take limit).mapM LogRow.toEntry

/-- The richest players of a season. -/
def rankings (db : Database) (season : SeasonId) (limit : Nat) : List Ranking :=
  let corpName := fun player : PlayerId =>
    ((db.memberOf? player).bind fun member => db.corps.find? member.corp).map (·.name)
  Ranking.top limit ((db.players.all.filter fun row => row.season == season).map
    fun row => ⟨row.username, row.credits, corpName row.id⟩)

/-- All lookups. -/
def lookup (db : Database) : Lookup where
  commander := db.commander
  username id := (db.players.find? id).map (·.username)
  sector := db.sectors.find?
  warpsFrom := db.warpsFrom
  warpsAmong := db.warpsAmong
  discovered := db.discovered
  port sector :=
    match db.ports.find? sector with
    | none => .ok none
    | some row => row.toPort.map some
  planet sector := (db.planets.search? fun row => row.sector == sector).map PlanetRow.toPlanet
  planetCount corp := db.planets.all.countP fun row => row.ownerCorp == some corp
  corp id := (db.corps.find? id).map CorpRow.toCorp
  corpNamed := db.corpNamed
  nextCorp := db.corps.nextKey
  members := db.membersOf
  minefields sector :=
    (db.minefields.all.filter fun row => row.sector == sector).map MinefieldRow.toMinefield
  event := db.eventIn
  events now := ((db.activeEvents now).mapM EventRow.toEvent).map Event.sortByEnd
  intel := db.intelOf
  recentLogs := db.recentLogs
  season := db.seasons.find?
  rankings := db.rankings

end Starlane.Server.Database
