import Starlane.Command
import Starlane.Plan.Basic
import Starlane.Route
import Starlane.Time.Calendar

/-!
# Briefings

The commands that only inform: market, route, events, rankings, season and help.  Each writes its
text to the player's log and changes nothing else.
-/

namespace Starlane.Plan

/-- A briefing: the text is told and logged. -/
def briefing (commander : Commander) (text : String) : Effects :=
  .logged commander [] .system text

/-- Plans the market report. -/
def market (look : Lookup) (now : Int) (commander : Commander) (filter : Option Commodity) :
    Plan Effects := do
  let intel ← read (look.intel commander.id)
  return briefing commander (Market.report now intel filter)

/-- Plans the route report over the discovered sectors. -/
def route (look : Lookup) (now : Int) (commander : Commander) (filter : Option Commodity) :
    Plan Effects := do
  let intel ← read (look.intel commander.id)
  let known := look.discovered commander.id
  let chart := Chart.ofDiscovered known (look.warpsAmong known)
  return briefing commander
    (Route.report now commander.sector commander.cargoMax chart intel filter)

/-- The lines of an event in the listing. -/
def eventLines (look : Lookup) (now : Int) (event : Event) : List String :=
  let name :=
    match look.sector event.sector with
    | some sector => sector.name
    | none => ""
  let left := Time.spanText (event.endsAt - now)
  let head := s!"- [{event.kind.code}] Sector {event.sector} ({name}): {event.title} " ++
    s!"(ends in {left}) | {event.summary}"
  let description := Text.trim event.description
  if description.isEmpty then [head] else [head, s!"  {description}"]

/-- The listing of some events. -/
def eventsText (look : Lookup) (now : Int) (events : List Event) : String :=
  if events.isEmpty then "No known active events right now."
  else
    "\n".intercalate ("Active events (known sectors):" :: events.flatMap (eventLines look now))

/-- Of the active events those that a listing shows: in discovered sectors, the twenty that end
first. -/
def visible (look : Lookup) (commander : Commander) (active : List Event) : List Event :=
  let known := look.discovered commander.id
  (active.filter fun event => known.contains event.sector).take 20

/-- Plans the listing of the events. -/
def events (look : Lookup) (now : Int) (commander : Commander) : Plan Effects := do
  let active ← read (look.events now)
  return briefing commander (eventsText look now (visible look commander active))

/-- A line of the rankings at a place. -/
def rankingLine (row : Ranking) (place : Nat) : String :=
  match row.corpName with
  | some corp => s!"{place}. {row.username} [{corp}] - {row.credits}"
  | none => s!"{place}. {row.username} - {row.credits}"

/-- Plans the listing of the ten richest players of the season. -/
def rankings (look : Lookup) (commander : Commander) : Plan Effects :=
  let rows := look.rankings commander.season 10
  let lines :=
    if rows.isEmpty then ["No rankings yet."]
    else rows.mapIdx fun i row => rankingLine row (i + 1)
  return briefing commander ("\n".intercalate (s!"Rankings ({commander.seasonName})" :: lines))

/-- Plans the report on the season. -/
def season (look : Lookup) (commander : Commander) : Plan Effects :=
  let started :=
    match look.season commander.season with
    | some season => Time.rfc3339 season.startedAt
    | none => "-"
  return briefing commander
    (s!"Current season: {commander.seasonName} (ID {commander.season})\n" ++
      s!"Started: {started}")

end Starlane.Plan
