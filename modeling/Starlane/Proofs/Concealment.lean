import Starlane.Proofs.Limit
import Starlane.Proofs.Reordered
import Starlane.Proofs.Verdict

/-!
# What a player has not discovered stays hidden

The market, the routes and the events are reported from a player's own row, scans and
discoveries, from the warps between discovered sectors and from the events in them. Two
worlds that agree on these are told apart by none of the reports, whatever else there is
in either.
-/

namespace Starlane

namespace Table

variable {κ α : Type} [Key κ] [DecidableEq κ]

/-- Tables that answer alike for the entries that pass a test have the same of these. -/
theorem filter_entries_congr {table other : Table κ α} {test : κ × α → Bool}
    (same : ∀ key value, test (key, value) = true →
      (other.get? key = some value ↔ table.get? key = some value)) :
    other.entries.filter test = table.entries.filter test := by
  refine (other.ascending.filter test).eq_of_mem (table.ascending.filter test) ?_
  rintro ⟨key, value⟩
  rw [List.mem_filter, List.mem_filter, mem_entries_iff, mem_entries_iff]
  exact and_congr_left (same key value)

/-- Tables that hold the same of the keys that pass a test list the same of these. -/
theorem filter_keys_congr {table other : Table κ Unit} {test : κ → Bool}
    (same : ∀ key, test key = true → other.contains key = table.contains key) :
    other.keys.filter test = table.keys.filter test := by
  unfold keys
  rw [List.filter_map, List.filter_map]
  refine congrArg (List.map _) (filter_entries_congr fun key _ passed => ?_)
  have held := same key passed
  unfold contains at held
  cases one : table.get? key <;> cases two : other.get? key <;> simp_all

end Table

namespace Event

/-- An event without its number. -/
def unnumbered (event : Event) : Event :=
  { event with id := 0 }

/-- Whether an event is listed before another one. -/
def precedes (event other : Event) : Bool :=
  decide (event.endsAt < other.endsAt) ||
    (event.endsAt == other.endsAt && decide (event.id ≤ other.id))

/-- Whether an event ends before another one, or with it. -/
def endsBy (event other : Event) : Bool :=
  decide (event.endsAt ≤ other.endsAt)

variable {events others : List Event}

/-- Events in the order of their numbers keep it where they end together. -/
theorem sortByEnd_numbered (numbered : events.Pairwise fun event other => event.id < other.id) :
    sortByEnd events = events.mergeSort endsBy := by
  have ordered : ∀ a ∈ events.zipIdx, ∀ b ∈ events.zipIdx,
      List.zipIdxLE endsBy a b = precedes a.1 b.1 := by
    rintro ⟨a, i⟩ one ⟨b, j⟩ another
    obtain ⟨inside, here⟩ := List.getElem?_eq_some_iff.mp (List.mem_zipIdx_iff_getElem?.mp one)
    obtain ⟨inside', there⟩ :=
      List.getElem?_eq_some_iff.mp (List.mem_zipIdx_iff_getElem?.mp another)
    dsimp only at inside here inside' there
    have apart := List.pairwise_iff_getElem.mp numbered
    have places : i ≤ j ↔ a.id ≤ b.id := by
      rcases Nat.lt_trichotomy i j with before | rfl | after
      · have less : a.id < b.id := here ▸ there ▸ apart i j inside inside' before
        exact iff_of_true (Nat.le_of_lt before) (Nat.le_of_lt less)
      · rw [← here, ← there]
        simp
      · have less : b.id < a.id := here ▸ there ▸ apart j i inside' inside after
        exact iff_of_false (Nat.not_le.mpr after) (Nat.not_le.mpr less)
    grind [List.zipIdxLE, endsBy, precedes]
  rw [← List.mergeSort_zipIdx, List.map_mergeSort ordered, List.zipIdx_map_fst]
  rfl

/-- How events are ordered when they end does not depend on what their numbers are, if
these are in the same order. -/
theorem sortByEnd_unnumbered
    (numbered : events.Pairwise fun event other => event.id < other.id)
    (numbered' : others.Pairwise fun event other => event.id < other.id)
    (same : others.map unnumbered = events.map unnumbered) :
    (sortByEnd others).map unnumbered = (sortByEnd events).map unnumbered := by
  have sorted : ∀ events : List Event,
      (events.mergeSort endsBy).map unnumbered = (events.map unnumbered).mergeSort endsBy :=
    fun _ => List.map_mergeSort fun _ _ _ _ => rfl
  rw [sortByEnd_numbered numbered, sortByEnd_numbered numbered', sorted, sorted, same]

/-- To leave out events before or after they are ordered comes to the same. -/
theorem filter_sortByEnd (test : Event → Bool)
    (numbered : events.Pairwise fun event other => event.id < other.id) :
    (sortByEnd events).filter test = sortByEnd (events.filter test) := by
  have perm : (events.filter test).Perm ((sortByEnd events).filter test) :=
    ((List.mergeSort_perm _ _).filter test).symm
  have single : (events.map (·.id)).Nodup :=
    List.pairwise_map.mpr (numbered.imp Nat.ne_of_lt)
  have trans : ∀ a b c, precedes a b = true → precedes b c = true → precedes a c = true := by
    grind [precedes]
  have total : ∀ a b, (precedes a b || precedes b a) = true := by
    grind [precedes]
  refine (mergeSort_eq_sorted perm trans total (fun a among b among' up down => ?_)
    ((List.pairwise_mergeSort trans total events).filter test)).symm
  refine List.inj_on_of_nodup_map single (List.mem_of_mem_filter (perm.mem_iff.mpr among))
    (List.mem_of_mem_filter (perm.mem_iff.mpr among')) ?_
  grind [precedes]

end Event

namespace World

variable {first second : World} {player : PlayerId} {now : Int}

/-- Whether two worlds agree on all that a player knows of ports and ways: on the player's
own row and membership, their scans and discoveries, and the warps between discovered
sectors. -/
structure SeenAlike (first second : World) (player : PlayerId) : Prop where
  row : second.players.get? player = first.players.get? player
  membership : second.membershipOf player = first.membershipOf player
  scans : ∀ sector, second.intel.get? (player, sector) = first.intel.get? (player, sector)
  discovered : ∀ sector, second.discoveries.contains (player, sector) =
    first.discoveries.contains (player, sector)
  warps : ∀ source target, first.discoveries.contains (player, source) = true →
    first.discoveries.contains (player, target) = true →
      second.warps.contains (source, target) = first.warps.contains (source, target)

/-- The events in sectors that a player has discovered, in the order of their numbers. -/
def eventsKnown (world : World) (player : PlayerId) : List Event :=
  world.events.values.filter fun event => world.discoveries.contains (player, event.sector)

/-- Whether two worlds agree on all that a player knows of events: on those in discovered
sectors, whatever their numbers are, and on what these sectors are called. -/
structure EventsAlike (first second : World) (player : PlayerId) : Prop where
  events : (second.eventsKnown player).map Event.unnumbered =
    (first.eventsKnown player).map Event.unnumbered
  names : ∀ sector, first.discoveries.contains (player, sector) = true →
    (second.sectors.get? sector).map (·.name) = (first.sectors.get? sector).map (·.name)

/-- Worlds with the very same events in discovered sectors, numbers included, agree. -/
theorem EventsAlike.of_same
    (discovered : ∀ sector, second.discoveries.contains (player, sector) =
      first.discoveries.contains (player, sector))
    (same : ∀ id event, first.discoveries.contains (player, event.sector) = true →
      (second.events.get? id = some event ↔ first.events.get? id = some event))
    (names : ∀ sector, first.discoveries.contains (player, sector) = true →
      (second.sectors.get? sector).map (·.name) = (first.sectors.get? sector).map (·.name)) :
    first.EventsAlike second player where
  events := by
    unfold eventsKnown Table.values
    rw [List.filter_map, List.filter_map]
    simp only [Function.comp_def, discovered]
    rw [Table.filter_entries_congr same]
  names := names

theorem SeenAlike.known (alike : first.SeenAlike second player) :
    second.lookup.discovered player = first.lookup.discovered player := by
  refine congrArg (List.map _) (Table.filter_keys_congr ?_)
  rintro ⟨owner, sector⟩ own
  cases eq_of_beq own
  exact alike.discovered sector

theorem SeenAlike.intel (alike : first.SeenAlike second player) :
    second.intelOf player = first.intelOf player := by
  have own_scans : (second.intel.entries.filter fun entry => entry.1.1 == player) =
      first.intel.entries.filter fun entry => entry.1.1 == player := by
    refine Table.filter_entries_congr ?_
    rintro ⟨owner, sector⟩ scan own
    cases eq_of_beq own
    rw [alike.scans sector]
  rw [intelOf, intelOf, own_scans]

theorem SeenAlike.ways (alike : first.SeenAlike second player) :
    second.warpsAmong (first.lookup.discovered player) =
      first.warpsAmong (first.lookup.discovered player) := by
  unfold warpsAmong
  refine Table.filter_keys_congr ?_
  rintro ⟨source, target⟩ within
  rw [Bool.and_eq_true, List.contains_iff_mem, List.contains_iff_mem] at within
  exact alike.warps source target (Table.mem_keys_iff.mp (mem_under.mp within.1))
    (Table.mem_keys_iff.mp (mem_under.mp within.2))

/-- The events of a world are kept in the order of their numbers. -/
theorem Filed.events_numbered (filed : first.Filed) :
    first.events.values.Pairwise fun event other => event.id < other.id := by
  refine List.pairwise_map.mpr (first.events.ascending.imp_of_mem ?_)
  rintro ⟨key, event⟩ ⟨key', other⟩ among among' before
  have own := filed.events key event ((Table.mem_entries_iff _ _ _).mp among)
  have own' := filed.events key' other ((Table.mem_entries_iff _ _ _).mp among')
  dsimp only at own own' ⊢
  rw [own, own']
  exact of_decide_eq_true before

/-- The events that a player is told of at a time. -/
def eventsTold (world : World) (player : PlayerId) (now : Int) : List Event :=
  (Event.sortByEnd ((world.eventsKnown player).filter fun event => event.isActive now)).take 20

/-- The plan for the events tells of those. -/
theorem events_told {commander : Commander} (filed : first.Filed) :
    Plan.events first.lookup now commander =
      .ok (Plan.briefing commander
        (Plan.eventsText first.lookup now (first.eventsTold commander.id now))) := by
  have contained : ∀ sector, (first.lookup.discovered commander.id).contains sector =
      first.discoveries.contains (commander.id, sector) := fun sector => by
    rw [Bool.eq_iff_iff, List.contains_iff_mem]
    exact mem_under.trans Table.mem_keys_iff
  have known : (Event.sortByEnd (first.activeEvents now)).filter
      (fun event => (first.lookup.discovered commander.id).contains event.sector) =
      Event.sortByEnd ((first.eventsKnown commander.id).filter fun event =>
        event.isActive now) := by
    unfold activeEvents eventsKnown
    rw [Event.filter_sortByEnd _ (filed.events_numbered.filter _), List.filter_filter,
      List.filter_filter]
    simp only [contained, Bool.and_comm]
  unfold eventsTold
  rw [← known]
  rfl

theorem EventsAlike.told (agree : first.EventsAlike second player) (filed : first.Filed)
    (filed' : second.Filed) (now : Int) :
    (second.eventsTold player now).map Event.unnumbered =
      (first.eventsTold player now).map Event.unnumbered := by
  have active : ∀ world : World, ((world.eventsKnown player).filter fun event =>
      event.isActive now).map Event.unnumbered =
        ((world.eventsKnown player).map Event.unnumbered).filter fun event =>
          event.isActive now := fun world => by
    rw [List.filter_map]
    rfl
  have numbered : ∀ {world : World}, world.Filed → ((world.eventsKnown player).filter fun event =>
      event.isActive now).Pairwise fun event other => event.id < other.id :=
    fun filed => (filed.events_numbered.filter _).filter _
  unfold eventsTold
  rw [List.map_take, List.map_take,
    Event.sortByEnd_unnumbered (numbered filed) (numbered filed')]
  rw [active, active, agree.events]

end World

namespace Plan

/-- What an event is listed with depends on the name of its sector only. -/
theorem eventLines_congr {look other : Lookup} {event : Event}
    (named : (other.sector event.sector).map (·.name) = (look.sector event.sector).map (·.name))
    (now : Int) : eventLines other now event = eventLines look now event := by
  cases here : look.sector event.sector with
  | none =>
    rw [here, Option.map_none, Option.map_eq_none_iff] at named
    simp only [eventLines, here, named]
  | some sector =>
    rw [here, Option.map_some] at named
    obtain ⟨twin, there, called⟩ := Option.map_eq_some_iff.mp named
    simp only [eventLines, here, there, called]

theorem eventLines_unnumbered (look : Lookup) (now : Int) (event : Event) :
    eventLines look now event.unnumbered = eventLines look now event := by
  cases event
  rfl

/-- A listing depends on the events and on the names of their sectors, but not on the
numbers. -/
theorem eventsText_congr {look other : Lookup} {events others : List Event}
    (same : others.map Event.unnumbered = events.map Event.unnumbered)
    (named : ∀ event ∈ events, (other.sector event.sector).map (·.name) =
      (look.sector event.sector).map (·.name)) (now : Int) :
    eventsText other now others = eventsText look now events := by
  have lines : ∀ events : List Event, events.flatMap (eventLines other now) =
      (events.map Event.unnumbered).flatMap (eventLines other now) := fun events => by
    simp only [List.flatMap_map, eventLines_unnumbered]
  have blank : others.isEmpty = events.isEmpty := by
    rw [← List.isEmpty_map (f := Event.unnumbered), same, List.isEmpty_map]
  unfold eventsText
  rw [blank, lines others, same, ← lines events,
    List.flatMap_congr fun event listed => eventLines_congr (named event listed) now]

end Plan

namespace World

variable {first second world : World} {player : PlayerId} {now : Int} {commander : Commander}
  {command : Command}

/-- What a commander is told of the market, of routes or of events. -/
def reportTo (world : World) (now : Int) (commander : Commander) : Command → Option String
  | .market filter => some (Market.report now (world.intelOf commander.id) filter)
  | .route filter => some (Route.report now commander.sector commander.cargoMax
      (.ofDiscovered (world.lookup.discovered commander.id)
        (world.warpsAmong (world.lookup.discovered commander.id)))
      (world.intelOf commander.id) filter)
  | .events => some (Plan.eventsText world.lookup now (world.eventsTold commander.id now))
  | _ => none

/-- A report is a briefing. -/
theorem plan_report (filed : world.Filed) {text : String}
    (reported : world.reportTo now commander command = some text) :
    command.plan world.lookup now commander = .ok (Plan.briefing commander text) := by
  unfold reportTo at reported
  split at reported
  · cases reported
    rfl
  · cases reported
    rfl
  · cases reported
    exact events_told filed
  · cases reported

/-- Worlds that a player knows as alike give the same report. -/
theorem SeenAlike.report (alike : first.SeenAlike second player) (filed : first.Filed)
    (filed' : second.Filed) (own : commander.id = player)
    (agree : command = .events → first.EventsAlike second player) :
    second.reportTo now commander command = first.reportTo now commander command := by
  subst own
  cases command with
  | market filter => simp only [reportTo, alike.intel]
  | route filter => simp only [reportTo, alike.intel, alike.known, alike.ways]
  | events =>
    have agree := agree rfl
    refine congrArg some (Plan.eventsText_congr (agree.told filed filed' now) ?_ now)
    intro event listed
    have among := (List.mergeSort_perm _ _).mem_iff.mp (List.mem_of_mem_take listed)
    exact agree.names _ (List.mem_filter.mp (List.mem_of_mem_filter among)).2
  | _ => rfl

end World

namespace Storage

variable {settings : Settings} {now : Int} {player : PlayerId} {request : Request}
  {world : World} {row : Player}

/-- A player in a sector that exists gets every report. -/
theorem execute_reported (filed : world.Filed) (rostered : world.Rostered)
    (found : world.players.get? player = some row)
    (here : world.sectors.contains row.sector = true)
    (reported : ∀ commander, ∃ text,
      world.reportTo now commander (.ofRequest request) = some text) :
    ∃ response after, execute settings now player request (ofWorld world) =
      (.ok response, after) := by
  obtain ⟨text, told⟩ := reported
    ((Command.ofRequest request).paidBy (world.present settings now player row))
  have plans := World.plan_report filed told
  obtain ⟨turns, stamp, paid⟩ :=
    (Command.ofRequest request).paidBy_frame world settings now player row
  cases planned : (Command.ofRequest request).outcome world.lookup now
      (world.present settings now player row) with
  | ok effects =>
    obtain ⟨_, _, briefing, plans', same⟩ := Command.outcome_planned planned
    cases plans.symm.trans plans'
    have stays : effects.commander.sector = row.sector := by
      rw [same, Effects.rewarded_player, Rank.award_frame, paid]
      rfl
    obtain ⟨response, answered, _⟩ := execute_performs filed rostered found planned (stays ▸ here)
    exact ⟨response, _, answered⟩
  | error halt =>
    cases halt with
    | refused written reason =>
      obtain ⟨response, answered, _⟩ := execute_refuses filed found planned here
      exact ⟨response, _, answered⟩
    | failed written failure =>
      have unstopped : ((Command.ofRequest request).plan world.lookup now
          ((Command.ofRequest request).paidBy (world.present settings now player row))).Stops
            fun halt => ∃ reason, halt = .refused [] reason := by
        rw [plans]
        exact Plan.stops_pure _
      obtain ⟨_, same⟩ := Command.outcome_stops (fun reason => ⟨reason, rfl⟩) unstopped _ planned
      cases same

/-- What two worlds report alike is told alike. -/
theorem told_alike {other : World} {response response' : Response} {after after' : Storage}
    (alike : world.SeenAlike other player) (filed : world.Filed) (filed' : other.Filed)
    (reported : ∀ commander, ∃ text,
      world.reportTo now commander (.ofRequest request) = some text)
    (agree : Command.ofRequest request = .events → world.EventsAlike other player)
    (executed : execute settings now player request (ofWorld world) = (.ok response, after))
    (executed' : execute settings now player request (ofWorld other) = (.ok response', after')) :
    response'.message = response.message := by
  obtain ⟨row, found, told⟩ := execute_told executed
  obtain ⟨row', found', told'⟩ := execute_told executed'
  cases (alike.row.symm.trans found').symm.trans found
  have present : other.present settings now player row = world.present settings now player row := by
    rw [World.present, alike.membership]
    rfl
  obtain ⟨turns, stamp, paid⟩ :=
    (Command.ofRequest request).paidBy_frame world settings now player row
  have own : ((Command.ofRequest request).paidBy
      (world.present settings now player row)).id = player := by
    rw [paid]
    exact filed.players player row found
  obtain ⟨text, report⟩ := reported
    ((Command.ofRequest request).paidBy (world.present settings now player row))
  have report' : other.reportTo now ((Command.ofRequest request).paidBy
      (world.present settings now player row)) (.ofRequest request) = some text :=
    (alike.report filed filed' own agree).trans report
  have same := Command.outcome_congr ((World.plan_report filed' report').trans
    (World.plan_report filed report).symm)
  rw [present, same, told] at told'
  exact (Option.some.inj told').symm

end Storage

/-- The fog of war. Two worlds that agree on a player's row, membership, scans, discoveries
and the warps between discovered sectors, report the market and routes to the player alike;
and the events, if they agree on those in discovered sectors and on what these are called.
In worlds with the sector where the player is, there is an answer. -/
theorem reports_are_alike {one other : Storage} {player : PlayerId}
    (reachable : one.world.Reachable) (reachable' : other.world.Reachable)
    (alike : one.world.SeenAlike other.world player) {request : Request}
    (asks : (∃ filter, Command.ofRequest request = .market filter) ∨
      (∃ filter, Command.ofRequest request = .route filter) ∨
      Command.ofRequest request = .events ∧ one.world.EventsAlike other.world player)
    (settings : Settings) (now : Int) :
    (∀ response response' after after',
      Storage.execute settings now player request one = (.ok response, after) →
      Storage.execute settings now player request other = (.ok response', after') →
        response'.message = response.message) ∧
    ∀ row, one.world.players.get? player = some row →
      one.world.sectors.contains row.sector = true →
      other.world.sectors.contains row.sector = true →
        ∃ response response' after after',
          Storage.execute settings now player request (.ofWorld one.world) =
            (.ok response, after) ∧
          Storage.execute settings now player request (.ofWorld other.world) =
            (.ok response', after') ∧
          response'.message = response.message := by
  have reported : ∀ (world : World) commander, ∃ text,
      world.reportTo now commander (.ofRequest request) = some text := by
    intro world commander
    rcases asks with ⟨filter, asked⟩ | ⟨filter, asked⟩ | ⟨asked, _⟩ <;>
      exact ⟨_, by rw [asked]; rfl⟩
  have agree : Command.ofRequest request = .events →
      one.world.EventsAlike other.world player := by
    intro events
    rcases asks with ⟨_, asked⟩ | ⟨_, asked⟩ | ⟨_, agree⟩
    · cases events.symm.trans asked
    · cases events.symm.trans asked
    · exact agree
  constructor
  · intro response response' after after' executed executed'
    rcases Storage.execute_unlimited executed with ⟨_, failed, _⟩ | unlimited
    · cases failed
    rcases Storage.execute_unlimited executed' with ⟨_, failed, _⟩ | unlimited'
    · cases failed
    exact Storage.told_alike alike reachable.filed reachable'.filed (reported _) agree unlimited
      unlimited'
  · intro row found here there
    obtain ⟨response, after, answered⟩ := Storage.execute_reported reachable.filed
      reachable.rostered found here (reported _)
    obtain ⟨response', after', answered'⟩ := Storage.execute_reported reachable'.filed
      reachable'.rostered (alike.row.trans found) there (reported _)
    exact ⟨response, response', after, after', answered, answered',
      Storage.told_alike alike reachable.filed reachable'.filed (reported _) agree answered
        answered'⟩

/-- A sale in the sector where the pilot of the drill is. -/
def Drill.sale : Event :=
  ⟨0, .limited, 2, none, 80, 0, "Sale", "Everything must go.", 0, 2000000⟩

/-- A raid in a sector that the pilot does not know. -/
def Drill.raid : Event :=
  ⟨0, .invasion, 5, none, 100, 3, "Raid", "", 0, 1500000⟩

/-- The drill with the sale. -/
def Drill.quiet : World :=
  docked.addEvent sale

/-- The drill with the sale, and before it the raid, a rival and a warp. -/
def Drill.busy : World :=
  (((docked.addEvent raid).join .standard startTime 8 "bea").2.addWarp (2, 8)).addEvent sale

theorem Drill.quiet_reachable : quiet.Reachable :=
  .seed docked_reachable (.event _)

theorem Drill.busy_reachable : busy.Reachable := by
  have bea : Step .standard (docked.addEvent raid) (.joined 8)
      ((docked.addEvent raid).join .standard startTime 8 "bea").2 :=
    .join (by decide)
  exact .seed (.seed (.step (.seed docked_reachable (.event _)) bea) (.warp _)) (.event _)

/-- The pilot knows the second sector only. -/
theorem Drill.quiet_known {sector : SectorId}
    (known : quiet.discoveries.contains (7, sector) = true) : sector = 2 := by
  rcases Table.contains_insert.mp known with own | other
  · exact (congrArg Prod.snd own).symm
  · cases other

theorem Drill.busy_seen : quiet.SeenAlike busy 7 where
  row := by decide +kernel
  membership := by decide +kernel
  scans _ := rfl
  discovered sector := by
    have rival : busy.discoveries = quiet.discoveries.insert (8, 1) () :=
      Table.ext (by decide +kernel)
    rw [rival, Table.contains, Table.get?_insert_of_ne _ _ (by simp), Table.contains]
  warps source target known known' := by
    cases quiet_known known
    cases quiet_known known'
    have added : busy.warps = quiet.warps.insert (2, 8) () := rfl
    rw [added, Table.contains, Table.get?_insert_of_ne _ _ (by simp), Table.contains]

theorem Drill.busy_eventful : quiet.EventsAlike busy 7 where
  events := by decide +kernel
  names _ _ := rfl

/-- What is going on elsewhere does not show. -/
theorem reports_are_alike_busy :
    (Drill.busy.activeEvents Drill.startTime).length = 2 ∧
    ∃ response response' after after',
      Storage.execute Settings.standard Drill.startTime 7 (Request.ofKind "EVENTS")
        (.ofWorld Drill.quiet) = (.ok response, after) ∧
      Storage.execute Settings.standard Drill.startTime 7 (Request.ofKind "EVENTS")
        (.ofWorld Drill.busy) = (.ok response', after') ∧
      response'.message = response.message := by
  have asks : Command.ofRequest (Request.ofKind "EVENTS") = .events := by decide
  obtain ⟨_, answered⟩ := reports_are_alike
    (show (Storage.ofWorld Drill.quiet).world.Reachable from Drill.quiet_reachable)
    (show (Storage.ofWorld Drill.busy).world.Reachable from Drill.busy_reachable)
    Drill.busy_seen (.inr (.inr ⟨asks, Drill.busy_eventful⟩)) Settings.standard Drill.startTime
  exact ⟨by decide +kernel, answered _ (show Drill.quiet.players.get? 7 = some _ from rfl)
    (by decide +kernel) (by decide +kernel)⟩

end Starlane
