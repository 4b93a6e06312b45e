import Starlane.Chance.Tape
import Starlane.Proofs.Answer
import Starlane.Proofs.Course
import Starlane.Proofs.Hosting
import Starlane.Proofs.Unique

/-!
# The life of events

A round of the event ticker sees only the events that last, but it also clears
away all others. So no more events are stored than may last at once, no two of
them in one sector, whatever the dice yield and however the clock runs. An event
that changes prices is where a port is; an invasion is in a sector that exists.
-/

namespace Starlane

open Chance

namespace Event

section Rolls

variable {γ : Type} [Dice γ]

/-- Where an event of a kind may be rolled. -/
def candidates (sectors portSectors : List SectorId) (kind : EventKind) : List SectorId :=
  if kind = .invasion then sectors else portSectors

/-- The roll of an event of a kind in a sector. -/
def rollOf (kind : EventKind) (sector : SectorId) (now : Int) (dice : γ) : Event × γ :=
  match kind with
  | .anomaly => rollAnomaly sector now dice
  | .limited => rollLimited sector now dice
  | .invasion => rollInvasion sector now dice

theorem rollOf_kind (kind : EventKind) (sector : SectorId) (now : Int) (dice : γ) :
    (rollOf kind sector now dice).1.kind = kind ∧
      (rollOf kind sector now dice).1.sector = sector := by
  cases kind <;> exact ⟨rfl, rfl⟩

/-- A roll chooses a kind, then a sector, then the event. -/
theorem roll_eq (sectors portSectors : List SectorId) (busy : SectorId → Bool) (now : Int)
    (dice : γ) :
    roll sectors portSectors busy now dice =
      let choices := candidates sectors portSectors (rollKind dice).1
      let choice := index choices.length (rollKind dice).2
      let sector := choices.getD choice.1 0
      let event := rollOf (rollKind dice).1 sector now choice.2
      if choices.isEmpty then (none, (rollKind dice).2)
      else if busy sector then (none, choice.2)
      else (some event.1, event.2) := rfl

/-- A rolled event is in one of the sectors for its kind, which is not busy. -/
theorem roll_found {sectors portSectors : List SectorId} {busy : SectorId → Bool} {now : Int}
    {dice rest : γ} {event : Event}
    (rolled : roll sectors portSectors busy now dice = (some event, rest)) :
    event.sector ∈ candidates sectors portSectors event.kind ∧ busy event.sector = false := by
  rw [roll_eq] at rolled
  dsimp only at rolled
  generalize (rollKind dice).1 = kind at rolled
  generalize (rollKind dice).2 = dice at rolled
  split at rolled
  · cases rolled
  · next filled =>
    have within : (index (candidates sectors portSectors kind).length dice).1 <
        (candidates sectors portSectors kind).length :=
      boundedFrom_lt 64 _ (List.length_pos_iff.mpr (by simpa using filled)) _ dice
    split at rolled
    · cases rolled
    · next free =>
      cases rolled
      obtain ⟨same, there⟩ := rollOf_kind kind ((candidates sectors portSectors kind).getD
        (index (candidates sectors portSectors kind).length dice).1 0) now
        (index (candidates sectors portSectors kind).length dice).2
      rw [same, there]
      refine ⟨?_, by simpa using free⟩
      rw [List.getD_eq_getElem?_getD, List.getElem?_eq_getElem within, Option.getD_some]
      exact List.getElem_mem within

/-- A round starts an event only while there is room, in a sector for its kind
in which no event lasts. -/
theorem round_spawned {events : List Event} {sectors portSectors : List SectorId} {now : Int}
    {dice : γ} {event : Event}
    (spawned : (round events sectors portSectors now dice).1.spawned = some event) :
    (events.filter fun event => event.isActive now).length < activeMax ∧
      event.sector ∈ candidates sectors portSectors event.kind ∧
      ∀ other ∈ events.filter fun event => event.isActive now, other.sector ≠ event.sector := by
  unfold round at spawned
  dsimp only at spawned
  split at spawned
  · next spawning =>
    have room : (events.filter fun event => event.isActive now).length < activeMax := by
      unfold rollSpawn at spawning
      split at spawning
      · cases spawning
      · omega
    obtain ⟨among, free⟩ := roll_found (Prod.ext spawned rfl)
    refine ⟨room, among, fun other lasts same => ?_⟩
    have missed := List.any_eq_false.mp free other lasts
    exact missed (beq_iff_eq.mpr same)
  · cases spawned

theorem round_expired (events : List Event) (sectors portSectors : List SectorId) (now : Int)
    (dice : γ) : (round events sectors portSectors now dice).1.expired =
      (events.filter fun event => !event.isActive now).map (·.id) := by
  unfold round
  dsimp only
  split <;> rfl

end Rolls

end Event

namespace Table

theorem contains_mapValues {κ α : Type} [Key κ] [DecidableEq κ] {table : Table κ α}
    {f : κ → α → α} {key : κ} : (table.mapValues f).contains key = table.contains key := by
  simp only [contains, get?_mapValues, Option.isSome_map]

end Table

namespace World

variable {start world after : World}

/-- Whether a world has the sectors of another, perhaps more, and its ports. -/
structure Retains (world after : World) : Prop where
  ports : ∀ sector, after.ports.contains sector = true ↔ world.ports.contains sector = true
  sectors : ∀ sector, world.sectors.contains sector = true →
    after.sectors.contains sector = true

theorem Retains.refl (world : World) : world.Retains world :=
  ⟨fun _ => Iff.rfl, fun _ present => present⟩

theorem Retains.trans (first : start.Retains world) (second : world.Retains after) :
    start.Retains after where
  ports sector := (second.ports sector).trans (first.ports sector)
  sectors sector present := second.sectors sector (first.sectors sector present)

/-- No request opens or closes a port or a sector. -/
theorem Retains.kept : Kept world.Retains := by
  intro mid change before admits
  cases change with
  | savePort port =>
    refine { before with ports := fun sector => Iff.trans ?_ (before.ports sector) }
    change (mid.ports.insert port.sector port).contains sector = true ↔ _
    rw [Table.contains_insert]
    exact or_iff_right_of_imp fun same => same ▸ admits
  | _ => exact { before with }

/-- Whatever happens next, no port comes or goes and no sector goes. -/
theorem Next.retains (next : world.Next after) : world.Retains after := by
  cases next with
  | @join settings now id username =>
    obtain ⟨_, _, _, same⟩ := world.join_frame settings now id username
    rw [same]
    exact { Retains.refl world with }
  | command executed => exact Storage.limited_keeps Retains.kept executed (.refl _)
  | portTick =>
    refine { Retains.refl world with ports := fun sector => ?_ }
    exact Bool.eq_iff_iff.mp Table.contains_mapValues
  | planetTick => exact { Retains.refl world with }
  | @protectorateTick γ _ dice =>
    refine { Retains.refl world with sectors := fun sector present => ?_ }
    exact (Table.contains_insertAll (Protectorate.muster dice world.sectors.values).1 (·.id)
      fun sector => sector).mpr (.inr present)
  | @eventTick γ _ now dice =>
    obtain ⟨_, _, _, same⟩ := world.eventTick_frame now dice
    rw [same]
    exact { Retains.refl world with }

theorem Leads.retains (leads : start.Leads world) : start.Retains world :=
  leads.keeps (.refl _) fun before next => before.trans next.retains

/-- What holds of the events of a world: they are filed under numbers that have
been given out, not too many, in different sectors, and where their kind may
be. -/
structure Eventful (world : World) : Prop where
  keyed : world.events.KeyedBy (·.id)
  upTo : world.events.UpTo world.lastId
  few : world.events.values.length ≤ Event.activeMax
  apart : world.events.values.Pairwise fun a b => a.sector ≠ b.sector
  placed : ∀ event ∈ world.events.values,
    event.sector ∈ Event.candidates world.sectors.keys world.ports.keys event.kind

/-- Without events there is nothing to hold. -/
theorem Eventful.quiet (quiet : world.events = .empty) : world.Eventful := by
  constructor <;> rw [quiet]
  · exact nofun
  · exact nofun
  · exact Nat.zero_le _
  · exact .nil
  · exact nofun

/-- The same events hold where there are at least the same places. -/
theorem Eventful.transfer (eventful : world.Eventful) (places : world.Retains after)
    (events : after.events = world.events) (counted : world.lastId ≤ after.lastId) :
    after.Eventful where
  keyed := events ▸ eventful.keyed
  upTo := events ▸ eventful.upTo.grow counted
  few := events ▸ eventful.few
  apart := events ▸ eventful.apart
  placed event listed := by
    have before := eventful.placed event (events ▸ listed)
    unfold Event.candidates at before ⊢
    split
    · next invasion =>
      rw [if_pos invasion, Table.mem_keys_iff] at before
      exact Table.mem_keys_iff.mpr (places.sectors _ before)
    · next pricing =>
      rw [if_neg pricing, Table.mem_keys_iff] at before
      exact Table.mem_keys_iff.mpr ((places.ports _).mpr before)

/-- Any events may go. -/
theorem Eventful.purged (eventful : world.Eventful) (ids : List EventId) :
    { world with events := ids.foldl Table.erase world.events }.Eventful := by
  have values := Table.values_eraseAll eventful.keyed ids
  constructor
  · exact eventful.keyed.eraseAll ids
  · exact eventful.upTo.eraseAll ids
  · rw [values]
    exact Nat.le_trans (List.length_filter_le _ _) eventful.few
  · rw [values]
    exact eventful.apart.filter _
  · rw [values]
    exact fun event listed => eventful.placed event (List.mem_of_mem_filter listed)

/-- An event may come while there is room, to a free place for its kind. -/
theorem Eventful.addEvent (eventful : world.Eventful) {event : Event}
    (room : world.events.values.length < Event.activeMax)
    (placed : event.sector ∈ Event.candidates world.sectors.keys world.ports.keys event.kind)
    (free : ∀ other ∈ world.events.values, other.sector ≠ event.sector) :
    (world.addEvent event).Eventful := by
  have values : (world.addEvent event).events.values =
      world.events.values ++ [{ event with id := world.lastId + 1 }] := by
    refine Table.values_insert_last (fun key other found => ?_) _
    exact Nat.lt_succ_of_le (eventful.upTo key other found)
  constructor
  · exact eventful.keyed.insert rfl
  · exact (eventful.upTo.grow (Nat.le_succ _)).insert _ (Nat.le_refl _)
  · rw [values, List.length_append]
    exact room
  · rw [values]
    refine List.pairwise_append.mpr ⟨eventful.apart, List.pairwise_singleton _ _, ?_⟩
    intro other listed new last
    rw [List.mem_singleton.mp last]
    exact free other listed
  · rw [values]
    intro other listed
    rcases List.mem_append.mp listed with before | last
    · exact eventful.placed other before
    · rw [List.mem_singleton.mp last]
      exact placed

/-- When those that have ended are gone, the events that last are left. -/
theorem Eventful.cleared (eventful : world.Eventful) (now : Int) :
    (((world.events.values.filter fun event => !event.isActive now).map (·.id)).foldl
      Table.erase world.events).values = world.activeEvents now := by
  rw [Table.values_eraseAll eventful.keyed]
  refine List.filter_congr fun event listed => ?_
  cases lasts : event.isActive now with
  | false =>
    have ended : event ∈ world.events.values.filter fun event => !event.isActive now :=
      List.mem_filter.mpr ⟨listed, by rw [lasts]; rfl⟩
    have gone := List.contains_iff_mem.mpr (List.mem_map_of_mem (f := (·.id)) ended)
    rw [gone]
    rfl
  | true =>
    have stays : event.id ∉
        (world.events.values.filter fun event => !event.isActive now).map (·.id) := by
      intro gone
      obtain ⟨other, ended, same⟩ := List.mem_map.mp gone
      obtain ⟨stored, finished⟩ := List.mem_filter.mp ended
      rw [eventful.keyed.same_value stored listed same, lasts] at finished
      cases finished
    rw [List.contains_eq_mem, decide_eq_false stays]
    rfl

/-- A round of the ticker keeps what holds of events, at any time: the round
counts the events that last, and these are all that it leaves. -/
theorem Eventful.eventTick {γ : Type} [Dice γ] (eventful : world.Eventful) (now : Int)
    (dice : γ) : (world.eventTick now dice).1.Eventful := by
  have cleared := eventful.cleared now
  have purged := eventful.purged
    ((world.events.values.filter fun event => !event.isActive now).map (·.id))
  unfold World.eventTick
  dsimp only
  rw [Event.round_expired]
  split
  · exact purged
  · next event spawned =>
    obtain ⟨room, placed, free⟩ := Event.round_spawned spawned
    refine purged.addEvent ?_ placed ?_
    · rw [cleared]
      exact room
    · rw [cleared]
      exact free

/-- No request starts or ends an event, and numbers are only counted up. -/
theorem kept_events (world : World) :
    Kept fun mid => mid.events = world.events ∧ world.lastId ≤ mid.lastId := by
  rintro mid change ⟨events, counted⟩ admits
  have grown : world.lastId ≤ mid.lastId + 1 := Nat.le_succ_of_le counted
  cases change with
  | insertPlanet | insertCorp | insertMinefield => exact ⟨events, grown⟩
  | _ => exact ⟨events, counted⟩

/-- Whatever happens next keeps what holds of events. -/
theorem Eventful.next (eventful : world.Eventful) (next : world.Next after) :
    after.Eventful := by
  have places := next.retains
  cases next with
  | @join settings now id username =>
    obtain ⟨_, _, _, same⟩ := world.join_frame settings now id username
    rw [same] at places ⊢
    exact eventful.transfer places rfl (Nat.le_refl _)
  | command executed =>
    obtain ⟨events, counted⟩ :=
      Storage.limited_keeps world.kept_events executed ⟨rfl, Nat.le_refl _⟩
    exact eventful.transfer places events counted
  | portTick | planetTick | protectorateTick =>
    exact eventful.transfer places rfl (Nat.le_refl _)
  | eventTick => exact eventful.eventTick _ _

/-- The event that counts in a sector is the only one stored there, while it
lasts. -/
theorem Eventful.eventAt_iff (eventful : world.Eventful) {sector : SectorId} {now : Int}
    {event : Event} : world.eventAt sector now = some event ↔
      event ∈ world.events.values ∧ event.sector = sector ∧ now < event.endsAt := by
  have mem : ∀ event, event ∈ ((world.activeEvents now).filter fun event =>
      event.sector == sector) ↔
        event ∈ world.events.values ∧ event.sector = sector ∧ now < event.endsAt := by
    intro event
    simp only [activeEvents, List.mem_filter, Event.isActive, decide_eq_true_eq, beq_iff_eq,
      and_assoc, and_comm (a := now < event.endsAt)]
  constructor
  · intro found
    exact (mem event).mp (List.minOn?_mem found)
  · intro stored
    have some_listed : (world.eventAt sector now).isSome = true :=
      List.isSome_minOn?_of_mem ((mem event).mpr stored)
    obtain ⟨other, found⟩ := Option.isSome_iff_exists.mp some_listed
    obtain ⟨among, there, _⟩ := (mem other).mp (List.minOn?_mem found)
    have same : other = event := List.inj_on_of_nodup_map (List.pairwise_map.mpr eventful.apart)
      among stored.1 (there.trans stored.2.1.symm)
    rw [found, same]

end World

/-- Events on a course from a world without any: at most five are stored, in
different sectors, whatever the dice yield and in whatever order the times of
the ticker come. An invasion is in a sector that exists, any other event in a
sector with a port, which exists if the ports of the start are in sectors that
exist. So what is told of a sector at a time is the one event stored there, if
it lasts, and nothing otherwise. -/
theorem events_stay_apart {start world : World} (quiet : start.events = .empty)
    (leads : start.Leads world) :
    world.events.values.length ≤ 5 ∧
    (world.events.values.Pairwise fun a b => a.sector ≠ b.sector) ∧
    (∀ event ∈ world.events.values,
      (event.kind = .invasion → world.sectors.contains event.sector = true) ∧
      (event.kind ≠ .invasion → world.ports.contains event.sector = true)) ∧
    ((∀ sector, start.ports.contains sector = true → start.sectors.contains sector = true) →
      ∀ event ∈ world.events.values, world.sectors.contains event.sector = true) ∧
    ∀ sector now, ∃ found, world.lookup.event sector now = .ok found ∧
      ∀ event, found = some event ↔
        event ∈ world.events.values ∧ event.sector = sector ∧ now < event.endsAt := by
  have eventful := leads.keeps (World.Eventful.quiet quiet) World.Eventful.next
  have places := leads.retains
  have based : ∀ event ∈ world.events.values,
      (event.kind = .invasion → world.sectors.contains event.sector = true) ∧
      (event.kind ≠ .invasion → world.ports.contains event.sector = true) := by
    intro event listed
    have placed := eventful.placed event listed
    unfold Event.candidates at placed
    constructor
    · intro invasion
      rw [if_pos invasion] at placed
      exact Table.mem_keys_iff.mp placed
    · intro pricing
      rw [if_neg pricing] at placed
      exact Table.mem_keys_iff.mp placed
  refine ⟨eventful.few, eventful.apart, based, fun grounded event listed => ?_,
    fun sector now => ⟨_, rfl, fun event => eventful.eventAt_iff⟩⟩
  by_cases invasion : event.kind = .invasion
  · exact (based event listed).1 invasion
  · have port := (based event listed).2 invasion
    exact places.sectors _ (grounded _ ((places.ports _).mp port))

/-- The drill after a round of the ticker with every word zero, which starts an
anomaly at the first port. -/
def Drill.stirred : World :=
  (docked.eventTick startTime (Tape.ofWords [])).1

/-- The anomaly of the drill is what is told of its sector. -/
theorem events_stay_apart_anomaly :
    ∃ event ∈ Drill.stirred.events.values, event.kind = .anomaly ∧
      Drill.stirred.lookup.event event.sector Drill.startTime = .ok (some event) := by
  have leads : Drill.docked.Leads Drill.stirred := .single .eventTick
  obtain ⟨_, _, _, _, told⟩ := events_stay_apart rfl leads
  have lasting : (Drill.stirred.events.values.any fun event =>
      event.kind = .anomaly && Drill.startTime < event.endsAt) = true := by decide +kernel
  obtain ⟨event, listed, holds⟩ := List.any_eq_true.mp lasting
  simp only [Bool.and_eq_true, decide_eq_true_eq] at holds
  obtain ⟨found, answered, only⟩ := told event.sector Drill.startTime
  have same := (only event).mpr ⟨listed, rfl, holds.2⟩
  exact ⟨event, listed, holds.1, same ▸ answered⟩

/-- At a port in no sector the first round of the ticker, with every word zero,
starts an anomaly, which is in no sector either. -/
theorem anomaly_off_the_chart :
    let stock := Drill.fullStock 100 20 5
    let start := World.empty.addPort ⟨4, stock, stock, stock⟩
    start.events = .empty ∧ ∃ world, start.Leads world ∧
      ∃ event ∈ world.events.values, world.sectors.contains event.sector = false := by
  intro stock start
  refine ⟨rfl, (start.eventTick Drill.startTime (Tape.ofWords [])).1, .single .eventTick, ?_⟩
  have spawned : ((start.eventTick Drill.startTime (Tape.ofWords [])).1.events.values.any
      fun event => !(start.eventTick Drill.startTime (Tape.ofWords [])).1.sectors.contains
        event.sector) = true := by decide +kernel
  obtain ⟨event, listed, off⟩ := List.any_eq_true.mp spawned
  exact ⟨event, listed, by simpa using off⟩

end Starlane
