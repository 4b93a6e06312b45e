import Starlane.Chance.Dice
import Starlane.Event

/-!
# Rolling events

How the event ticker finds finished events and rolls new ones.  Draws are made in a fixed order.
-/

namespace Starlane.Event

open Chance

/-- The ticker starts no event while this many are active. -/
def activeMax : Nat := 5

section Rolls

variable {γ : Type} [Dice γ]

/-- Whether to try a new event: never when enough are active, else with a chance of 35 percent.
The chance is met by the fractions of `2 ^ 53` up to the double nearest to 0.35. -/
def rollSpawn (active : Nat) (dice : γ) : Bool × γ :=
  if activeMax ≤ active then (false, dice)
  else
    let (drawn, dice) := fraction dice
    (decide (drawn ≤ 3152519739159347), dice)

/-- The kind of a new event: an anomaly in 60, an invasion in 25 and a limited market in 15 of 100
cases. -/
def rollKind (dice : γ) : EventKind × γ :=
  let (roll, dice) := below 100 dice
  (if roll < 60 then .anomaly else if roll < 85 then .invasion else .limited, dice)

/-- An anomaly in a sector: one commodity is cheap or dear for 20 to 60 minutes. -/
def rollAnomaly (sector : SectorId) (now : Int) (dice : γ) : Event × γ :=
  let (choice, dice) := index 3 dice
  let c := Commodity.all.getD choice .ore
  let (side, dice) := below 2 dice
  let (change, dice) := below (if side = 0 then 11 else 26) dice
  let (severity, dice) := below 2 dice
  let (minutes, dice) := below 41 dice
  let percent : Int := if side = 0 then 80 + change else 115 + change
  let title := if side = 0 then s!"{c.code} Glut" else s!"{c.code} Spike"
  let description :=
    if side = 0 then s!"A sudden surplus has depressed {c.noun} prices in this sector."
    else s!"Demand is surging; {c.noun} prices are elevated in this sector."
  ({ id := 0, kind := .anomaly, sector, scope := some c, pricePercent := percent,
     severity := 1 + severity, title, description,
     startedAt := now, endsAt := now + (20 + minutes) * 60 }, dice)

/-- A limited market in a sector: all prices shift for 10 to 30 minutes. -/
def rollLimited (sector : SectorId) (now : Int) (dice : γ) : Event × γ :=
  let (change, dice) := below 31 dice
  let (minutes, dice) := below 21 dice
  ({ id := 0, kind := .limited, sector, scope := none, pricePercent := 85 + change,
     severity := 1, title := "Transient Market",
     description := "A short-lived market distortion is affecting local prices.",
     startedAt := now, endsAt := now + (10 + minutes) * 60 }, dice)

/-- An invasion of a sector: raiders stay for 15 to 60 minutes. -/
def rollInvasion (sector : SectorId) (now : Int) (dice : γ) : Event × γ :=
  let (severity, dice) := below 3 dice
  let (minutes, dice) := below 46 dice
  ({ id := 0, kind := .invasion, sector, scope := none, pricePercent := 100,
     severity := 1 + severity, title := "Raider Invasion",
     description :=
       "Hostile raiders are harassing traffic in this sector. Entry may cost credits.",
     startedAt := now, endsAt := now + (15 + minutes) * 60 }, dice)

/-- A new event without a number: an invasion in any sector, the others in a sector with a port.
There is none without such a sector, or when the chosen one is busy. -/
def roll (sectors portSectors : List SectorId) (busy : SectorId → Bool) (now : Int) (dice : γ) :
    Option Event × γ :=
  let (kind, dice) := rollKind dice
  let candidates := if kind = .invasion then sectors else portSectors
  if candidates.isEmpty then (none, dice)
  else
    let (choice, dice) := index candidates.length dice
    let sector := candidates.getD choice 0
    if busy sector then (none, dice)
    else
      let (event, dice) :=
        match kind with
        | .anomaly => rollAnomaly sector now dice
        | .limited => rollLimited sector now dice
        | .invasion => rollInvasion sector now dice
      (some event, dice)

/-- What one round of the event ticker does. -/
structure Round where
  /-- The numbers of the events that are over. -/
  expired : List EventId
  /-- A new event, still without a number. -/
  spawned : Option Event
  deriving DecidableEq, Repr

/-- One round of the event ticker: finished events go, and perhaps a new one starts in a sector
without a lasting event. -/
def round (events : List Event) (sectors portSectors : List SectorId) (now : Int) (dice : γ) :
    Round × γ :=
  let live := events.filter fun event => event.isActive now
  let expired := (events.filter fun event => !event.isActive now).map (·.id)
  let (spawn, dice) := rollSpawn live.length dice
  if spawn then
    let busy := fun sector => live.any fun event => event.sector == sector
    let (spawned, dice) := roll sectors portSectors busy now dice
    (⟨expired, spawned⟩, dice)
  else (⟨expired, none⟩, dice)

end Rolls

end Starlane.Event
