import Starlane.Commodity
import Starlane.Identity
import Starlane.Log
import Starlane.Time.Span

/-!
# Sector events

Price distortions and raider invasions, each in one sector for a limited time.  An anomaly or a
limited market changes prices; an invasion costs credits on entry and leaves prices alone.
-/

namespace Starlane

/-- The kind of an event. -/
inductive EventKind where
  | anomaly
  | limited
  | invasion
  deriving DecidableEq, Repr

namespace EventKind

/-- Every kind. -/
def all : List EventKind :=
  [anomaly, limited, invasion]

/-- The upper-case code. -/
def code : EventKind → String
  | anomaly => "ANOMALY"
  | limited => "LIMITED"
  | invasion => "INVASION"

/-- The kind of an upper-case code. -/
def ofCode? (code : String) : Option EventKind :=
  all.find? fun kind => kind.code == code

/-- Whether events of the kind change prices. -/
def affectsPrices : EventKind → Bool
  | anomaly | limited => true
  | invasion => false

@[simp] theorem ofCode?_code (kind : EventKind) : ofCode? kind.code = some kind := by
  cases kind <;> decide

end EventKind

/-- An event in a sector.  Without a scope it covers every commodity. -/
structure Event where
  id : EventId
  kind : EventKind
  sector : SectorId
  scope : Option Commodity
  pricePercent : Int
  severity : Nat
  title : String
  description : String
  startedAt : Int
  endsAt : Int
  deriving DecidableEq, Repr

/-- What an event does to a player who enters its sector. -/
structure EntryEffect where
  message : String
  kind : LogKind
  lost : Int
  deriving DecidableEq, Repr

/-- The lowest percentage that pricing applies. -/
def pricePercentMin : Int := 10

/-- The highest percentage that pricing applies. -/
def pricePercentMax : Int := 300

namespace Event

/-- Whether the event still lasts. -/
def isActive (event : Event) (now : Int) : Bool :=
  decide (now < event.endsAt)

/-- The scope in listings. -/
def scopeLabel (event : Event) : String :=
  match event.scope with
  | some c => c.code
  | none => "ALL"

/-- The percentage that the event puts on the base price of a commodity; 100 where it does not
apply or is out of range. -/
def percentFor (event : Event) (c : Commodity) : Int :=
  if event.kind.affectsPrices ∧ pricePercentMin ≤ event.pricePercent ∧
      event.pricePercent ≤ pricePercentMax ∧ (event.scope = none ∨ event.scope = some c) then
    event.pricePercent
  else 100

/-- What the raiders of an invasion take: 200 credits per point of severity. -/
def penalty (event : Event) : Int :=
  event.severity * 200

/-- The effect on a player with some credits.  Raiders never take more than the player has. -/
def entryEffect (event : Event) (credits now : Int) : EntryEffect :=
  match event.kind with
  | .invasion =>
    let lost := min event.penalty (max credits 0)
    ⟨s!"Invasion alert: {event.title}. Raiders seize {lost} credits.", .combat, lost⟩
  | .anomaly | .limited =>
    ⟨s!"Event active: {event.title} (ends in {Time.spanText (event.endsAt - now)}).", .system, 0⟩

/-- The effect in listings. -/
def summary (event : Event) : String :=
  match event.kind with
  | .invasion => s!"entry penalty ~{event.penalty} credits"
  | .anomaly | .limited => s!"prices {event.pricePercent}% ({event.scopeLabel})"

/-- Events in the order in which they end; of two that end together the one with the smaller
number. -/
def sortByEnd (events : List Event) : List Event :=
  events.mergeSort fun a b =>
    decide (a.endsAt < b.endsAt) || (a.endsAt == b.endsAt && decide (a.id ≤ b.id))

/-- The event that ends first, the earliest in the list among equals. -/
def soonest? (events : List Event) : Option Event :=
  events.minOn? (·.endsAt)

end Event

end Starlane
