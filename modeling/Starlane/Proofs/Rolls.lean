import Starlane.Proofs.Lifecycle

/-!
# What is rolled for an event

Every number of a new event is drawn below a bound, whatever words the dice yield. So
its length, its percentage and its severity are within the limits of its kind, and the
percentage is always one that pricing applies.
-/

namespace Starlane

open Chance

namespace EventKind

/-- How many minutes an event of a kind may last. -/
def Lasts : EventKind → Nat → Prop
  | anomaly, minutes => 20 ≤ minutes ∧ minutes ≤ 60
  | limited, minutes => 10 ≤ minutes ∧ minutes ≤ 30
  | invasion, minutes => 15 ≤ minutes ∧ minutes ≤ 60

/-- Which commodities an event of a kind may concern, and at which percentage. -/
def Asks : EventKind → Option Commodity → Int → Prop
  | anomaly, scope, percent => scope.isSome = true ∧
      (80 ≤ percent ∧ percent ≤ 90 ∨ 115 ≤ percent ∧ percent ≤ 140)
  | limited, scope, percent => scope = none ∧ 85 ≤ percent ∧ percent ≤ 115
  | invasion, scope, percent => scope = none ∧ percent = 100

/-- How severe an event of a kind may be. -/
def Strikes : EventKind → Nat → Prop
  | anomaly, severity => 1 ≤ severity ∧ severity ≤ 2
  | limited, severity => severity = 1
  | invasion, severity => 1 ≤ severity ∧ severity ≤ 3

end EventKind

namespace Event

/-- Whether an event that starts at a time is within the limits of its kind. -/
structure WellFormed (event : Event) (now : Int) : Prop where
  started : event.startedAt = now
  lasts : ∃ minutes : Nat, event.endsAt = now + minutes * 60 ∧ event.kind.Lasts minutes
  asks : event.kind.Asks event.scope event.pricePercent
  strikes : event.kind.Strikes event.severity

variable {event : Event} {now : Int}

/-- The percentage of a well-formed event is one that pricing applies. -/
theorem WellFormed.applicable (formed : event.WellFormed now) :
    pricePercentMin ≤ event.pricePercent ∧ event.pricePercent ≤ pricePercentMax := by
  have asks := formed.asks
  unfold pricePercentMin pricePercentMax
  cases kind : event.kind with
  | anomaly =>
    rw [kind] at asks
    obtain ⟨_, range⟩ := asks
    omega
  | limited =>
    rw [kind] at asks
    obtain ⟨_, low, high⟩ := asks
    omega
  | invasion =>
    rw [kind] at asks
    obtain ⟨_, same⟩ := asks
    omega

/-- So every commodity that the event concerns is priced at its percentage, and all
others as if there were none. -/
theorem WellFormed.percentFor (formed : event.WellFormed now) (c : Commodity) :
    event.percentFor c =
      if event.scope = none ∨ event.scope = some c then event.pricePercent else 100 := by
  obtain ⟨low, high⟩ := formed.applicable
  unfold Event.percentFor
  by_cases affects : event.kind.affectsPrices = true
  · simp [affects, low, high]
  · have asks := formed.asks
    cases kind : event.kind with
    | anomaly => simp [kind, EventKind.affectsPrices] at affects
    | limited => simp [kind, EventKind.affectsPrices] at affects
    | invasion =>
      rw [kind] at asks
      simp [EventKind.affectsPrices, asks.2]

section Rolls

variable {γ : Type} [Dice γ]

theorem below_lt {n : Nat} (positive : 0 < n) (dice : γ) : (below n dice).1 < n :=
  boundedFrom_lt 32 _ positive _ dice

/-- An anomaly draws a commodity, a side, the change of the price on that side, the
severity and the minutes. -/
theorem rollAnomaly_wellFormed (sector : SectorId) (now : Int) (dice : γ) :
    (rollAnomaly sector now dice).1.WellFormed now := by
  unfold rollAnomaly
  dsimp only
  generalize below 2 (index 3 dice).2 = side
  have width : 0 < if side.1 = 0 then 11 else 26 := by split <;> decide
  have change := below_lt width side.2
  generalize below (if side.1 = 0 then 11 else 26) side.2 = drawn at change ⊢
  have severity := below_lt (by decide : 0 < 2) drawn.2
  have minutes := below_lt (by decide : 0 < 41) (below 2 drawn.2).2
  constructor
  case started => rfl
  case lasts =>
    refine ⟨20 + (below 41 (below 2 drawn.2).2).1, ?_, ?_⟩
    · simp
    · simp only [EventKind.Lasts]
      omega
  case asks =>
    refine ⟨rfl, ?_⟩
    by_cases cheap : side.1 = 0
    · simp only [cheap, if_true] at change ⊢
      omega
    · simp only [cheap, if_false] at change ⊢
      omega
  case strikes =>
    simp only [EventKind.Strikes]
    omega

/-- A limited market draws the change of the prices and the minutes. -/
theorem rollLimited_wellFormed (sector : SectorId) (now : Int) (dice : γ) :
    (rollLimited sector now dice).1.WellFormed now := by
  unfold rollLimited
  dsimp only
  have change := below_lt (by decide : 0 < 31) dice
  have minutes := below_lt (by decide : 0 < 21) (below 31 dice).2
  constructor
  case started => rfl
  case lasts =>
    refine ⟨10 + (below 21 (below 31 dice).2).1, ?_, ?_⟩
    · simp
    · simp only [EventKind.Lasts]
      omega
  case asks =>
    refine ⟨rfl, ?_⟩
    dsimp only
    omega
  case strikes => rfl

/-- An invasion draws the severity and the minutes. -/
theorem rollInvasion_wellFormed (sector : SectorId) (now : Int) (dice : γ) :
    (rollInvasion sector now dice).1.WellFormed now := by
  unfold rollInvasion
  dsimp only
  have severity := below_lt (by decide : 0 < 3) dice
  have minutes := below_lt (by decide : 0 < 46) (below 3 dice).2
  constructor
  case started => rfl
  case lasts =>
    refine ⟨15 + (below 46 (below 3 dice).2).1, ?_, ?_⟩
    · simp
    · simp only [EventKind.Lasts]
      omega
  case asks => exact ⟨rfl, rfl⟩
  case strikes =>
    simp only [EventKind.Strikes]
    omega

theorem rollOf_wellFormed (kind : EventKind) (sector : SectorId) (now : Int) (dice : γ) :
    (rollOf kind sector now dice).1.WellFormed now := by
  cases kind with
  | anomaly => exact rollAnomaly_wellFormed sector now dice
  | limited => exact rollLimited_wellFormed sector now dice
  | invasion => exact rollInvasion_wellFormed sector now dice

/-- A roll that gives an event rolls it for some kind and sector. -/
theorem roll_wellFormed {sectors portSectors : List SectorId} {busy : SectorId → Bool}
    {dice rest : γ} (rolled : roll sectors portSectors busy now dice = (some event, rest)) :
    event.WellFormed now := by
  rw [roll_eq] at rolled
  dsimp only at rolled
  split at rolled
  · cases rolled
  · split at rolled
    · cases rolled
    · cases rolled
      apply rollOf_wellFormed

end Rolls

end Event

/-- Whatever words the dice yield: an event that is rolled is in one of the sectors for
its kind, which is not busy, starts at once and is within the limits of its kind. So
the percentage of a rolled event is never out of the range that pricing applies: it is
what each commodity is priced at that the event concerns, and no other one is. -/
theorem rolled_events_are_wellFormed {γ : Type} [Dice γ] {sectors portSectors : List SectorId}
    {busy : SectorId → Bool} {now : Int} {dice rest : γ} {event : Event}
    (rolled : Event.roll sectors portSectors busy now dice = (some event, rest)) :
    event.sector ∈ Event.candidates sectors portSectors event.kind ∧
      busy event.sector = false ∧
      event.WellFormed now ∧
      (pricePercentMin ≤ event.pricePercent ∧ event.pricePercent ≤ pricePercentMax) ∧
      ∀ c, event.percentFor c =
        if event.scope = none ∨ event.scope = some c then event.pricePercent else 100 := by
  obtain ⟨among, free⟩ := Event.roll_found rolled
  have formed := Event.roll_wellFormed rolled
  exact ⟨among, free, formed, formed.applicable, formed.percentFor⟩

/-- Organics get dearer in sector 4, since sector 2 is busy; one word is rejected on the
way. -/
theorem rolled_events_are_wellFormed_spike :
    ∃ event rest, Event.roll [1, 2, 3, 4] [2, 4] (fun sector => sector == 2) 1000
        (Tape.ofWords [0, 0x8000000000000000, 0x8000000000000000, 0x80000000, 0xFFFFFFFF,
          0xF0000000, 0x80000000, 3000000000]) = (some event, rest) ∧
      event.sector ∈ [2, 4] ∧ event.WellFormed 1000 ∧ event.percentFor .organics = 139 ∧
      event.percentFor .ore = 100 := by
  have rolled : Event.roll [1, 2, 3, 4] [2, 4] (fun sector => sector == 2) 1000
      (Tape.ofWords [0, 0x8000000000000000, 0x8000000000000000, 0x80000000, 0xFFFFFFFF,
        0xF0000000, 0x80000000, 3000000000]) =
      (some ⟨0, .anomaly, 4, some .organics, 139, 2, "ORGANICS Spike",
        "Demand is surging; organics prices are elevated in this sector.", 1000, 3880⟩,
        ⟨[], 8⟩) := by
    decide +kernel
  obtain ⟨among, _, formed, _, priced⟩ := rolled_events_are_wellFormed rolled
  exact ⟨_, _, rolled, among, formed, priced .organics, priced .ore⟩

end Starlane
