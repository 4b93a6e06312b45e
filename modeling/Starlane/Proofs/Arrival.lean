import Starlane.Proofs.Consumption
import Starlane.Proofs.Deed

/-!
# Arriving in closed form

What an arrival takes from the commander, which fields lose mines, and what the
player is told, each as one function of the state before.
-/

namespace Starlane

namespace Plan

/-- The credits that the raiders of an event take on entry. -/
def toll (event : Option Event) (credits : Int) : Int :=
  match event with
  | some event => if event.kind = .invasion then min event.penalty (max credits 0) else 0
  | none => 0

/-- What is told about an event on entry. -/
def entryLines (event : Option Event) (credits now : Int) : List (LogKind × String) :=
  event.toList.map fun event =>
    ((event.entryEffect credits now).kind, (event.entryEffect credits now).message)

/-- The mines that go off on entry, and the changes of their fields. -/
def strike (fields : List Minefield) (player : PlayerId) (corp : Option CorpId) :
    Nat × List Minefield.Change :=
  let hostile := Minefield.strikeOrder fields player corp
  Minefield.consume hostile (Minefield.triggered (Minefield.total hostile))

/-- What is told about mines that went off. -/
def strikeLines (detonated : Nat) (damage : Int) : List (LogKind × String) :=
  if detonated = 0 then []
  else [(.combat, s!"Mine strike! {detonated} mines detonated. Repairs cost {damage} credits.")]

theorem meetEvent_eq (event : Option Event) (now : Int) (commander : Commander) :
    meetEvent event now commander =
      ⟨{ commander with credits := commander.credits - toll event commander.credits }, [],
        entryLines event commander.credits now⟩ := by
  cases event with
  | none => simp [meetEvent, toll, entryLines]
  | some event =>
    simp only [meetEvent, toll, entryLines, Option.toList_some, List.map_cons, List.map_nil]
    have lost : (event.entryEffect commander.credits now).lost =
        if event.kind = .invasion then min event.penalty (max commander.credits 0) else 0 := by
      unfold Event.entryEffect
      cases event.kind <;> rfl
    rw [lost]

theorem strikeOrder_sum (fields : List Minefield) (player : PlayerId) (corp : Option CorpId) :
    ((Minefield.strikeOrder fields player corp).map (·.qty)).sum =
      ((Minefield.hostile fields player corp).map (·.qty)).sum :=
  Minefield.sum_perm (List.mergeSort_perm _ _)

/-- Up to five of the hostile mines go off. -/
theorem strike_taken (fields : List Minefield) (player : PlayerId) (corp : Option CorpId) :
    (strike fields player corp).1 =
      min ((Minefield.hostile fields player corp).map (·.qty)).sum Minefield.triggerCap := by
  unfold strike Minefield.triggered
  dsimp only
  rw [Minefield.consume_taken, Minefield.total_eq, strikeOrder_sum]
  unfold Minefield.triggerCap counterMax
  omega

theorem meetMines_eq (fields : List Minefield) (commander : Commander) :
    meetMines fields commander =
      ⟨{ commander with
          credits := commander.credits -
            Minefield.strikeDamage (strike fields commander.id commander.corp?).1
              commander.credits },
        (strike fields commander.id commander.corp?).2.map Minefield.Change.toWrite,
        strikeLines (strike fields commander.id commander.corp?).1
          (Minefield.strikeDamage (strike fields commander.id commander.corp?).1
            commander.credits)⟩ := by
  have taken := strike_taken fields commander.id commander.corp?
  unfold meetMines
  dsimp only
  split
  · next quiet =>
    have none : strike fields commander.id commander.corp? = (0, []) := by
      unfold strike
      dsimp only
      rw [quiet]
      cases Minefield.strikeOrder fields commander.id commander.corp? <;> simp [Minefield.consume]
    have unharmed : Minefield.strikeDamage 0 commander.credits = 0 := by
      unfold Minefield.strikeDamage
      omega
    simp [none, unharmed, strikeLines]
  · next alarm =>
    have some : (strike fields commander.id commander.corp?).1 ≠ 0 := by
      rw [Minefield.total_eq, strikeOrder_sum] at alarm
      rw [taken]
      unfold Minefield.triggered Minefield.triggerCap counterMax at *
      omega
    rw [strikeLines, if_neg some]
    rfl

/-- The mines that a commander sets off in a sector. -/
def detonated (look : Lookup) (commander : Commander) (there : SectorId) : Nat :=
  (strike (look.minefields there) commander.id commander.corp?).1

/-- What the mines of a sector cost a commander, after the raiders. -/
def repairs (look : Lookup) (commander : Commander) (there : SectorId) (event : Option Event) :
    Int :=
  Minefield.strikeDamage (detonated look commander there)
    (commander.credits - toll event commander.credits)

/-- The lines about an arrival. -/
def arrivalLines (there : SectorId) (event : Option Event) (credits now : Int) (detonated : Nat)
    (damage : Int) : List (LogKind × String) :=
  (.action, s!"Moved to sector {there}.") ::
    (entryLines event credits now ++ strikeLines detonated damage)

/-- The message about an arrival. -/
def arrivalText (there : SectorId) (event : Option Event) (credits now : Int) (detonated : Nat)
    (damage : Int) : String :=
  "\n".intercalate ((arrivalLines there event credits now detonated damage).map (·.2))

/-- An arrival in closed form. -/
theorem arrival_eq (look : Lookup) (now : Int) (commander : Commander) (there : SectorId)
    (event : Option Event) :
    arrival look now commander there event =
      { commander := { commander with
          sector := there
          credits := commander.credits - toll event commander.credits -
            repairs look commander there event }
        writes := .discover commander.id there ::
          (strike (look.minefields there) commander.id commander.corp?).2.map
            Minefield.Change.toWrite
        message := arrivalText there event commander.credits now
          (detonated look commander there) (repairs look commander there event)
        lines := arrivalLines there event commander.credits now
          (detonated look commander there) (repairs look commander there event) } := by
  unfold arrival
  rw [meetEvent_eq]
  dsimp only
  rw [meetMines_eq]
  rfl

end Plan

end Starlane
