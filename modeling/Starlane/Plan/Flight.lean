import Starlane.Plan.Basic

/-!
# Scanning and moving

A scan records the port of the sector.  A move follows a warp, or for an administrator leads
anywhere, and on arrival meets the sector's event and then its hostile mines.
-/

namespace Starlane.Plan

/-- Plans a scan: the sector is discovered, and the intel on its port is renewed or dropped. -/
def scan (look : Lookup) (now : Int) (commander : Commander) : Plan Effects := do
  let here := commander.sector
  writing [.discover commander.id here] do
    let renewed ←
      match ← read (look.port here) with
      | none => pure (Write.deleteIntel commander.id here)
      | some port =>
        let sector ← read (look.sectorOrFail here)
        let event ← read (look.event here now)
        pure (Write.saveIntel commander.id (Intel.capture port sector.name event now))
    writing [renewed] do
      return .logged commander [] .action s!"Scan complete for sector {here}."

/-- The sector that a request names; none for a number that no sector has. -/
def destination? (target : Int) : Option SectorId :=
  if 1 ≤ target ∧ target ≤ counterMax then some target.toNat else none

/-- What an arrival adds to a move. -/
structure Arrival where
  commander : Commander
  writes : List Write
  lines : List (LogKind × String)
  deriving DecidableEq, Repr

/-- Meets the event of the sector. -/
def meetEvent (event : Option Event) (now : Int) (commander : Commander) : Arrival :=
  match event with
  | none => ⟨commander, [], []⟩
  | some event =>
    let effect := event.entryEffect commander.credits now
    ⟨{ commander with credits := commander.credits - effect.lost }, [],
      [(effect.kind, effect.message)]⟩

/-- Meets the mines of the sector: the oldest hostile fields go off first. -/
def meetMines (fields : List Minefield) (commander : Commander) : Arrival :=
  let hostile := Minefield.strikeOrder fields commander.id commander.corp?
  let triggered := Minefield.triggered (Minefield.total hostile)
  if triggered = 0 then ⟨commander, [], []⟩
  else
    let (detonated, changes) := Minefield.consume hostile triggered
    let damage := Minefield.strikeDamage detonated commander.credits
    ⟨{ commander with credits := commander.credits - damage },
      changes.map Minefield.Change.toWrite,
      [(.combat, s!"Mine strike! {detonated} mines detonated. Repairs cost {damage} credits.")]⟩

/-- Plans an arrival: the sector is discovered, and what is there is met. -/
def arrive (look : Lookup) (now : Int) (commander : Commander) (there : SectorId) :
    Plan Effects :=
  writing [.discover commander.id there] do
    let event ← read (look.event there now)
    let moved := { commander with sector := there }
    let met := meetEvent event now moved
    let struck := meetMines (look.minefields there) met.commander
    let lines := (LogKind.action, s!"Moved to sector {there}.") :: (met.lines ++ struck.lines)
    writing (met.writes ++ struck.writes) do
      return {
        commander := struck.commander
        writes := []
        message := "\n".intercalate (lines.map (·.2))
        lines }

/-- Plans a move. -/
def move (look : Lookup) (now : Int) (commander : Commander) (target : Int) : Plan Effects := do
  let there ← expect (destination? target) .invalidDestination
  if commander.isAdmin then
    require (look.sector there).isSome .invalidDestination
  else
    require (look.hasWarp commander.sector there) .noWarp
  arrive look now commander there

end Starlane.Plan
