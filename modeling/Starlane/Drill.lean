import Starlane.Drill.Layout
import Starlane.Drill.Scripts
import Starlane.Drill.Surroundings

/-!
# The whole drill

All parts in order, and the report on them.  Failed checks are always reported, passed ones and
notes only on request.
-/

namespace Starlane.Drill

/-- The parts of the drill. -/
def parts (layout : Universe) : List Part :=
  [universePart layout, tradeLoop layout, turnGrants layout, planetsAndCorps layout,
    tickers layout, rollback layout]

/-- The heading of a part, and its notes on request. -/
def Part.lines (part : Part) (verbose : Bool) : List String :=
  s!"--- {part.title} ---" :: if verbose then part.notes else []

/-- The line of a check; none for a passed one, unless on request. -/
def Check.lines (check : Check) (verbose : Bool) : List String :=
  let mark := if check.passed then "✓" else "✗"
  if check.passed && !verbose then [] else [s!"  {mark} {check.name}: {check.detail}"]

/-- The report on some parts. -/
def report (parts : List Part) (verbose : Bool) : String :=
  let checks := parts.flatMap (·.checks)
  let passed := checks.countP (·.passed)
  let head := ["=== Sovereign Conquest Harness ===", ""]
  let body := parts.flatMap fun part => part.lines verbose
  let results := checks.flatMap fun check => check.lines verbose
  let tally :=
    s!"=== RESULT: {passed}/{checks.length} passed, {checks.length - passed} failed ==="
  "\n".intercalate (head ++ body ++ [""] ++ results ++ ["", tally, ""])

/-- The exit code for some parts: zero if all their checks passed. -/
def exitCode (parts : List Part) : UInt32 :=
  if parts.all fun part => part.checks.all (·.passed) then 0 else 1

/-- Whether the arguments ask for the full report. -/
def isVerbose (arguments : List String) : Bool :=
  arguments.contains "--verbose"

/-- The report and the exit code for some arguments. -/
def run (arguments : List String) : String × UInt32 :=
  let parts := parts layout
  (report parts (isVerbose arguments), exitCode parts)

end Starlane.Drill
