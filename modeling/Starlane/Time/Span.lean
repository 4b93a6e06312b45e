/-!
# Spans of time in words

Compact spans such as `45s`, `12m`, `3h20m` and `2d5h`, and the age of a record.
-/

namespace Starlane.Time

/-- A span of seconds in its one or two largest units.  A negative span counts as none, and a span
below a minute shows at least one second. -/
def spanText (seconds : Int) : String :=
  let total := seconds.toNat
  if total < 60 then s!"{max total 1}s"
  else if total < 3600 then s!"{total / 60}m"
  else if total < 86400 then
    let hours := total / 3600
    let minutes := total / 60 % 60
    if minutes = 0 then s!"{hours}h" else s!"{hours}h{minutes}m"
  else
    let days := total / 86400
    let hours := total / 3600 % 24
    if hours = 0 then s!"{days}d" else s!"{days}d{hours}h"

/-- The age at `now` of something stamped at a time; a dash if it was never stamped. -/
def ageText (now : Int) : Option Int → String
  | some stamp => spanText (now - stamp)
  | none => "-"

end Starlane.Time
