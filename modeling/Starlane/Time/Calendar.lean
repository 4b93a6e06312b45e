/-!
# Calendar dates

Times are seconds since the start of 1970 in UTC.  Their RFC 3339 text uses the Gregorian calendar
extended to all years from -262143 to 262142.
-/

namespace Starlane.Time

/-- A day of the Gregorian calendar; months and days count from one. -/
structure Date where
  year : Int
  month : Nat
  day : Nat
  deriving DecidableEq, Repr

/-- The date of a day counted from 1970-01-01.  Years run from March here, so that a leap day ends
a year, and the days are counted in eras of 400 years. -/
def Date.ofDays (days : Int) : Date :=
  let shifted := days + 719468
  let era := shifted / 146097
  let dayOfEra := (shifted % 146097).toNat
  let yearOfEra := (dayOfEra - dayOfEra / 1460 + dayOfEra / 36524 - dayOfEra / 146096) / 365
  let dayOfYear := dayOfEra - (365 * yearOfEra + yearOfEra / 4 - yearOfEra / 100)
  let marchMonth := (5 * dayOfYear + 2) / 153
  let day := dayOfYear - (153 * marchMonth + 2) / 5 + 1
  let month := if marchMonth < 10 then marchMonth + 3 else marchMonth - 9
  let year := (yearOfEra : Int) + era * 400
  ⟨if month ≤ 2 then year + 1 else year, month, day⟩

/-- Decimal digits of a number, filled with zeros on the left up to a width. -/
def padded (width n : Nat) : String :=
  let digits := Nat.toDigits 10 n
  String.ofList (List.replicate (width - digits.length) '0' ++ digits)

/-- The text of a year: four digits, with a sign outside 0 to 9999. -/
def yearText (year : Int) : String :=
  let digits := padded 4 year.natAbs
  if year < 0 then s!"-{digits}" else if year ≤ 9999 then digits else s!"+{digits}"

/-- The RFC 3339 text of a time in UTC, to the second; a dash outside the calendar's years. -/
def rfc3339 (seconds : Int) : String :=
  let date := Date.ofDays (seconds / 86400)
  let second := (seconds % 86400).toNat
  if date.year < -262143 ∨ 262142 < date.year then "-"
  else
    let year := yearText date.year
    let month := padded 2 date.month
    let day := padded 2 date.day
    let clock := s!"{padded 2 (second / 3600)}:{padded 2 (second / 60 % 60)}:{padded 2 (second % 60)}"
    s!"{year}-{month}-{day}T{clock}Z"

end Starlane.Time
