import VisualNovel.Value.Display

/-!
# The clock

The moment that lies a number of seconds after the start of the year 1970.
-/

namespace VisualNovel.Moment

/-- The date of a day, counted from the first of March of the year zero. Years are counted in cycles
of four hundred, and start in March so that a leap day comes last. -/
def dateOf (day : Int) : Int × Nat × Nat :=
  let cycle := Int.fdiv day 146097
  let inCycle := (day - cycle * 146097).toNat
  let year := (inCycle - inCycle / 1460 + inCycle / 36524 - inCycle / 146096) / 365
  let inYear := inCycle - (365 * year + year / 4 - year / 100)
  let month := (5 * inYear + 2) / 153
  let dayOfMonth := inYear - (153 * month + 2) / 5 + 1
  if month < 10 then (year + cycle * 400, month + 3, dayOfMonth)
  else (year + cycle * 400 + 1, month - 9, dayOfMonth)

/-- The moment a number of millionths of a second after the start of a day; the day is counted as
for `dateOf`. Moments lie in the years 1 to 9999. -/
def ofMicros? (day micros : Int) : Option Moment :=
  let second := Int.fdiv micros 1000000
  let inDay := (Int.fmod second 86400).toNat
  let (year, month, day) := dateOf (day + Int.fdiv second 86400)
  if 1 ≤ year && year ≤ 9999 then
    some { year := year.toNat, month, day, hour := inDay / 3600, minute := inDay / 60 % 60,
           second := inDay % 60, micro := (Int.fmod micros 1000000).toNat }
  else none

/-- The first day of the year 1970. -/
def firstOf1970 : Int := 719468

/-- The first day of the year 2001. -/
def firstOf2001 : Int := 730791

end VisualNovel.Moment
