/-!
# Points in time

A time is a count of seconds since the start of 1970 in UTC, and nanoseconds.  During a leap
second the nanoseconds run on past `10 ^ 9` within the last second of a minute.

* `Date` — a day of the Gregorian calendar, extended to all years.
* `Date.ofDays` — the day that lies some number of days after the first of January 1970.
* `Timestamp.write` — date and time with the fewest fraction digits, of 0, 3, 6 and 9, that lose
  nothing, and a mark for the zone.  **A leap second is second 60.**
-/

namespace ThreeBucket

/-- A day of the calendar. -/
structure Date where
  year : Int
  month : Nat
  day : Nat
  deriving Repr, DecidableEq

namespace Date

/-- The day `days` after 1970-01-01.  Years are counted from March, so that a leap day is the
last day of its year, and in eras of 400 years, which have 146097 days. -/
def ofDays (days : Int) : Date :=
  let shifted := days + 719468
  let era := shifted.fdiv 146097
  let dayOfEra := (shifted.fmod 146097).toNat
  let yearOfEra := (dayOfEra - dayOfEra / 1460 + dayOfEra / 36524 - dayOfEra / 146096) / 365
  let dayOfYear := dayOfEra - (365 * yearOfEra + yearOfEra / 4 - yearOfEra / 100)
  let monthFromMarch := (5 * dayOfYear + 2) / 153
  let month := if monthFromMarch < 10 then monthFromMarch + 3 else monthFromMarch - 9
  { year := yearOfEra + era * 400 + if month ≤ 2 then 1 else 0
    month
    day := dayOfYear - (153 * monthFromMarch + 2) / 5 + 1 }

end Date

namespace Timestamp

/-- The digits of `n`, with zeros in front up to the width. -/
def padded (width n : Nat) : String :=
  let digits := Nat.toDigits 10 n
  String.ofList (List.replicate (width - digits.length) '0' ++ digits)

/-- A year has four digits; outside the years 0 to 9999 it has a sign and at least four. -/
def writeYear (year : Int) : String :=
  if 0 ≤ year ∧ year ≤ 9999 then padded 4 year.toNat
  else (if year < 0 then "-" else "+") ++ padded 4 year.natAbs

/-- The fraction of a second, with its point. -/
def writeFraction (nanos : Nat) : String :=
  if nanos = 0 then ""
  else if nanos % 1000000 = 0 then "." ++ padded 3 (nanos / 1000000)
  else if nanos % 1000 = 0 then "." ++ padded 6 (nanos / 1000)
  else "." ++ padded 9 nanos

end Timestamp

/-- A point in time. -/
structure Timestamp where
  /-- Seconds since the start of 1970. -/
  seconds : Int
  /-- Nanoseconds since then, from `10 ^ 9` on within a leap second. -/
  nanos : Nat := 0
  deriving Repr, DecidableEq

namespace Timestamp

/-- The time as text, with the given mark for the zone UTC. -/
def write (t : Timestamp) (zone : String) : String :=
  let date := Date.ofDays (t.seconds.fdiv 86400)
  let second := (t.seconds.fmod 86400).toNat
  writeYear date.year ++ "-" ++ padded 2 date.month ++ "-" ++ padded 2 date.day ++ "T" ++
    padded 2 (second / 3600) ++ ":" ++ padded 2 (second / 60 % 60) ++ ":" ++
    padded 2 (second % 60 + t.nanos / 1000000000) ++ writeFraction (t.nanos % 1000000000) ++ zone

end Timestamp

end ThreeBucket
