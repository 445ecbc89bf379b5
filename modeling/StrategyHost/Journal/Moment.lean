import StrategyHost.Text.Integer

/-!
# Moments

Dates and times of day in coordinated universal time, as log lines and the names
of log files show them.
-/

namespace StrategyHost.Journal

open StrategyHost.Text (padded)

/-- A date of the Gregorian calendar. -/
structure Date where
  year : Nat
  month : Nat
  day : Nat
  deriving DecidableEq, Repr

namespace Date

/-- The number of days in four hundred years. -/
def daysOfCycle : Nat := 146097

/-- The number of days from the first of March of the year zero to the first of
January 1970. -/
def daysBeforeEpoch : Nat := 719468

/-- The date so many days after the first of January 1970. Years are counted from
March here, so that a leap day is the last of its year. -/
def ofDays (days : Nat) : Date :=
  let count := days + daysBeforeEpoch
  let dayOfCycle := count % daysOfCycle
  let yearOfCycle :=
    (dayOfCycle - dayOfCycle / 1460 + dayOfCycle / 36524 - dayOfCycle / 146096) / 365
  let dayOfYear := dayOfCycle - (365 * yearOfCycle + yearOfCycle / 4 - yearOfCycle / 100)
  let monthFromMarch := (5 * dayOfYear + 2) / 153
  let month := if monthFromMarch < 10 then monthFromMarch + 3 else monthFromMarch - 9
  { year := 400 * (count / daysOfCycle) + yearOfCycle + (if month <= 2 then 1 else 0)
    month := month
    day := dayOfYear - (153 * monthFromMarch + 2) / 5 + 1 }

/-- A date as year, month and day. -/
def text (date : Date) : String :=
  padded 4 date.year ++ "-" ++ padded 2 date.month ++ "-" ++ padded 2 date.day

end Date

/-- A moment, in microseconds since the beginning of 1970. -/
structure Moment where
  microseconds : Nat
  deriving DecidableEq, Repr

namespace Moment

/-- The number of microseconds in a day. -/
def microsecondsOfDay : Nat := 86400 * 1000000

/-- The date of a moment. -/
def date (moment : Moment) : Date :=
  .ofDays (moment.microseconds / microsecondsOfDay)

/-- A moment as date and time of day. -/
def text (moment : Moment) : String :=
  let ofDay := moment.microseconds % microsecondsOfDay
  let seconds := ofDay / 1000000
  moment.date.text ++ "T" ++ padded 2 (seconds / 3600) ++ ":" ++ padded 2 (seconds / 60 % 60)
    ++ ":" ++ padded 2 (seconds % 60) ++ "." ++ padded 6 (ofDay % 1000000) ++ "Z"

end Moment

end StrategyHost.Journal
