import Greeter.Bytes

/-! # The clock

The texts of a moment, counted from the start of 1970: the date of a reply and
the time of a line of the log. Days are counted in eras of four hundred years
that start in March, so that the leap day is the last of its year.
-/

namespace Greeter

/-- A moment, in microseconds since the start of 1970. -/
structure Moment where
  microseconds : Nat
  deriving DecidableEq, Repr

namespace Moment

/-- A day of the calendar. -/
structure Day where
  year : Nat
  /-- From 1 to 12. -/
  month : Nat
  /-- From 1 to 31. -/
  day : Nat
  deriving DecidableEq, Repr

/-- The whole seconds of a moment. -/
def seconds (moment : Moment) : Nat := moment.microseconds / 1000000

/-- The day of the calendar, from the days since the start of 1970. -/
def Day.ofDays (days : Nat) : Day :=
  let shifted := days + 719468
  let era := shifted / 146097
  let dayOfEra := shifted % 146097
  let yearOfEra := (dayOfEra - dayOfEra / 1460 + dayOfEra / 36524 - dayOfEra / 146096) / 365
  let dayOfYear := dayOfEra - (365 * yearOfEra + yearOfEra / 4 - yearOfEra / 100)
  let fromMarch := (5 * dayOfYear + 2) / 153
  let month := if fromMarch < 10 then fromMarch + 3 else fromMarch - 9
  let year := yearOfEra + 400 * era + if month ≤ 2 then 1 else 0
  ⟨year, month, dayOfYear - (153 * fromMarch + 2) / 5 + 1⟩

/-- The day on which the moment lies. -/
def day (moment : Moment) : Day := .ofDays (moment.seconds / 86400)

/-- A number with zeros before it, so that it has the given width. -/
def padded (width number : Nat) : String :=
  let digits := toString number
  String.ofList (List.replicate (width - digits.length) '0') ++ digits

/-- Hours, minutes and seconds. -/
def timeOfDay (moment : Moment) : String :=
  let second := moment.seconds % 86400
  padded 2 (second / 3600) ++ ":" ++ padded 2 (second / 60 % 60) ++ ":" ++ padded 2 (second % 60)

/-- The short name of a day of the week. The count of days starts on a
Thursday. -/
def weekday (days : Nat) : String :=
  ["Thu", "Fri", "Sat", "Sun", "Mon", "Tue", "Wed"].getD (days % 7) ""

/-- The short name of a month. -/
def monthName (month : Nat) : String :=
  ["Jan", "Feb", "Mar", "Apr", "May", "Jun", "Jul", "Aug", "Sep", "Oct", "Nov", "Dec"].getD
    (month - 1) ""

/-- The date of a reply. -/
def replyDate (moment : Moment) : String :=
  let day := moment.day
  weekday (moment.seconds / 86400) ++ ", " ++ padded 2 day.day ++ " " ++ monthName day.month ++
    " " ++ padded 4 day.year ++ " " ++ moment.timeOfDay ++ " GMT"

/-- The time of a line of the log. -/
def lineTime (moment : Moment) : String :=
  let day := moment.day
  padded 4 day.year ++ "-" ++ padded 2 day.month ++ "-" ++ padded 2 day.day ++ "T" ++
    moment.timeOfDay ++ "." ++ padded 6 (moment.microseconds % 1000000) ++ "Z"

end Moment

end Greeter
