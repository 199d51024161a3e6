import SessionGateway.Text.Ascii

/-!
# HTTP dates

The fixed writing of a moment in a header, for moments from 1970 on.
-/

namespace SessionGateway.Http.Date

/-- Three-letter names of the days of the week; day zero of 1970 was a Thursday. -/
def weekdays : List String :=
  ["Thu", "Fri", "Sat", "Sun", "Mon", "Tue", "Wed"]

/-- Three-letter names of the months, March first. -/
def months : List String :=
  ["Mar", "Apr", "May", "Jun", "Jul", "Aug", "Sep", "Oct", "Nov", "Dec", "Jan", "Feb"]

/--
Year, month from March on, and day of a day since 1970.  Years are counted
from March, so that a leap day is the last one of its year.
-/
def calendar (days : Nat) : Nat × Nat × Nat :=
  let shifted := days + 719468
  let era := shifted / 146097
  let dayOfEra := shifted % 146097
  let yearOfEra :=
    (dayOfEra - dayOfEra / 1460 + dayOfEra / 36524 - dayOfEra / 146096) / 365
  let dayOfYear := dayOfEra - (365 * yearOfEra + yearOfEra / 4 - yearOfEra / 100)
  let month := (5 * dayOfYear + 2) / 153
  let year := 400 * era + yearOfEra + if month < 10 then 0 else 1
  (year, month, dayOfYear - (153 * month + 2) / 5 + 1)

/-- A moment, in seconds since 1970, as a header shows it. -/
def text (seconds : Nat) : String :=
  let days := seconds / 86400
  let (year, month, day) := calendar days
  let weekday := weekdays.getD (days % 7) ""
  let month := months.getD month ""
  let hour := Text.padded 2 (seconds / 3600 % 24)
  let minute := Text.padded 2 (seconds / 60 % 60)
  let second := Text.padded 2 (seconds % 60)
  s!"{weekday}, {Text.padded 2 day} {month} {year} {hour}:{minute}:{second} GMT"

end SessionGateway.Http.Date
