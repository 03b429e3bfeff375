/-
# The clock

Time is a whole number of seconds, with zero at the start of the year 2024 in universal time.
This module writes instants as times of day and as dates.
-/
import SandboxPreview.Text.Basic

namespace SandboxPreview

/-- Seconds since the start of the year 2024. -/
abbrev Instant := Int

namespace Clock

/-- The number of seconds in a day. -/
def daySeconds : Int := 86400

/-- The time of day of an instant, in hours, minutes and seconds. -/
def timeOfDay (t : Instant) : Text :=
  let second := (Int.fmod t daySeconds).toNat
  Text.padded 10 2 (second / 3600) ++ ':' :: Text.padded 10 2 (second / 60 % 60) ++
    ':' :: Text.padded 10 2 (second % 60)

/-- The year, month and day of an instant, in the Gregorian calendar. Years are counted from
March, so that the leap day is the last of its year, in cycles of 400 years. -/
def civil (t : Instant) : Int × Nat × Nat :=
  let day := Int.fdiv t daySeconds + 19723 + 719468
  let cycle := Int.fdiv day 146097
  let dayOfCycle := (Int.fmod day 146097).toNat
  let yearOfCycle :=
    (dayOfCycle - dayOfCycle / 1460 + dayOfCycle / 36524 - dayOfCycle / 146096) / 365
  let dayOfYear := dayOfCycle - (365 * yearOfCycle + yearOfCycle / 4 - yearOfCycle / 100)
  let month := (5 * dayOfYear + 2) / 153
  let dayOfMonth := dayOfYear - (153 * month + 2) / 5 + 1
  let year := yearOfCycle + cycle * 400
  if month < 10 then (year, month + 3, dayOfMonth) else (year + 1, month - 9, dayOfMonth)

/-- The date and the time of an instant, without a zone. -/
def dateTime (t : Instant) : Text :=
  let (year, month, day) := civil t
  Text.padded 10 4 year.toNat ++ '-' :: Text.padded 10 2 month ++ '-' :: Text.padded 10 2 day ++
    'T' :: timeOfDay t

/-- The date and the time with the zone as an offset. -/
def withOffset (t : Instant) : Text := dateTime t ++ "+00:00".toList

/-- The date and the time with the zone as a letter. -/
def withLetter (t : Instant) : Text := dateTime t ++ ['Z']

end Clock

end SandboxPreview
