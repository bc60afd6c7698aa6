/-
**Points in time.**

A point in time counts milliseconds from the start of 1970 in universal time. It is written to the
second, in the proleptic Gregorian calendar, with years before 0 and after 9999 carrying a sign. Points
too far away for the calendar's range are written as the start of 1970.

* `Date.ofDays`: the date of a day;
* `Timestamp.text`: the written form.
-/

import Workyard.Text.Numeral

namespace Workyard

/-- A day of the proleptic Gregorian calendar. -/
structure Date where
  year : Int
  month : Nat
  day : Nat
deriving DecidableEq, Repr

namespace Date

/-- The number of days in four hundred years. -/
def daysPerEra : Int := 146097

/-- The number of days from 1 March of the year 0 to the start of 1970. -/
def epochOffset : Int := 719468

/-- The date so many days after the start of 1970. Years are counted from March, so that the leap day
comes last, and in eras of four hundred years. -/
def ofDays (days : Int) : Date :=
  let shifted := days + epochOffset
  let era := shifted.fdiv daysPerEra
  let dayOfEra := (shifted.fmod daysPerEra).toNat
  let yearOfEra :=
    (dayOfEra - dayOfEra / 1460 + dayOfEra / 36524 - dayOfEra / 146096) / 365
  let dayOfYear := dayOfEra - (365 * yearOfEra + yearOfEra / 4 - yearOfEra / 100)
  let monthFromMarch := (5 * dayOfYear + 2) / 153
  let day := dayOfYear - (153 * monthFromMarch + 2) / 5 + 1
  let month := if monthFromMarch < 10 then monthFromMarch + 3 else monthFromMarch - 9
  let year := (yearOfEra : Int) + era * 400
  ⟨if month ≤ 2 then year + 1 else year, month, day⟩

/-- The year in at least four digits, with a sign outside 0 to 9999. -/
def yearText (year : Int) : String :=
  if year < 0 then "-" ++ Text.padded 4 year.natAbs
  else if 9999 < year then "+" ++ Text.padded 4 year.natAbs
  else Text.padded 4 year.natAbs

/-- The date, year first. -/
def text (date : Date) : String :=
  yearText date.year ++ "-" ++ Text.padded 2 date.month ++ "-" ++ Text.padded 2 date.day

end Date

/-- A point in time. -/
structure Timestamp where
  milliseconds : Int
deriving DecidableEq, Repr

namespace Timestamp

/-- The number of seconds in a day. -/
def secondsPerDay : Int := 86400

/-- The first second of the calendar's range, at the start of the year -262143. -/
def firstSecond : Int := -8334601228800

/-- The last second of the calendar's range, at the end of the year 262142. -/
def lastSecond : Int := 8210266876799

/-- The whole seconds, those outside the calendar's range being taken for the start of 1970. -/
def seconds (time : Timestamp) : Int :=
  let seconds := time.milliseconds.fdiv 1000
  if firstSecond ≤ seconds && seconds ≤ lastSecond then seconds else 0

/-- The written form. -/
def text (time : Timestamp) : String :=
  let days := time.seconds.fdiv secondsPerDay
  let second := (time.seconds.fmod secondsPerDay).toNat
  (Date.ofDays days).text ++ "T" ++ Text.padded 2 (second / 3600) ++ ":" ++
    Text.padded 2 (second / 60 % 60) ++ ":" ++ Text.padded 2 (second % 60) ++ "Z"

example : Date.ofDays 0 = ⟨1970, 1, 1⟩ := by decide

example : Date.ofDays (-719469) = ⟨0, 2, 29⟩ := by decide

end Timestamp

end Workyard
