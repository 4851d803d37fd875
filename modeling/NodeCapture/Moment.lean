import NodeCapture.Text.Basic

/-!
# Moments and capture names

    A moment is a date of the Gregorian calendar, from year 1 to year 9999, with a time
    of day to the microsecond. The name that a capture gets by itself is the moment of
    its start, every part but the year with a fixed width.
-/

namespace NodeCapture

/-- A date and a time of day. -/
structure Moment where
  year : Int
  month : Int
  day : Int
  hour : Int := 0
  minute : Int := 0
  second : Int := 0
  microsecond : Int := 0
  deriving DecidableEq

/-- The first part of a moment that is out of its range. -/
inductive MomentFault where
  | year (n : Int)
  | month
  | day
  | hour
  | minute
  | second
  | microsecond
  deriving DecidableEq

/-- The wording of a fault. -/
def MomentFault.message : MomentFault → String
  | year n => "year " ++ integerText n ++ " is out of range"
  | month => "month must be in 1..12"
  | day => "day is out of range for month"
  | hour => "hour must be in 0..23"
  | minute => "minute must be in 0..59"
  | second => "second must be in 0..59"
  | microsecond => "microsecond must be in 0..999999"

/-- Whether a year has a leap day: every fourth has one, of the hundreds only every
    fourth. -/
def isLeapYear (year : Int) : Bool := year % 4 == 0 && (year % 100 != 0 || year % 400 == 0)

/-- The number of days of a month. -/
def daysInMonth (year month : Int) : Int :=
  if month = 2 then (if isLeapYear year then 29 else 28)
  else if month = 4 ∨ month = 6 ∨ month = 9 ∨ month = 11 then 30
  else 31

namespace Moment

/-- The first part that is out of its range, from the year down to the microsecond. -/
def fault? (m : Moment) : Option MomentFault :=
  if m.year < 1 ∨ 9999 < m.year then some (.year m.year)
  else if m.month < 1 ∨ 12 < m.month then some .month
  else if m.day < 1 ∨ daysInMonth m.year m.month < m.day then some .day
  else if m.hour < 0 ∨ 23 < m.hour then some .hour
  else if m.minute < 0 ∨ 59 < m.minute then some .minute
  else if m.second < 0 ∨ 59 < m.second then some .second
  else if m.microsecond < 0 ∨ 999999 < m.microsecond then some .microsecond
  else none

/-- A moment all of whose parts are in their ranges. -/
def IsValid (m : Moment) : Prop := m.fault? = none

/-- The moment some seconds after the start of the year 1970. The days are counted in
    cycles of 400 years that begin in March, so that the leap day is the last of its
    year. -/
def ofSeconds (seconds microsecond : Int) : Moment :=
  let days := seconds / 86400 + 719468
  let cycle := days / 146097
  let day := days % 146097
  let yearOfCycle := (day - day / 1460 + day / 36524 - day / 146096) / 365
  let dayOfYear := day - (365 * yearOfCycle + yearOfCycle / 4 - yearOfCycle / 100)
  let month := (5 * dayOfYear + 2) / 153
  let time := seconds % 86400
  { year := 400 * cycle + yearOfCycle + (if month < 10 then 0 else 1)
    month := if month < 10 then month + 3 else month - 9
    day := dayOfYear - (153 * month + 2) / 5 + 1
    hour := time / 3600
    minute := time / 60 % 60
    second := time % 60
    microsecond := microsecond }

/-- The last `width` decimal digits of a number. -/
def fixedDigits : Nat → Nat → List Char
  | 0, _ => []
  | width + 1, n => fixedDigits width (n / 10) ++ [digitChar (n % 10)]

/-- The characters of the name of a capture that starts at a moment. -/
def captureNameChars (m : Moment) : List Char :=
  decimalChars m.year.toNat ++ '-' :: fixedDigits 2 m.month.toNat
    ++ '-' :: fixedDigits 2 m.day.toNat
    ++ '_' :: fixedDigits 2 m.hour.toNat ++ '-' :: fixedDigits 2 m.minute.toNat
    ++ '-' :: fixedDigits 2 m.second.toNat ++ '.' :: fixedDigits 6 m.microsecond.toNat

/-- The name of a capture that starts at a moment. -/
def captureName (m : Moment) : String := String.ofList m.captureNameChars

end Moment

end NodeCapture
