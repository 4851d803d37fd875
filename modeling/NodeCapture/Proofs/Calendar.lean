import Mathlib.Data.List.Lex
import Mathlib.Order.Monotone.Basic
import NodeCapture.Moment

/-! # The order of moments

    A moment is a place on the time line: so many microseconds after the start
    of the calendar (`Moment.instant`), which counts the days of the years and
    months before it.  Moments follow one another as their parts do, read from
    the year on (`Moment.instant_lt_iff`).

    Each part counts units of one length within the unit of the part before it,
    and the units of a part fill one of these (`daysOfMonths_year`): no date is
    later than the first one of the next month or year. -/

namespace NodeCapture

/-- The number of days of a year. -/
def daysInYear (year : Int) : Int := if isLeapYear year then 366 else 365

/-- The number of days of the first months of a year. -/
def daysOfMonths (year : Int) : Nat → Int
  | 0 => 0
  | months + 1 => daysOfMonths year months + daysInMonth year (months + 1)

/-- The number of days of the first years of the calendar. -/
def daysOfYears : Nat → Int
  | 0 => 0
  | years + 1 => daysOfYears years + daysInYear (years + 1)

/-- No month is empty. -/
theorem daysInMonth_pos (year month : Int) : 0 < daysInMonth year month := by
  rw [daysInMonth]
  split_ifs <;> decide

/-- No month has more than 31 days. -/
theorem daysInMonth_le (year month : Int) : daysInMonth year month ≤ 31 := by
  rw [daysInMonth]
  split_ifs <;> decide

/-- No year is empty. -/
theorem daysInYear_pos (year : Int) : 0 < daysInYear year := by
  rw [daysInYear]
  split_ifs <;> decide

/-- More months have no fewer days. -/
theorem daysOfMonths_mono (year : Int) {k k' : Nat} (h : k ≤ k') :
    daysOfMonths year k ≤ daysOfMonths year k' :=
  monotone_nat_of_le_succ (fun _ => Int.le_add_of_nonneg_right (daysInMonth_pos year _).le) h

/-- More years have no fewer days. -/
theorem daysOfYears_mono {k k' : Nat} (h : k ≤ k') : daysOfYears k ≤ daysOfYears k' :=
  monotone_nat_of_le_succ (fun _ => Int.le_add_of_nonneg_right (daysInYear_pos _).le) h

/-- The months of a year fill it. -/
theorem daysOfMonths_year (year : Int) : daysOfMonths year 12 = daysInYear year := by
  cases hleap : isLeapYear year <;> simp [daysOfMonths, daysInMonth, daysInYear, hleap]

/-- What lies within one unit comes before what lies within a later one. -/
theorem lt_of_earlier_unit {start : Nat → Int} (hstart : ∀ {k k'}, k ≤ k' → start k ≤ start k')
    {k k' : Nat} {within within' : Int} (hwithin : start k + within < start (k + 1))
    (hwithin' : 0 ≤ within') (h : k < k') : start k + within < start k' + within' := by
  have hnext : start (k + 1) ≤ start k' := hstart h
  omega

namespace Moment

/-- The parts of a moment are in their ranges. -/
structure InRange (m : Moment) : Prop where
  year : 1 ≤ m.year ∧ m.year ≤ 9999
  month : 1 ≤ m.month ∧ m.month ≤ 12
  day : 1 ≤ m.day ∧ m.day ≤ daysInMonth m.year m.month
  hour : 0 ≤ m.hour ∧ m.hour ≤ 23
  minute : 0 ≤ m.minute ∧ m.minute ≤ 59
  second : 0 ≤ m.second ∧ m.second ≤ 59
  microsecond : 0 ≤ m.microsecond ∧ m.microsecond ≤ 999999

/-- The parts of a valid moment are in their ranges. -/
theorem IsValid.inRange {m : Moment} (h : m.IsValid) : m.InRange := by
  rw [IsValid, fault?] at h
  -- each part is looked at only where those before it are in their ranges
  split_ifs at h with hyear hmonth hday hhour hminute hsecond hmicrosecond
  constructor <;> omega

/-- The parts of a moment from the year on. -/
def parts (m : Moment) : List Int :=
  [m.year, m.month, m.day, m.hour, m.minute, m.second, m.microsecond]

/-- A moment is told by its parts. -/
theorem parts_injective {m m' : Moment} (h : m.parts = m'.parts) : m = m' := by
  cases m
  cases m'
  simpa [parts] using h

/-- The number of days before the one of a moment, within its year. -/
def dayOfYear (m : Moment) : Int := daysOfMonths m.year (m.month.toNat - 1) + (m.day - 1)

/-- The number of days before the one of a moment. -/
def dayNumber (m : Moment) : Int := daysOfYears (m.year.toNat - 1) + m.dayOfYear

/-- The number of microseconds before a moment. -/
def instant (m : Moment) : Int :=
  (((m.dayNumber * 24 + m.hour) * 60 + m.minute) * 60 + m.second) * 1000000 + m.microsecond

variable {m m' : Moment}

/-- A day lies within its month. -/
theorem InRange.day_lt (h : m.InRange) :
    m.dayOfYear < daysOfMonths m.year (m.month.toNat - 1 + 1) := by
  have hmonth : ((m.month.toNat - 1 : Nat) : Int) + 1 = m.month := by have := h.month; omega
  rw [dayOfYear, daysOfMonths, hmonth]
  have := h.day
  omega

/-- A day does not lie before its year. -/
theorem InRange.dayOfYear_nonneg (h : m.InRange) : 0 ≤ m.dayOfYear := by
  have hstart : daysOfMonths m.year 0 ≤ daysOfMonths m.year (m.month.toNat - 1) :=
    daysOfMonths_mono _ (Nat.zero_le _)
  have := h.day
  rw [daysOfMonths] at hstart
  rw [dayOfYear]
  omega

/-- A day lies within its year. -/
theorem InRange.dayNumber_lt (h : m.InRange) :
    m.dayNumber < daysOfYears (m.year.toNat - 1 + 1) := by
  have hyear : ((m.year.toNat - 1 : Nat) : Int) + 1 = m.year := by have := h.year; omega
  have hmonths : daysOfMonths m.year (m.month.toNat - 1 + 1) ≤ daysOfMonths m.year 12 := by
    have := h.month
    exact daysOfMonths_mono _ (by omega)
  rw [daysOfMonths_year] at hmonths
  rw [dayNumber, daysOfYears, hyear]
  exact Int.add_lt_add_left (h.day_lt.trans_le hmonths) _

/-- Dates follow one another as their years, months and days do. -/
theorem dayNumber_lt_of_parts (h : m.InRange) (h' : m'.InRange)
    (hparts : m.year < m'.year
      ∨ m.year = m'.year ∧ (m.month < m'.month ∨ m.month = m'.month ∧ m.day < m'.day)) :
    m.dayNumber < m'.dayNumber := by
  have hyear := h.year
  have hmonth := h.month
  rcases hparts with hless | ⟨hsame, hless | ⟨hsame', hless⟩⟩
  · exact lt_of_earlier_unit daysOfYears_mono h.dayNumber_lt h'.dayOfYear_nonneg (by omega)
  · rw [dayNumber, dayNumber, hsame]
    refine Int.add_lt_add_left ?_ _
    have hday := h.day_lt
    rw [dayOfYear, hsame] at hday
    rw [dayOfYear, dayOfYear, hsame]
    have := h'.day
    exact lt_of_earlier_unit (daysOfMonths_mono _) hday (by omega) (by omega)
  · rw [dayNumber, dayNumber, dayOfYear, dayOfYear, hsame, hsame']
    omega

/-- The same year, month and day are the same date. -/
theorem dayNumber_eq_of_parts (hyear : m.year = m'.year) (hmonth : m.month = m'.month)
    (hday : m.day = m'.day) : m.dayNumber = m'.dayNumber := by
  rw [dayNumber, dayNumber, dayOfYear, dayOfYear, hyear, hmonth, hday]

/-- The first part in which two moments differ decides how their parts compare.
    -/
theorem parts_lt_iff :
    m.parts < m'.parts ↔ m.year < m'.year ∨ m.year = m'.year ∧ (m.month < m'.month
      ∨ m.month = m'.month ∧ (m.day < m'.day ∨ m.day = m'.day ∧ (m.hour < m'.hour
      ∨ m.hour = m'.hour ∧ (m.minute < m'.minute ∨ m.minute = m'.minute ∧ (m.second < m'.second
      ∨ m.second = m'.second ∧ m.microsecond < m'.microsecond))))) := by
  simp [parts, List.cons_lt_cons_iff]

/-- Moments follow one another as their parts do. -/
theorem instant_lt_of_parts (h : m.InRange) (h' : m'.InRange) (hparts : m.parts < m'.parts) :
    m.instant < m'.instant := by
  have hhour := h.hour
  have hhour' := h'.hour
  have hminute := h.minute
  have hminute' := h'.minute
  have hsecond := h.second
  have hsecond' := h'.second
  have hmicrosecond := h.microsecond
  have hmicrosecond' := h'.microsecond
  rw [instant, instant]
  rcases parts_lt_iff.mp hparts with hyear | ⟨hyear, hmonth | ⟨hmonth, hday | ⟨hday, hrest⟩⟩⟩
  · have hdays := dayNumber_lt_of_parts h h' (.inl hyear)
    omega
  · have hdays := dayNumber_lt_of_parts h h' (.inr ⟨hyear, .inl hmonth⟩)
    omega
  · have hdays := dayNumber_lt_of_parts h h' (.inr ⟨hyear, .inr ⟨hmonth, hday⟩⟩)
    omega
  · have hdays := dayNumber_eq_of_parts hyear hmonth hday
    omega

/-- Moments follow one another as their parts do. -/
theorem instant_lt_iff (h : m.InRange) (h' : m'.InRange) :
    m.instant < m'.instant ↔ m.parts < m'.parts := by
  refine ⟨fun hless => ?_, instant_lt_of_parts h h'⟩
  rcases lt_trichotomy m.parts m'.parts with hparts | hparts | hparts
  · exact hparts
  · rw [parts_injective hparts] at hless
    exact absurd hless (lt_irrefl _)
  · exact absurd hless (instant_lt_of_parts h' h hparts).not_gt

/-- The year 1970 starts 719162 days after the calendar. -/
example : ({ year := 1970, month := 1, day := 1 } : Moment).instant = 719162 * 86400000000 := by
  decide +kernel

end Moment

end NodeCapture
