/-!
# The calendar

Days of the Gregorian calendar, extended to all years, and their number counted from 1 January 1970. Weekdays, weeks of the year
and weeks by the rule that a week belongs to the year that holds its Thursday.
-/

namespace PageTemplates

/-- A day. -/
structure Date where
  year : Int
  month : Nat
  day : Nat
  deriving DecidableEq, Inhabited

namespace Date

/-- Whether a year has a 29 February. -/
def isLeapYear (year : Int) : Bool :=
  year % 4 == 0 && (year % 100 != 0 || year % 400 == 0)

/-- The number of days of a month. -/
def daysInMonth (year : Int) (month : Nat) : Nat :=
  if month = 2 then (if isLeapYear year then 29 else 28)
  else if month = 4 ∨ month = 6 ∨ month = 9 ∨ month = 11 then 30
  else 31

/-- The years that dates can have. -/
def isYearInRange (year : Int) : Bool :=
  -262143 ≤ year && year ≤ 262142

/-- The day with the given numbers, if the calendar has it. -/
def of? (year : Int) (month day : Nat) : Option Date :=
  if isYearInRange year && 1 ≤ month && month ≤ 12 && 1 ≤ day && day ≤ daysInMonth year month then
    some { year, month, day }
  else none

/-- The number of days of the year before the given month. -/
def daysBeforeMonth (year : Int) (month : Nat) : Nat :=
  (List.range (month - 1)).foldr (fun m days => daysInMonth year (m + 1) + days) 0

/-- The number of the day in its year, from 1 on. -/
def ordinal (d : Date) : Nat :=
  daysBeforeMonth d.year d.month + d.day

/-- The number of days from the start of year 1 to the start of a year. -/
def daysBeforeYear (year : Int) : Int :=
  let y := year - 1
  y * 365 + y / 4 - y / 100 + y / 400

/-- The number of days from 1 January 1970. -/
def toDays (d : Date) : Int :=
  daysBeforeYear d.year + d.ordinal - 1 - 719162

/-- The month and the day of a month for a number of days after the start of a given month. The first argument bounds the number
of months. -/
def monthAndDay (year : Int) : Nat → Nat → Nat → Nat × Nat
  | 0, month, rest => (month, rest + 1)
  | fuel + 1, month, rest =>
    if rest < daysInMonth year month then (month, rest + 1)
    else monthAndDay year fuel (month + 1) (rest - daysInMonth year month)

/-- The day with a number of days from 1 January 1970. The calendar repeats every 146097 days, which are 400 years; within them,
counting in years of 366 days gives the year or the one before it. -/
def ofDays (days : Int) : Date :=
  let n := days + 719162
  let guess := n / 146097 * 400 + n % 146097 / 366 + 1
  let year :=
    if n < daysBeforeYear (guess + 1) then guess
    else guess + 1
  let rest := (n - daysBeforeYear year).toNat
  let (month, day) := monthAndDay year 11 1 rest
  { year, month, day }

/-- The number of the weekday, from 0 for Sunday on. -/
def weekday (d : Date) : Nat :=
  ((d.toDays + 4) % 7).toNat

/-- The number of days since the last Monday. -/
def daysFromMonday (d : Date) : Nat :=
  (d.weekday + 6) % 7

/-- The number of the week in the year when weeks begin with Sunday; the days before the first Sunday are in week 0. -/
def weekFromSunday (d : Date) : Nat :=
  (d.ordinal + 6 - d.weekday) / 7

/-- The number of the week in the year when weeks begin with Monday; the days before the first Monday are in week 0. -/
def weekFromMonday (d : Date) : Nat :=
  (d.ordinal + 6 - d.daysFromMonday) / 7

/-- The year and the number of the week that a day belongs to: those of the Thursday of its week. -/
def isoWeek (d : Date) : Int × Nat :=
  let thursday := ofDays (d.toDays - d.daysFromMonday + 3)
  (thursday.year, (thursday.ordinal - 1) / 7 + 1)

/-- The quarter of the year, from 1 to 4. -/
def quarter (d : Date) : Nat :=
  (d.month - 1) / 3 + 1

end Date

end PageTemplates
