import PageTemplates.Dates.Calendar
import PageTemplates.Decimal.Reader
import PageTemplates.Text.Blank

/-!
# Points in time

A moment is a day, a time of day and the offset of the place from universal time. Texts of three forms are read: a full
timestamp with an offset, a day with a time, and a day. A leap second is the second before it with a whole second of fraction.
-/

namespace PageTemplates

/-- A point in time as the clocks and calendars of a place show it. -/
structure Moment where
  date : Date
  hour : Nat := 0
  minute : Nat := 0
  second : Nat := 0
  nanosecond : Nat := 0
  offsetMinutes : Int := 0
  deriving DecidableEq, Inhabited

namespace Moment

/-- The moment of a number of seconds from the start of 1970, in universal time, if its year is in range. -/
def ofSeconds? (seconds : Int) : Option Moment :=
  let days := seconds / 86400
  let rest := (seconds % 86400).toNat
  let date := Date.ofDays days
  if Date.isYearInRange date.year then
    some { date, hour := rest / 3600, minute := rest / 60 % 60, second := rest % 60 }
  else none

/-- The number of seconds from the start of 1970 in universal time. -/
def toSeconds (m : Moment) : Int :=
  m.date.toDays * 86400 + m.hour * 3600 + m.minute * 60 + m.second - m.offsetMinutes * 60

/-- The moment with a time of day given as the texts give it, where second 60 is a leap second. -/
def at? (date : Date) (hour minute second nanosecond : Nat) (offsetMinutes : Int) : Option Moment :=
  if hour < 24 && minute < 60 && second ≤ 60 then
    let leap := second = 60
    some {
      date, hour, minute, offsetMinutes
      second := if leap then 59 else second
      nanosecond := if leap then nanosecond + 1000000000 else nanosecond }
  else none

/-- A number of exactly the given number of digits, and the rest. -/
def readDigits? (count : Nat) (cs : List Char) : Option (Nat × List Char) :=
  let ds := cs.take count
  if ds.length = count && ds.all Char.isDigit then some (Decimal.digitsValue ds, cs.drop count) else none

/-- The text after a given character. -/
def skip? (mark : Char) : List Char → Option (List Char)
  | [] => none
  | c :: cs => if c = mark then some cs else none

/-- The fraction of a second in nanoseconds: the first nine digits count and the others do not. -/
def readFraction? : List Char → Option (Nat × List Char)
  | '.' :: cs =>
    let ds := cs.takeWhile Char.isDigit
    let counted := ds.take 9
    if ds.isEmpty then none
    else some (Decimal.digitsValue counted * Nat.pow 10 (9 - counted.length), cs.dropWhile Char.isDigit)
  | cs => some (0, cs)

/-- An offset in minutes: `Z`, or a sign, hours and minutes. -/
def readOffset? : List Char → Option (Int × List Char)
  | [] => none
  | c :: cs =>
    if c = 'Z' ∨ c = 'z' then some (0, cs)
    else if c = '+' ∨ c = '-' ∨ c = '−' then do
      let (hours, cs) ← readDigits? 2 cs
      let cs ← skip? ':' cs
      let (minutes, cs) ← readDigits? 2 cs
      let size : Int := hours * 60 + minutes
      if minutes < 60 && hours < 24 then return (if c = '+' then size else -size, cs) else none
    else none

/-- A full timestamp: day, time, optional fraction and offset. -/
def readTimestamp? (cs : List Char) : Option Moment := do
  let (year, cs) ← readDigits? 4 cs
  let cs ← skip? '-' cs
  let (month, cs) ← readDigits? 2 cs
  let cs ← skip? '-' cs
  let (day, cs) ← readDigits? 2 cs
  let cs ← (skip? 'T' cs).orElse fun _ => (skip? 't' cs).orElse fun _ => skip? ' ' cs
  let (hour, cs) ← readDigits? 2 cs
  let cs ← skip? ':' cs
  let (minute, cs) ← readDigits? 2 cs
  let cs ← skip? ':' cs
  let (second, cs) ← readDigits? 2 cs
  let (nanosecond, cs) ← readFraction? cs
  let (offset, cs) ← readOffset? cs
  let date ← Date.of? year month day
  if cs.isEmpty then at? date hour minute second nanosecond offset else none

/-- A number of at most the given number of digits, with any blanks before it, and the rest. -/
def readNumber? (most : Nat) (cs : List Char) : Option (Nat × List Char) :=
  let cs := Text.trimStart cs
  let ds := (cs.take most).takeWhile Char.isDigit
  if ds.isEmpty then none else some (Decimal.digitsValue ds, cs.drop ds.length)

/-- A year, with any blanks before it: at most four digits, or a sign and any number of digits. -/
def readYear? (cs : List Char) : Option (Int × List Char) :=
  match Text.trimStart cs with
  | '-' :: cs => (signed? cs).map fun (n, cs) => (-n, cs)
  | '+' :: cs => signed? cs
  | cs => (readNumber? 4 cs).map fun (n, cs) => ((n : Int), cs)
where
  /-- Digits without any blanks before them. -/
  signed? (cs : List Char) : Option (Int × List Char) :=
    let ds := cs.takeWhile Char.isDigit
    if ds.isEmpty then none else some (Decimal.digitsValue ds, cs.drop ds.length)

/-- A day, and the rest of the text. -/
def readDate? (cs : List Char) : Option (Date × List Char) := do
  let (year, cs) ← readYear? cs
  let cs ← skip? '-' cs
  let (month, cs) ← readNumber? 2 cs
  let cs ← skip? '-' cs
  let (day, cs) ← readNumber? 2 cs
  return (← Date.of? year month day, cs)

/-- A day with a time, in universal time. -/
def readDateTime? (cs : List Char) : Option Moment := do
  let (date, cs) ← readDate? cs
  let cs ← skip? 'T' cs
  let (hour, cs) ← readNumber? 2 cs
  let cs ← skip? ':' cs
  let (minute, cs) ← readNumber? 2 cs
  let cs ← skip? ':' cs
  let (second, cs) ← readNumber? 2 cs
  if cs.isEmpty then at? date hour minute second 0 0 else none

/-- The start of a day, in universal time. -/
def readDay? (cs : List Char) : Option Moment := do
  let (date, cs) ← readDate? cs
  if cs.isEmpty then some { date } else none

/-- The moment that a text denotes. -/
def ofText? (s : String) : Option Moment :=
  let cs := Text.trim s.toList
  (readTimestamp? cs).orElse fun _ => (readDateTime? cs).orElse fun _ => readDay? cs

end Moment

end PageTemplates
