import PageTemplates.Dates.Moment
import PageTemplates.Decimal.Layout

/-!
# Date patterns

A pattern is text with directives, each a percent sign and a letter, that stand for parts of a moment. A directive for a single
number can have a padding mark before its letter: `-` for none, `0` for zeros, `_` for spaces.
-/

namespace PageTemplates

/-- How a number is filled up to its usual length. -/
inductive Padding where
  | none
  | zeros
  | spaces
  deriving DecidableEq, Inhabited

/-- A part of a moment that is a number. -/
inductive NumericPart where
  | year
  | century
  | yearOfCentury
  | isoYear
  | isoYearOfCentury
  | quarter
  | month
  | day
  | weekFromSunday
  | weekFromMonday
  | isoWeek
  | weekdayFromSunday
  | weekdayFromMonday
  | ordinal
  | hour
  | hour12
  | minute
  | second
  | nanosecond
  | seconds
  deriving DecidableEq, Inhabited

/-- A part of a moment that is not a plain number. -/
inductive NamedPart where
  | shortMonth
  | longMonth
  | shortWeekday
  | longWeekday
  | lowerHalf
  | upperHalf
  | fraction
  | fractionDigits (count : Nat) (point : Bool)
  | zoneName
  | offset
  | offsetColon
  | offsetSeconds
  | offsetHours
  | timestamp
  deriving DecidableEq, Inhabited

/-- A piece of a pattern. -/
inductive PatternItem where
  | literal (text : List Char)
  | number (part : NumericPart) (padding : Padding)
  | named (part : NamedPart)
  deriving DecidableEq, Inhabited

namespace Pattern

/-- Names of the months. -/
def monthNames : List String :=
  ["January", "February", "March", "April", "May", "June", "July", "August", "September", "October", "November", "December"]

/-- Names of the weekdays, from Sunday on. -/
def weekdayNames : List String :=
  ["Sunday", "Monday", "Tuesday", "Wednesday", "Thursday", "Friday", "Saturday"]

/-- A text filled up to a length on the left. -/
def fillLeft (c : Char) (length : Nat) (cs : List Char) : List Char :=
  List.replicate (length - cs.length) c ++ cs

/-- An integer in at least `width` characters. Zeros stand between the sign and the digits. -/
def integerText (width : Nat) (plus : Bool) (padding : Padding) (n : Int) : List Char :=
  let sign := if n < 0 then ['-'] else if plus then ['+'] else []
  let width := if plus then width + 1 else width
  let ds := Decimal.digitsOf n.natAbs
  match padding with
  | .none => sign ++ ds
  | .zeros => sign ++ fillLeft '0' (width - sign.length) ds
  | .spaces => fillLeft ' ' width (sign ++ ds)

/-- A year in at least four digits, with its sign unless it has at most four digits. -/
def yearText (padding : Padding) (year : Int) : List Char :=
  integerText 4 (year < 0 || year > 9999) padding year

/-- A number below 256 in two characters: the number of tens, counted on from the digit zero, and a digit. -/
def twoCharText (padding : Padding) (n : Nat) : List Char :=
  let n := n % 256
  let tens := if n / 10 = 0 then
      match padding with
      | .none => []
      | .spaces => [' ']
      | .zeros => ['0']
    else [Char.ofNat ('0'.toNat + n / 10)]
  tens ++ [Char.ofNat ('0'.toNat + n % 10)]

/-- The text of a number in a fixed number of digits. -/
def digitsText (count n : Nat) : List Char :=
  fillLeft '0' count (Decimal.digitsOf n)

/-- The hour on a clock face. -/
def clockHour (hour : Nat) : Nat :=
  if hour % 12 = 0 then 12 else hour % 12

/-- The text of a numeric part. -/
def numericText (m : Moment) (padding : Padding) : NumericPart → List Char
  | .year => yearText padding m.date.year
  | .century => twoCharText padding (m.date.year / 100 % 256).toNat
  | .yearOfCentury => twoCharText padding (m.date.year % 100).toNat
  | .isoYear => yearText padding m.date.isoWeek.1
  | .isoYearOfCentury => twoCharText padding (m.date.isoWeek.1 % 100).toNat
  | .quarter => Decimal.digitsOf m.date.quarter
  | .month => twoCharText padding m.date.month
  | .day => twoCharText padding m.date.day
  | .weekFromSunday => twoCharText padding m.date.weekFromSunday
  | .weekFromMonday => twoCharText padding m.date.weekFromMonday
  | .isoWeek => twoCharText padding m.date.isoWeek.2
  | .weekdayFromSunday => Decimal.digitsOf m.date.weekday
  | .weekdayFromMonday => Decimal.digitsOf (m.date.daysFromMonday + 1)
  | .ordinal => integerText 3 false padding m.date.ordinal
  | .hour => twoCharText padding m.hour
  | .hour12 => twoCharText padding (clockHour m.hour)
  | .minute => twoCharText padding m.minute
  | .second => twoCharText padding (m.second + m.nanosecond / 1000000000)
  | .nanosecond => integerText 9 false padding (m.nanosecond % 1000000000)
  | .seconds => integerText 9 false padding m.toSeconds

/-- The fraction of a second in as many of three, six or nine digits as it needs, after a point; nothing for a whole second. -/
def fractionText (nanosecond : Nat) : List Char :=
  if nanosecond = 0 then []
  else if nanosecond % 1000000 = 0 then '.' :: digitsText 3 (nanosecond / 1000000)
  else if nanosecond % 1000 = 0 then '.' :: digitsText 6 (nanosecond / 1000)
  else '.' :: digitsText 9 nanosecond

/-- The sign and the hours of an offset, then its minutes after a separator. -/
def offsetText (offsetMinutes : Int) (separator : List Char) : List Char :=
  (if offsetMinutes < 0 then '-' else '+') :: digitsText 2 (offsetMinutes.natAbs / 60) ++ separator ++
    digitsText 2 (offsetMinutes.natAbs % 60)

/-- The full timestamp of a moment. -/
def timestampText (m : Moment) : List Char :=
  yearText .zeros m.date.year ++ '-' :: digitsText 2 m.date.month ++ '-' :: digitsText 2 m.date.day ++
    'T' :: digitsText 2 m.hour ++ ':' :: digitsText 2 m.minute ++
    ':' :: digitsText 2 (m.second + m.nanosecond / 1000000000) ++ fractionText (m.nanosecond % 1000000000) ++
    offsetText m.offsetMinutes [':']

/-- The text of a part that is not a plain number. -/
def namedText (m : Moment) : NamedPart → List Char
  | .shortMonth => ((monthNames[m.date.month - 1]?).getD "").toList.take 3
  | .longMonth => ((monthNames[m.date.month - 1]?).getD "").toList
  | .shortWeekday => ((weekdayNames[m.date.weekday]?).getD "").toList.take 3
  | .longWeekday => ((weekdayNames[m.date.weekday]?).getD "").toList
  | .lowerHalf => (if m.hour < 12 then "am" else "pm").toList
  | .upperHalf => (if m.hour < 12 then "AM" else "PM").toList
  | .fraction => fractionText (m.nanosecond % 1000000000)
  | .fractionDigits count point =>
    (if point then ['.'] else []) ++ digitsText count (m.nanosecond % 1000000000 / Nat.pow 10 (9 - count))
  | .zoneName => offsetText m.offsetMinutes [':']
  | .offset => offsetText m.offsetMinutes []
  | .offsetColon => offsetText m.offsetMinutes [':']
  | .offsetSeconds => offsetText m.offsetMinutes [':'] ++ ":00".toList
  | .offsetHours => (offsetText m.offsetMinutes []).take 3
  | .timestamp => timestampText m

/-- The text of a piece of a pattern. -/
def itemText (m : Moment) : PatternItem → List Char
  | .literal text => text
  | .number part padding => numericText m padding part
  | .named part => namedText m part

/-- The piece that is a single character. -/
def mark (c : Char) : PatternItem := .literal [c]

/-- A number filled with zeros. -/
def zeroed (part : NumericPart) : PatternItem := .number part .zeros

/-- A number filled with spaces. -/
def spaced (part : NumericPart) : PatternItem := .number part .spaces

/-- Hours, minutes and seconds between colons. -/
def clockItems : List PatternItem :=
  [zeroed .hour, mark ':', zeroed .minute, mark ':', zeroed .second]

/-- Month, day and year of the century between slashes. -/
def slashedItems : List PatternItem :=
  [zeroed .month, mark '/', zeroed .day, mark '/', zeroed .yearOfCentury]

/-- The pieces that a directive of one letter stands for; none for a letter that is no directive. -/
def directive? (letter : Char) : Option (List PatternItem) :=
  match letter with
  | 'A' => some [.named .longWeekday]
  | 'B' => some [.named .longMonth]
  | 'C' => some [zeroed .century]
  | 'D' => some slashedItems
  | 'F' => some [zeroed .year, mark '-', zeroed .month, mark '-', zeroed .day]
  | 'G' => some [zeroed .isoYear]
  | 'H' => some [zeroed .hour]
  | 'I' => some [zeroed .hour12]
  | 'M' => some [zeroed .minute]
  | 'P' => some [.named .lowerHalf]
  | 'R' => some [zeroed .hour, mark ':', zeroed .minute]
  | 'S' => some [zeroed .second]
  | 'T' => some clockItems
  | 'U' => some [zeroed .weekFromSunday]
  | 'V' => some [zeroed .isoWeek]
  | 'W' => some [zeroed .weekFromMonday]
  | 'X' => some clockItems
  | 'Y' => some [zeroed .year]
  | 'Z' => some [.named .zoneName]
  | 'a' => some [.named .shortWeekday]
  | 'b' => some [.named .shortMonth]
  | 'c' => some ([.named .shortWeekday, mark ' ', .named .shortMonth, mark ' ', spaced .day, mark ' '] ++ clockItems ++
      [mark ' ', zeroed .year])
  | 'd' => some [zeroed .day]
  | 'e' => some [spaced .day]
  | 'f' => some [zeroed .nanosecond]
  | 'g' => some [zeroed .isoYearOfCentury]
  | 'h' => some [.named .shortMonth]
  | 'j' => some [zeroed .ordinal]
  | 'k' => some [spaced .hour]
  | 'l' => some [spaced .hour12]
  | 'm' => some [zeroed .month]
  | 'n' => some [mark '\n']
  | 'p' => some [.named .upperHalf]
  | 'q' => some [.number .quarter .none]
  | 'r' => some [zeroed .hour12, mark ':', zeroed .minute, mark ':', zeroed .second, mark ' ', .named .upperHalf]
  | 's' => some [.number .seconds .none]
  | 't' => some [mark '\t']
  | 'u' => some [.number .weekdayFromMonday .none]
  | 'v' => some [spaced .day, mark '-', .named .shortMonth, mark '-', zeroed .year]
  | 'w' => some [.number .weekdayFromSunday .none]
  | 'x' => some slashedItems
  | 'y' => some [zeroed .yearOfCentury]
  | 'z' => some [.named .offset]
  | '+' => some [.named .timestamp]
  | '%' => some [mark '%']
  | _ => none

/-- The directives of more than one letter: fractions of a second and offsets with colons. -/
def longDirectives : List (String × NamedPart) :=
  [(".3f", .fractionDigits 3 true), (".6f", .fractionDigits 6 true), (".9f", .fractionDigits 9 true), (".f", .fraction),
   ("3f", .fractionDigits 3 false), ("6f", .fractionDigits 6 false), ("9f", .fractionDigits 9 false),
   (":::z", .offsetHours), ("::z", .offsetSeconds), (":z", .offsetColon)]

/-- The directive after a percent sign, without padding mark, and the rest of the pattern. -/
def readDirective? (cs : List Char) : Option (List PatternItem × List Char) :=
  match longDirectives.find? fun (word, _) => word.toList.isPrefixOf cs with
  | some (word, part) => some ([.named part], cs.drop word.length)
  | none =>
    match cs with
    | [] => none
    | letter :: rest => (directive? letter).map fun items => (items, rest)

/-- The padding that a mark before the letter asks for. -/
def paddingMark? (c : Char) : Option Padding :=
  match c with
  | '-' => some .none
  | '0' => some .zeros
  | '_' => some .spaces
  | _ => none

/-- What stands after a percent sign: a directive, or a padding mark and a directive for a single number. -/
def readItem? (cs : List Char) : Option (List PatternItem × List Char) :=
  match cs.head?.bind paddingMark? with
  | none => readDirective? cs
  | some padding =>
    match readDirective? cs.tail with
    | some ([.number part _], rest) => some ([.number part padding], rest)
    | _ => none

/-- The pieces of a pattern, if all its directives are known. The first argument bounds the number of pieces. -/
def readItems? : Nat → List Char → Option (List PatternItem)
  | 0, _ => some []
  | _, [] => some []
  | fuel + 1, c :: cs =>
    if c = '%' then do
      let (items, rest) ← readItem? cs
      return items ++ (← readItems? fuel rest)
    else return .literal [c] :: (← readItems? fuel cs)

/-- The pieces of a pattern, if all its directives are known. -/
def parse? (cs : List Char) : Option (List PatternItem) :=
  readItems? cs.length cs

/-- The text of a moment by a pattern. -/
def format? (pattern : String) (m : Moment) : Option String :=
  (parse? pattern.toList).map fun items => String.ofList (items.flatMap (itemText m))

end Pattern

end PageTemplates
