import PageTemplates.Decimal.Binary64
import PageTemplates.Decimal.Reader
import PageTemplates.Text.Blank
import PageTemplates.Value.Basic

/-!
# Values as numbers

Filters that count take numbers, truth values and number texts. An integer stays exact; a float that is a whole number can
serve as an integer, cut to the 64-bit range.
-/

namespace PageTemplates

/-- The numeric reading of a value. -/
inductive Number where
  | int (value : Int64)
  | float (value : Float)
  deriving DecidableEq, Inhabited

/-- The float nearest to an integer. -/
def floatOfInt64 (n : Int64) : Float :=
  Float.ofInt n.toInt

namespace Number

/-- The float nearest to a number. -/
def toFloat : Number → Float
  | .int n => floatOfInt64 n
  | .float x => x

/-- The integer that a number is, or that a whole float is nearest to. -/
def toInt? : Number → Option Int64
  | .int n => some n
  | .float x => (Decimal.wholeNumber? x).map Decimal.clampInt64

/-- The value that holds a number. -/
def toValue : Number → Value
  | .int n => .int n
  | .float x => .float x

/-- The number that a text denotes, without the blanks around it: an integer if it fits, else a float. -/
def ofText? (s : String) : Option Number :=
  let cs := Text.trim s.toList
  match Decimal.readInt64? cs with
  | some n => some (.int n)
  | none => (Decimal.readFloat? cs).map .float

end Number

namespace Value

/-- The number that a value counts as. -/
def number? : Value → Option Number
  | .int n => some (.int n)
  | .float x => some (.float x)
  | .bool b => some (.int (if b then 1 else 0))
  | .string s => Number.ofText? s
  | .raw s => Number.ofText? s
  | _ => none

/-- The integer that a value counts as. -/
def int? (v : Value) : Option Int64 :=
  v.number?.bind Number.toInt?

/-- The float that a value counts as. -/
def float? (v : Value) : Option Float :=
  v.number?.map Number.toFloat

end Value

end PageTemplates
