import PageTemplates.Value.Json

/-!
# The text of a value

What a value reads as on a page. Null and expressions read as nothing, a whole float below 10^15 as an integer, arrays and
objects as their JSON text.
-/

namespace PageTemplates.Value

/-- The text of a float: a whole number below 10^15 without sign of zero or point, any other by its shortest digits. -/
def floatDisplay (x : Float) : List Char :=
  match Decimal.wholeNumber? x with
  | some n => if n.natAbs < Nat.pow 10 15 then Decimal.integer n else Decimal.plain x
  | none => Decimal.plain x

/-- The text of a value. -/
def display : Value → String
  | .null => ""
  | .bool b => if b then "true" else "false"
  | .int n => String.ofList (Decimal.integer n.toInt)
  | .float x => String.ofList (floatDisplay x)
  | .string s => s
  | .raw s => s
  | .array items => String.ofList (toJson (.array items)).compact
  | .object fields => String.ofList (toJson (.object fields)).compact
  | .expression _ => ""

end PageTemplates.Value
