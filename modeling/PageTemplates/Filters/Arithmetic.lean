import PageTemplates.Decimal.Binary64
import PageTemplates.Filters.Arguments

/-!
# Arithmetic

Integers stay integers as long as the exact result is a 64-bit integer; any other result is the float operation on the nearest
floats. Division gives an integer only when it is exact. The remainder has the sign of the dividend.
-/

namespace PageTemplates.Arithmetic

/-- An operation given on integers and on floats. -/
structure Operation where
  onInts : Int → Int → Int
  onFloats : Float → Float → Float

/-- The sum. -/
def addition : Operation where
  onInts := (· + ·)
  onFloats := (· + ·)

/-- The difference. -/
def subtraction : Operation where
  onInts := (· - ·)
  onFloats := (· - ·)

/-- The product. -/
def multiplication : Operation where
  onInts := (· * ·)
  onFloats := (· * ·)

/-- The result of an operation: the integer result if both numbers are integers and it fits, else the float result. -/
def Operation.apply (op : Operation) (a b : Number) : Number :=
  match a, b with
  | .int x, .int y =>
    match Decimal.int64? (op.onInts x.toInt y.toInt) with
    | some n => .int n
    | none => .float (op.onFloats (floatOfInt64 x) (floatOfInt64 y))
  | a, b => .float (op.onFloats a.toFloat b.toFloat)

/-- Whether a number is zero. -/
def isZero (n : Number) : Bool :=
  n.toFloat == 0.0

/-- The quotient of two numbers. -/
def divide (a b : Number) : Except TemplateError Number :=
  if isZero b then .error (.invalidArgument "division by zero")
  else
    match a, b with
    | .int x, .int y =>
      if x.toInt.tmod y.toInt = 0 then
        match Decimal.int64? (x.toInt.tdiv y.toInt) with
        | some q => .ok (.int q)
        | none => .ok (.float (floatOfInt64 x / floatOfInt64 y))
      else .ok (.float (floatOfInt64 x / floatOfInt64 y))
    | a, b => .ok (.float (a.toFloat / b.toFloat))

/-- The remainder of the division of two numbers. -/
def modulo (a b : Number) : Except TemplateError Number :=
  if isZero b then .error (.invalidArgument "modulo by zero")
  else
    match a, b with
    | .int x, .int y => .ok (.int (Int64.ofInt (x.toInt.tmod y.toInt)))
    | a, b => .ok (.float (Decimal.remainder a.toFloat b.toFloat))

/-- The number that the value of a filter counts as. -/
def operand (filter : String) (v : Value) : Except TemplateError Number :=
  match v.number? with
  | some n => .ok n
  | none => .error (.invalidArgument (filter ++ " expects a number, got " ++ v.kind.name))

/-- The two numbers of a filter: its value and its first argument. -/
def operands (filter : String) (v : Value) (args : List Value) : Except TemplateError (Number × Number) := do
  let a ← operand filter v
  match args with
  | [] => .error (.invalidArgument (filter ++ " expects an operand"))
  | arg :: _ => return (a, ← operand filter arg)

/-- The filter that applies an operation to its value and its argument. -/
def binary (name : String) (op : Operation) : ValueFilter := fun _ v args => do
  let (a, b) ← operands name v args
  return (op.apply a b).toValue

/-- The filter that applies an operation to its value and one. -/
def withOne (name : String) (op : Operation) : ValueFilter := fun _ v _ => do
  let a ← operand name v
  return (op.apply a (.int 1)).toValue

/-- The filter that divides its value by its argument. -/
def divideFilter : ValueFilter := fun _ v args => do
  let (a, b) ← operands "divide" v args
  return (← divide a b).toValue

/-- The filter that takes the remainder of its value by its argument. -/
def moduloFilter : ValueFilter := fun _ v args => do
  let (a, b) ← operands "mod" v args
  return (← modulo a b).toValue

end PageTemplates.Arithmetic
