import PageTemplates.Filters.BuiltIn
import PageTemplates.Proofs.Filters.NearestFloats

/-!
# Exact computations with integers

A step of a computation is an arithmetic filter with an operand. Where it does not divide by zero, leaves no remainder, and its
exact result is a 64-bit integer, the filter gives this result (`Arithmetic.filter_int`). A computation is exact if this is so
for each of its steps (`Arithmetic.Exact`).
-/

namespace PageTemplates.Arithmetic

/-- The arithmetic filters with an argument. -/
inductive Operator where
  | add
  | subtract
  | multiply
  | divide
  | mod
  deriving DecidableEq, Repr

namespace Operator

/-- The name of the filter. -/
def name : Operator → String
  | .add => "add"
  | .subtract => "subtract"
  | .multiply => "multiply"
  | .divide => "divide"
  | .mod => "mod"

/-- What the filter does. -/
def filter : Operator → ValueFilter
  | .add => binary "add" addition
  | .subtract => binary "subtract" subtraction
  | .multiply => binary "multiply" multiplication
  | .divide => divideFilter
  | .mod => moduloFilter

/-- The operation on integers of any size. Quotients are cut off towards zero, and a remainder has the sign of the dividend. -/
def onInts : Operator → Int → Int → Int
  | .add => (· + ·)
  | .subtract => (· - ·)
  | .multiply => (· * ·)
  | .divide => Int.tdiv
  | .mod => Int.tmod

/-- Nothing is divided by zero, and no quotient leaves a remainder. -/
def Defined : Operator → Int → Int → Prop
  | .divide, a, b => b ≠ 0 ∧ b ∣ a
  | .mod, _, b => b ≠ 0
  | _, _, _ => True

instance : (o : Operator) → (a b : Int) → Decidable (o.Defined a b)
  | .divide, _, _ => inferInstanceAs (Decidable (_ ∧ _))
  | .mod, _, _ => inferInstanceAs (Decidable (_ ≠ _))
  | .add, _, _ | .subtract, _, _ | .multiply, _, _ => isTrue trivial

end Operator

/-- A step of a computation: a filter and its argument. -/
structure Step where
  operator : Operator
  operand : Int64
  deriving DecidableEq

/-- The exact result of a step. -/
def Step.result (step : Step) (a : Int) : Int :=
  step.operator.onInts a step.operand.toInt

/-- The exact result of a computation, from left to right. -/
def total (a : Int) (steps : List Step) : Int :=
  steps.foldl (fun a step => step.result a) a

/-- Every step of a computation is defined where it stands, and its exact result is a 64-bit integer. So nothing divides the least
integer by minus one. -/
def Exact (a : Int) : List Step → Prop
  | [] => True
  | step :: steps =>
    step.operator.Defined a step.operand.toInt ∧
      (Int64.minValue.toInt ≤ step.result a ∧ step.result a ≤ Int64.maxValue.toInt) ∧ Exact (step.result a) steps

instance decidableExact : (a : Int) → (steps : List Step) → Decidable (Exact a steps)
  | _, [] => isTrue trivial
  | a, step :: steps =>
    have := decidableExact (step.result a) steps
    inferInstanceAs (Decidable (_ ∧ _ ∧ _))

theorem total_cons (a : Int) (step : Step) (steps : List Step) : total a (step :: steps) = total (step.result a) steps := rfl

/-! ## One step -/

theorem int64?_eq_some {n : Int} (h : Int64.minValue.toInt ≤ n ∧ n ≤ Int64.maxValue.toInt) :
    Decimal.int64? n = some (Int64.ofInt n) := by
  rw [Decimal.int64?, if_pos h]

theorem operands_int (name : String) (a b : Int64) : operands name (.int a) [.int b] = .ok (.int a, .int b) := rfl

theorem apply_int (op : Operation) {a b r : Int64} (h : Decimal.int64? (op.onInts a.toInt b.toInt) = some r) :
    op.apply (.int a) (.int b) = .int r := by
  simp only [Operation.apply, h]

theorem binary_int (surroundings : Surroundings) (name : String) (op : Operation) {a b r : Int64}
    (h : Decimal.int64? (op.onInts a.toInt b.toInt) = some r) :
    binary name op surroundings (.int a) [.int b] = .ok (.int r) := by
  unfold binary
  rw [operands_int]
  show Except.ok (op.apply (.int a) (.int b)).toValue = _
  rw [apply_int op h]
  rfl

/-- What counts as zero is zero. -/
theorem isZero_eq_false {b : Int64} (h : b.toInt ≠ 0) : isZero (.int b) = false := by
  rw [isZero_int, decide_eq_false]
  rintro rfl
  exact h rfl

/-- A quotient without remainder is an integer. -/
theorem divide_int {a b r : Int64} (hb : b.toInt ≠ 0) (hdvd : b.toInt ∣ a.toInt)
    (h : Decimal.int64? (a.toInt.tdiv b.toInt) = some r) : divide (.int a) (.int b) = .ok (.int r) := by
  simp only [divide, isZero_eq_false hb, Int.tmod_eq_zero_of_dvd hdvd, h, Bool.false_eq_true, if_false, if_true]

/-- A remainder is a 64-bit integer even where the quotient is none. -/
theorem modulo_int {a b r : Int64} (hb : b.toInt ≠ 0) (h : Decimal.int64? (a.toInt.tmod b.toInt) = some r) :
    modulo (.int a) (.int b) = .ok (.int r) := by
  have hr : Int64.ofInt (a.toInt.tmod b.toInt) = r := by
    rw [← Decimal.toInt_of_int64? h, Int64.ofInt_toInt]
  simp only [modulo, isZero_eq_false hb, hr, Bool.false_eq_true, if_false]

theorem divideFilter_int (surroundings : Surroundings) {a b r : Int64} (hb : b.toInt ≠ 0) (hdvd : b.toInt ∣ a.toInt)
    (h : Decimal.int64? (a.toInt.tdiv b.toInt) = some r) : divideFilter surroundings (.int a) [.int b] = .ok (.int r) := by
  unfold divideFilter
  rw [operands_int]
  show (divide (.int a) (.int b) >>= fun q => .ok q.toValue) = _
  rw [divide_int hb hdvd h]
  rfl

theorem moduloFilter_int (surroundings : Surroundings) {a b r : Int64} (hb : b.toInt ≠ 0)
    (h : Decimal.int64? (a.toInt.tmod b.toInt) = some r) : moduloFilter surroundings (.int a) [.int b] = .ok (.int r) := by
  unfold moduloFilter
  rw [operands_int]
  show (modulo (.int a) (.int b) >>= fun m => .ok m.toValue) = _
  rw [modulo_int hb h]
  rfl

/-- The filter of an operator gives the exact result where this is a 64-bit integer. -/
theorem filter_int (o : Operator) (surroundings : Surroundings) {a b r : Int64} (hdefined : o.Defined a.toInt b.toInt)
    (h : Decimal.int64? (o.onInts a.toInt b.toInt) = some r) :
    o.filter surroundings (.int a) [.int b] = .ok (.int r) := by
  cases o with
  | add => exact binary_int surroundings "add" addition h
  | subtract => exact binary_int surroundings "subtract" subtraction h
  | multiply => exact binary_int surroundings "multiply" multiplication h
  | divide => exact divideFilter_int surroundings hdefined.1 hdefined.2 h
  | mod => exact moduloFilter_int surroundings hdefined h

end PageTemplates.Arithmetic
