/-!
# Floats as exact numbers

A float is not a number, an infinity, or exactly `mantissa · 2 ^ exponent` with a sign. Printing, rounding and the remainder
work on that form, in whole numbers and without rounding on the way.
-/

namespace PageTemplates.Decimal

/-- The exact meaning of a float. -/
inductive Exact where
  | nan
  | infinite (negative : Bool)
  | finite (negative : Bool) (mantissa : Nat) (exponent : Int)
  deriving DecidableEq, Inhabited

/-- The number of bits of the fraction field. -/
def fractionBits : Nat := 52

/-- The meaning of a float, from its bits. A float with an exponent field of zero has no leading bit. -/
def Exact.ofFloat (x : Float) : Exact :=
  let bits : Nat := x.toBits.toNat
  let negative : Bool := bits / Nat.pow 2 63 = 1
  let field : Nat := bits / Nat.pow 2 fractionBits % Nat.pow 2 11
  let fraction : Nat := bits % Nat.pow 2 fractionBits
  if field = 2047 then (if fraction = 0 then .infinite negative else .nan)
  else if field = 0 then .finite negative fraction (-1074)
  else .finite negative (Nat.pow 2 fractionBits + fraction) ((field : Int) - 1075)

/-- The whole number `n · 2 ^ e`, with any fraction cut off. -/
def scale2 (n : Nat) (e : Int) : Nat :=
  if e < 0 then n / Nat.pow 2 e.natAbs else n * Nat.pow 2 e.natAbs

/-- The whole number that a float is, if it is one. -/
def wholeNumber? (x : Float) : Option Int :=
  match Exact.ofFloat x with
  | .finite negative m e =>
    if e < 0 ∧ m % Nat.pow 2 e.natAbs ≠ 0 then none
    else
      let n : Int := scale2 m e
      some (if negative then -n else n)
  | _ => none

/-- The 64-bit integer nearest to a whole number. -/
def clampInt64 (n : Int) : Int64 :=
  Int64.ofInt (max Int64.minValue.toInt (min n Int64.maxValue.toInt))

/-- The float `m · 2 ^ e` for an `m` of at most 53 bits and an `e` of at least -1074: the leading bit is moved to its place as
far as the least exponent allows. -/
def ofScaled (negative : Bool) (m : Nat) (e : Int) : Float :=
  let shift : Nat := min (fractionBits - Nat.log2 m) (e + 1074).toNat
  let lifted := m * Nat.pow 2 shift
  let field : Nat := if lifted < Nat.pow 2 fractionBits then 0 else (e - shift + 1075).toNat
  Float.ofBits (Nat.toUInt64
    ((if negative then Nat.pow 2 63 else 0) + field * Nat.pow 2 fractionBits + lifted % Nat.pow 2 fractionBits))

/-- The remainder of the division of `x` by `y` whose quotient is cut off towards zero. It is exact and has the sign of `x`. -/
def remainder (x y : Float) : Float :=
  match Exact.ofFloat x, Exact.ofFloat y with
  | .finite negative m e, .finite _ n f =>
    if n = 0 then 0.0 / 0.0
    else
      let low := min e f
      ofScaled negative ((m * Nat.pow 2 (e - low).natAbs) % (n * Nat.pow 2 (f - low).natAbs)) low
  | .finite .., .infinite _ => x
  | _, _ => 0.0 / 0.0

end PageTemplates.Decimal
