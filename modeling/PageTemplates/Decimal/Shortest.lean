import PageTemplates.Decimal.Binary64

/-!
# Shortest decimals

The decimal with the fewest digits that still reads back as a given float, and of those the one nearest to it; texts differ in
which of two equally near ones they take. The decimals
that read back as `mantissa · 2 ^ exponent` fill an interval around it: half the distance to each neighbour, ends included
when the mantissa is even. On the grid of decimals with a given number of digits only the two neighbours of the number itself
have to be tried.
-/

namespace PageTemplates.Decimal

/-- A decimal: `digits · 10 ^ exponent`. -/
structure Digits where
  digits : Nat
  exponent : Int
  deriving DecidableEq, Inhabited

/-- A quotient of whole numbers, used where no rounding may happen. -/
structure Ratio where
  num : Nat
  den : Nat
  deriving DecidableEq, Inhabited

/-- The ratio `n · b ^ e`. -/
def Ratio.ofPower (n b : Nat) (e : Int) : Ratio :=
  if e < 0 then { num := n, den := Nat.pow b e.natAbs } else { num := n * Nat.pow b e.natAbs, den := 1 }

/-- Whether the first ratio is less than the second. -/
def Ratio.lt (a b : Ratio) : Bool :=
  a.num * b.den < b.num * a.den

/-- Whether two ratios are equal. -/
def Ratio.eq (a b : Ratio) : Bool :=
  a.num * b.den == b.num * a.den

/-- The largest whole number at most `r / 10 ^ k`. -/
def Ratio.floorAt (r : Ratio) (k : Int) : Nat :=
  if k < 0 then r.num * Nat.pow 10 k.natAbs / r.den else r.num / (r.den * Nat.pow 10 k.natAbs)

/-- A decimal as a ratio. -/
def Digits.toRatio (d : Digits) : Ratio :=
  Ratio.ofPower d.digits 10 d.exponent

/-- The numbers that read back as one float: those between the ends, and the ends if `closed`. -/
structure ReadsBack where
  low : Ratio
  value : Ratio
  high : Ratio
  closed : Bool
  deriving Inhabited

/-- The interval around `mantissa · 2 ^ exponent`. Below a power of two the floats lie twice as close, except at the least
exponent. -/
def ReadsBack.of (mantissa : Nat) (exponent : Int) : ReadsBack where
  low := .ofPower (4 * mantissa - (if mantissa = Nat.pow 2 fractionBits ∧ exponent ≠ -1074 then 1 else 2)) 2 (exponent - 2)
  value := .ofPower mantissa 2 exponent
  high := .ofPower (4 * mantissa + 2) 2 (exponent - 2)
  closed := mantissa % 2 = 0

/-- Whether a decimal lies in the interval. -/
def ReadsBack.contains (i : ReadsBack) (d : Digits) : Bool :=
  let r := d.toRatio
  (i.low.lt r || (i.closed && i.low.eq r)) && (r.lt i.high || (i.closed && r.eq i.high))

/-- The number of digits before the point of the decimal form of a ratio: the `e` with `10 ^ (e - 1) ≤ r < 10 ^ e`. The
argument is an estimate from the sizes of numerator and denominator, at most one too small. -/
def Ratio.magnitude (r : Ratio) : Int :=
  let estimate : Int := (Nat.toDigits 10 r.num).length - (Nat.toDigits 10 r.den).length
  if r.lt (.ofPower 1 10 estimate) then estimate else estimate + 1

/-- How far a decimal is from a ratio, times the denominators of both and so comparable between decimals of one grid. -/
def Digits.distance (d : Digits) (r : Ratio) : Nat :=
  let s := d.toRatio
  (s.num * r.den - r.num * s.den) + (r.num * s.den - s.num * r.den)

/-- Which of two decimals is taken when both are equally near: the one with the even last digit, or the larger one. -/
inductive Tie where
  | even
  | away
  deriving DecidableEq, Inhabited

/-- The decimal of the grid `10 ^ k` that reads back as the float: the nearer neighbour of the two that do, none if neither does.
-/
def ReadsBack.onGrid? (tie : Tie) (i : ReadsBack) (k : Int) : Option Digits :=
  let n := i.value.floorAt k
  let below : Digits := { digits := n, exponent := k }
  let above : Digits := { digits := n + 1, exponent := k }
  match i.contains below, i.contains above with
  | true, true =>
    let b := below.distance i.value
    let a := above.distance i.value
    some (if b < a || (b == a && tie == .even && n % 2 == 0) then below else above)
  | true, false => some below
  | false, true => some above
  | false, false => none

/-- A decimal without the zeros at its end. The first argument bounds their number. -/
def Digits.trimZeros : Nat → Digits → Digits
  | 0, d => d
  | fuel + 1, d =>
    if d.digits ≠ 0 ∧ d.digits % 10 = 0 then trimZeros fuel { digits := d.digits / 10, exponent := d.exponent + 1 } else d

/-- The first grid with a decimal that reads back, from one digit to seventeen; that of the exact value if there is none. -/
def ReadsBack.shortest (tie : Tie) (i : ReadsBack) : Digits :=
  let magnitude := i.value.magnitude
  let grids := (List.range 17).map fun (n : Nat) => magnitude - (n + 1)
  match grids.findSome? (i.onGrid? tie) with
  | some d => d.trimZeros 20
  | none => { digits := i.value.num, exponent := 0 }

/-- The shortest decimal that reads back as `mantissa · 2 ^ exponent`. -/
def shortest (tie : Tie) (mantissa : Nat) (exponent : Int) : Digits :=
  if mantissa = 0 then { digits := 0, exponent := 0 } else (ReadsBack.of mantissa exponent).shortest tie

end PageTemplates.Decimal
