import PageTemplates.Decimal.Shortest

/-!
# Number texts

The texts of floats. `plain` never uses an exponent and has no point in a whole number. `scientific` keeps a point in every
number and writes an exponent where the positional text would be long. `fixed` has a given number of places, rounded from the
exact value.
-/

namespace PageTemplates.Decimal

/-- The digits of a number. -/
def digitsOf (n : Nat) : List Char :=
  Nat.toDigits 10 n

/-- The text with a minus sign in front of it if asked. -/
def signed (negative : Bool) (text : List Char) : List Char :=
  if negative then '-' :: text else text

/-- The positional text of a decimal, without a point when it is whole. -/
def positional (d : Digits) : List Char :=
  let ds := digitsOf d.digits
  if d.exponent ≥ 0 then
    if d.digits = 0 then ['0'] else ds ++ List.replicate d.exponent.natAbs '0'
  else
    let places := d.exponent.natAbs
    if places < ds.length then ds.take (ds.length - places) ++ '.' :: ds.drop (ds.length - places)
    else '0' :: '.' :: List.replicate (places - ds.length) '0' ++ ds

/-- The text of a float without exponent: its shortest digits, `NaN`, `inf` or `-inf`. -/
def plain (x : Float) : List Char :=
  match Exact.ofFloat x with
  | .nan => "NaN".toList
  | .infinite negative => signed negative "inf".toList
  | .finite negative m e => signed negative (positional (shortest .away m e))

/-- The text of a decimal that keeps a point: positional when the number has at most sixteen digits before the point and its
first digit stands among the first five places after it, else one digit, the others after a point, and the exponent with its
sign. -/
def pointed (d : Digits) : List Char :=
  let ds := digitsOf d.digits
  let before : Int := ds.length + d.exponent
  if -5 < before ∧ before ≤ 16 then
    if d.exponent ≥ 0 then positional d ++ ['.', '0'] else positional d
  else
    let power := before - 1
    let mark := 'e' :: (if power < 0 then '-' else '+') :: digitsOf power.natAbs
    match ds with
    | [] => mark
    | [c] => c :: mark
    | c :: cs => c :: '.' :: cs ++ mark

/-- The text of a finite float that keeps a point; none for the others. -/
def scientific? (x : Float) : Option (List Char) :=
  match Exact.ofFloat x with
  | .finite negative m e => some (signed negative (if m = 0 then ['0', '.', '0'] else pointed (shortest .even m e)))
  | _ => none

/-- The whole number nearest to `num / den`, the even one of a tie. -/
def roundDiv (num den : Nat) : Nat :=
  let q := num / den
  let r := num % den
  if 2 * r < den then q else if den < 2 * r then q + 1 else if q % 2 = 0 then q else q + 1

/-- The magnitude of a float with a given number of places after the point, rounded from its exact value, a tie to the even
neighbour; `NaN` and `inf` as they are. -/
def fixed (places : Nat) (x : Float) : List Char :=
  match Exact.ofFloat x with
  | .nan => "NaN".toList
  | .infinite _ => "inf".toList
  | .finite _ m e =>
    let r := Ratio.ofPower m 2 e
    let ds := digitsOf (roundDiv (r.num * Nat.pow 10 places) r.den)
    let padded := List.replicate (places + 1 - ds.length) '0' ++ ds
    let whole := padded.take (padded.length - places)
    if places = 0 then whole else whole ++ '.' :: padded.drop (padded.length - places)

/-- The digits of an integer, with its sign. -/
def integer (n : Int) : List Char :=
  signed (n < 0) (digitsOf n.natAbs)

end PageTemplates.Decimal
