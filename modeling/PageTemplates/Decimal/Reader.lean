/-!
# Reading decimal numbers

Texts of 64-bit integers and of 64-bit floats. An integer text is an optional sign and one or more digits, and it must fit;
a float text is an optional sign and then digits with an optional point and exponent, or one of the words `inf`, `infinity`
and `nan` in any case. The float nearest to the decimal is taken, a tie going to the even neighbour.
-/

namespace PageTemplates.Decimal

/-- The number that a list of digits denotes. -/
def digitsValue (ds : List Char) : Nat :=
  ds.foldl (fun n d => 10 * n + (d.toNat - '0'.toNat)) 0

/-- An optional sign and the rest: whether the sign is a minus, and what follows it. -/
def readSign : List Char → Bool × List Char
  | '-' :: r => (true, r)
  | '+' :: r => (false, r)
  | cs => (false, cs)

/-- The 64-bit integer equal to `n`, if there is one. -/
def int64? (n : Int) : Option Int64 :=
  if Int64.minValue.toInt ≤ n ∧ n ≤ Int64.maxValue.toInt then some (Int64.ofInt n) else none

/-- The integer that a text denotes, whatever its size. -/
def readInt? (cs : List Char) : Option Int :=
  let (negative, ds) := readSign cs
  if !ds.isEmpty && ds.all Char.isDigit then
    some (if negative then -(digitsValue ds : Int) else digitsValue ds)
  else
    none

/-- The 64-bit integer that a text denotes; none when the text is no integer or the integer does not fit. -/
def readInt64? (cs : List Char) : Option Int64 :=
  (readInt? cs).bind int64?

/-- The float nearest to `mantissa · 10 ^ exponent`. A magnitude that is certainly out of range is answered without forming
the power of ten. -/
def nearest (mantissa : Nat) (exponent : Int) : Float :=
  let size := (Nat.toDigits 10 mantissa).length + exponent
  if mantissa = 0 || size < -400 then 0.0
  else if size > 400 then 1.0 / 0.0
  else Float.ofScientific mantissa (exponent < 0) exponent.natAbs

/-- The exponent part of a float text: nothing, or a mark, an optional sign and digits. -/
def readExponent? : List Char → Option Int
  | [] => some 0
  | c :: r => if c = 'e' || c = 'E' then readInt? r else none

/-- The float that an unsigned text denotes. -/
def readMagnitude? (cs : List Char) : Option Float :=
  let word := String.ofList (cs.map Char.toLower)
  if word = "inf" || word = "infinity" then some (1.0 / 0.0)
  else if word = "nan" then some (0.0 / 0.0)
  else
    let whole := cs.takeWhile Char.isDigit
    let (fraction, tail) := match cs.dropWhile Char.isDigit with
      | '.' :: r => (r.takeWhile Char.isDigit, r.dropWhile Char.isDigit)
      | r => ([], r)
    if whole.isEmpty && fraction.isEmpty then none
    else (readExponent? tail).map fun e => nearest (digitsValue (whole ++ fraction)) (e - fraction.length)

/-- The float that a text denotes. -/
def readFloat? (cs : List Char) : Option Float :=
  let (negative, magnitude) := readSign cs
  (readMagnitude? magnitude).map fun x => if negative then -x else x

/-- An integer that is read as a 64-bit one keeps its value. -/
theorem toInt_of_int64? {n : Int} {i : Int64} (h : int64? n = some i) : i.toInt = n := by
  unfold int64? at h
  split at h
  · rename_i hn
    obtain rfl := Option.some.inj h
    rw [Int64.toInt_minValue, Int64.toInt_maxValue] at hn
    exact Int64.toInt_ofInt_of_le hn.1 (by omega)
  · simp at h

end PageTemplates.Decimal
