import PageTemplates.Decimal.Reader
import PageTemplates.Json.Basic
import PageTemplates.Syntax.StringLiteral

/-!
# Reading JSON

The value that a JSON text denotes. A whole number of the 64-bit ranges is kept as such; any other number becomes a float by
the rule of `Number.toFloat?`. A field that comes again keeps its place and takes the later value.
-/

namespace PageTemplates.Json

/-- Blanks between JSON tokens. -/
def isJsonBlank (c : Char) : Bool :=
  c == ' ' || c == '\t' || c == '\n' || c == '\r'

/-- The text without leading blanks. -/
def skipJsonBlanks (cs : List Char) : List Char :=
  cs.dropWhile isJsonBlank

/-- A number as written: its sign, the digits before and after the point, and the exponent. -/
structure Number where
  negative : Bool
  whole : List Char
  fraction : Option (List Char)
  exponent : Option Int

/-- The digits are added to a significand as long as it fits 64 bits: the significand and the digits left out. -/
def addDigits (significand : Nat) : List Char → Nat × List Char
  | [] => (significand, [])
  | d :: ds =>
    let next := 10 * significand + (d.toNat - '0'.toNat)
    if next < Nat.pow 2 64 then addDigits next ds else (significand, d :: ds)

/-- A float times a power of ten, in steps that keep the power in range: none when the result is too large. The first
argument bounds the number of steps. -/
def scaleByTen : Nat → Float → Int → Option Float
  | 0, x, _ => some x
  | fuel + 1, x, e =>
    if e.natAbs ≤ 308 then
      let power := Float.ofScientific 1 false e.natAbs
      let y := if e < 0 then x / power else x * power
      if y.isInf then none else some y
    else if x == 0.0 then some x
    else if e < 0 then scaleByTen fuel (x / 1e308) (e + 308)
    else none

/-- The float for a number: the significand holds as many digits as fit 64 bits, is rounded to a float, and is then multiplied
or divided by the power of ten. A number too large for a float has none. -/
def Number.toFloat? (n : Number) : Option Float :=
  let (s, dropped) := addDigits 0 n.whole
  let fraction := n.fraction.getD []
  let (t, unread) := addDigits s fraction
  let scale : Int := dropped.length - (fraction.length - unread.length : Nat)
  (scaleByTen 8 (Float.ofNat t) (scale + n.exponent.getD 0)).map fun x => if n.negative then -x else x

/-- The value of a number: whole when it is written without point and exponent and fits 64 bits, but not `-0`. -/
def Number.toJson? (n : Number) : Option Json :=
  let m := Decimal.digitsValue n.whole
  if n.fraction.isNone && n.exponent.isNone && m < Nat.pow 2 64 then
    if n.negative then
      if 0 < m ∧ m ≤ Nat.pow 2 63 then some (.int (-(m : Int))) else some (.float (-(Float.ofNat m)))
    else
      some (.int m)
  else
    n.toFloat?.map .float

/-- The number at the start of a text. -/
def readNumber? (cs : List Char) : Option (Json × List Char) := do
  let (negative, r) := match cs with
    | '-' :: r => (true, r)
    | _ => (false, cs)
  let whole := r.takeWhile Char.isDigit
  guard (!whole.isEmpty && (whole.length = 1 || whole.head? ≠ some '0'))
  let (fraction, r) ← match r.dropWhile Char.isDigit with
    | '.' :: r =>
      let ds := r.takeWhile Char.isDigit
      if ds.isEmpty then none else some (some ds, r.dropWhile Char.isDigit)
    | r => some (none, r)
  let (exponent, r) ← match r with
    | c :: r' =>
      if c = 'e' || c = 'E' then
        let (minus, ds) := Decimal.readSign r'
        let digits := ds.takeWhile Char.isDigit
        let e : Int := Decimal.digitsValue digits
        if digits.isEmpty then none else some (some (if minus then -e else e), ds.dropWhile Char.isDigit)
      else
        some (none, r)
    | [] => some (none, [])
  let value ← Number.toJson? { negative, whole, fraction, exponent }
  return (value, r)

/-- Where the reader stands in a JSON string: at a plain character, after a backslash, or among the four digits of a code. A
code that names the first half of a pair is kept until the second one comes. -/
inductive StringState where
  | plain (high : Option Nat)
  | escaped (high : Option Nat)
  | code (high : Option Nat) (seen : List Char)

/-- The character after a backslash, apart from `u`. -/
def unescape? (c : Char) : Option Char :=
  if c = '"' || c = '\\' || c = '/' then some c
  else if c = 'b' then some '\x08'
  else if c = 'f' then some '\x0c'
  else if c = 'n' then some '\n'
  else if c = 'r' then some '\r'
  else if c = 't' then some '\t'
  else none

/-- Reads a string up to its closing quote: its characters and what follows the quote. -/
def readString? : StringState → List Char → Option (List Char × List Char)
  | _, [] => none
  | .plain high, c :: cs =>
    if c = '\\' then readString? (.escaped high) cs
    else if high.isSome || c.toNat < 32 then none
    else if c = '"' then some ([], cs)
    else (readString? (.plain none) cs).map fun (text, after) => (c :: text, after)
  | .escaped high, c :: cs =>
    if c = 'u' then readString? (.code high []) cs
    else if high.isSome then none
    else match unescape? c, readString? (.plain none) cs with
      | some x, some (text, after) => some (x :: text, after)
      | _, _ => none
  | .code high seen, c :: cs =>
    if seen.length < 3 then readString? (.code high (seen ++ [c])) cs
    else match StringLiteral.hexDigits? (seen ++ [c]), high with
      | none, _ => none
      | some n, none =>
        if 0xD800 ≤ n && n < 0xDC00 then readString? (.plain (some n)) cs
        else match StringLiteral.scalar? n, readString? (.plain none) cs with
          | some x, some (text, after) => some (x :: text, after)
          | _, _ => none
      | some n, some h =>
        if 0xDC00 ≤ n && n < 0xE000 then
          (readString? (.plain none) cs).map fun (text, after) =>
            (Char.ofNat (0x10000 + 0x400 * (h - 0xD800) + (n - 0xDC00)) :: text, after)
        else
          none

/-- The rest of a text after a word that it has to start with. -/
def dropWord? (word : String) (cs : List Char) : Option (List Char) :=
  if word.toList.isPrefixOf cs then some (cs.drop word.length) else none

mutual

/-- The value at the start of a text, after any blanks. The first argument bounds the nesting. -/
def readValue? : Nat → List Char → Option (Json × List Char)
  | 0, _ => none
  | fuel + 1, text =>
    match skipJsonBlanks text with
    | [] => none
    | c :: cs =>
      if c = '"' then (readString? (.plain none) cs).map fun (s, r) => (.string (String.ofList s), r)
      else if c = '[' then
        match skipJsonBlanks cs with
        | ']' :: r => some (.array [], r)
        | _ => (readItems? fuel cs).map fun (items, r) => (.array items, r)
      else if c = '\x7b' then
        match skipJsonBlanks cs with
        | '\x7d' :: r => some (.object [], r)
        | _ => (readFields? fuel [] cs).map fun (fields, r) => (.object fields, r)
      else if c = 'n' then (dropWord? "null" (c :: cs)).map fun r => (.null, r)
      else if c = 't' then (dropWord? "true" (c :: cs)).map fun r => (.bool true, r)
      else if c = 'f' then (dropWord? "false" (c :: cs)).map fun r => (.bool false, r)
      else readNumber? (c :: cs)

/-- Items between commas, up to the closing bracket. -/
def readItems? : Nat → List Char → Option (List Json × List Char)
  | 0, _ => none
  | fuel + 1, text => do
    let (item, r) ← readValue? fuel text
    match skipJsonBlanks r with
    | ',' :: r => (readItems? fuel r).map fun (items, r) => (item :: items, r)
    | ']' :: r => some ([item], r)
    | _ => none

/-- Fields between commas, up to the closing brace, added to those read before. -/
def readFields? : Nat → Table Json → List Char → Option (Table Json × List Char)
  | 0, _, _ => none
  | fuel + 1, fields, text =>
    match skipJsonBlanks text with
    | '"' :: cs => do
      let (key, r) ← readString? (.plain none) cs
      match skipJsonBlanks r with
      | ':' :: r => do
        let (value, r) ← readValue? fuel r
        let fields := Table.insert fields (String.ofList key) value
        match skipJsonBlanks r with
        | ',' :: r => readFields? fuel fields r
        | '\x7d' :: r => some (fields, r)
        | _ => none
      | _ => none
    | _ => none

end

/-- The value that a whole text denotes. -/
def parse? (text : List Char) : Option Json :=
  match readValue? (text.length + 1) text with
  | some (value, r) => if (skipJsonBlanks r).isEmpty then some value else none
  | none => none

end PageTemplates.Json
