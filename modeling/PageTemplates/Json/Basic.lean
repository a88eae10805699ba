import PageTemplates.Decimal.Layout
import PageTemplates.Table

/-!
# JSON values

JSON values with objects in insertion order, and their compact text. A whole number and a float are told apart; a number is
finite by construction of its text, so a float that is not finite is written `null`.
-/

namespace PageTemplates

/-- A JSON value. -/
inductive Json where
  | null
  | bool (value : Bool)
  | int (value : Int)
  | float (value : Float)
  | string (text : String)
  | array (items : List Json)
  | object (fields : List (String × Json))
  deriving BEq, Inhabited

namespace Json

/-- The hexadecimal digit of a number below sixteen. -/
def hexChar (n : Nat) : Char :=
  if n < 10 then Char.ofNat (48 + n) else Char.ofNat (87 + n)

/-- How a character stands in a JSON string: quotes and backslashes after a backslash, control characters by their short
names or numbers, all others as they are. -/
def escapeChar (c : Char) : List Char :=
  if c = '"' then ['\\', '"']
  else if c = '\\' then ['\\', '\\']
  else if c = '\n' then ['\\', 'n']
  else if c = '\r' then ['\\', 'r']
  else if c = '\t' then ['\\', 't']
  else if c = '\x08' then ['\\', 'b']
  else if c = '\x0c' then ['\\', 'f']
  else if c.toNat < 32 then ['\\', 'u', '0', '0', hexChar (c.toNat / 16), hexChar (c.toNat % 16)]
  else [c]

/-- A JSON string literal. -/
def quote (s : String) : List Char :=
  '"' :: s.toList.flatMap escapeChar ++ ['"']

/-- The text of a float: with a point or an exponent, and `null` if it is not finite. -/
def floatText (x : Float) : List Char :=
  (Decimal.scientific? x).getD "null".toList

mutual

/-- The text of a value without any blanks. -/
def compact : Json → List Char
  | .null => "null".toList
  | .bool b => (if b then "true" else "false").toList
  | .int n => Decimal.integer n
  | .float x => floatText x
  | .string s => quote s
  | .array items => '[' :: compactItems items ++ [']']
  | .object fields => '\x7b' :: compactFields fields ++ ['\x7d']

/-- The texts of array items between commas. -/
def compactItems : List Json → List Char
  | [] => []
  | [j] => compact j
  | j :: js => compact j ++ ',' :: compactItems js

/-- The texts of object fields between commas. -/
def compactFields : List (String × Json) → List Char
  | [] => []
  | [(k, j)] => quote k ++ ':' :: compact j
  | (k, j) :: js => quote k ++ ':' :: compact j ++ ',' :: compactFields js

end

end Json

end PageTemplates
