import PageTemplates.Decimal.Reader
import PageTemplates.Json.Basic
import PageTemplates.Value.Basic

/-!
# Values as JSON

Three ways between values and JSON: the JSON value of a value, the text written straight from a value, and the value of a JSON
value. Raw text becomes a string, and an expression, like a float that is not finite, becomes null.
-/

namespace PageTemplates.Value

mutual

/-- The JSON value of a value. -/
def toJson : Value → Json
  | .null => .null
  | .bool b => .bool b
  | .int n => .int n.toInt
  | .float x => if x.isFinite then .float x else .null
  | .string s => .string s
  | .raw s => .string s
  | .array items => .array (itemsToJson items)
  | .object fields => .object (fieldsToJson fields)
  | .expression _ => .null

/-- The JSON values of array items. -/
def itemsToJson : List Value → List Json
  | [] => []
  | v :: vs => toJson v :: itemsToJson vs

/-- The JSON values of object fields. -/
def fieldsToJson : List (String × Value) → List (String × Json)
  | [] => []
  | (k, v) :: vs => (k, toJson v) :: fieldsToJson vs

end

mutual

/-- The JSON text of a value, written in one pass over it. -/
def writeJson : Value → List Char
  | .null => "null".toList
  | .bool b => (if b then "true" else "false").toList
  | .int n => Decimal.integer n.toInt
  | .float x => Json.floatText x
  | .string s => Json.quote s
  | .raw s => Json.quote s
  | .array items => '[' :: writeItems items ++ [']']
  | .object fields => '\x7b' :: writeFields fields ++ ['\x7d']
  | .expression _ => "null".toList

/-- The texts of array items between commas. -/
def writeItems : List Value → List Char
  | [] => []
  | [v] => writeJson v
  | v :: vs => writeJson v ++ ',' :: writeItems vs

/-- The texts of object fields between commas. -/
def writeFields : List (String × Value) → List Char
  | [] => []
  | [(k, v)] => Json.quote k ++ ':' :: writeJson v
  | (k, v) :: vs => Json.quote k ++ ':' :: writeJson v ++ ',' :: writeFields vs

end

/-- The value of a whole number: an integer if it fits, else the nearest float. -/
def ofInt (n : Int) : Value :=
  match Decimal.int64? n with
  | some i => .int i
  | none => .float (Float.ofInt n)

mutual

/-- The value of a JSON value. -/
def ofJson : Json → Value
  | .null => .null
  | .bool b => .bool b
  | .int n => ofInt n
  | .float x => .float x
  | .string s => .string s
  | .array items => .array (itemsOfJson items)
  | .object fields => .object (fieldsOfJson fields)

/-- The values of JSON array items. -/
def itemsOfJson : List Json → List Value
  | [] => []
  | j :: js => ofJson j :: itemsOfJson js

/-- The values of JSON object fields. -/
def fieldsOfJson : List (String × Json) → List (String × Value)
  | [] => []
  | (k, j) :: js => (k, ofJson j) :: fieldsOfJson js

end

end PageTemplates.Value
