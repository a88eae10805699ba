import PageTemplates.Syntax.Expression
import PageTemplates.Table

/-!
# Values

What bindings hold and filters pass on. Objects keep the order of their fields; raw text is markup that a page format writes
as it is; an expression value stands for what it evaluates to and is evaluated when it is read.
-/

namespace PageTemplates

/-- A value. -/
inductive Value where
  | null
  | bool (value : Bool)
  | int (value : Int64)
  | float (value : Float)
  | string (text : String)
  | raw (text : String)
  | array (items : List Value)
  | object (fields : List (String × Value))
  | expression (e : Expression)
  deriving Inhabited

/-- The kinds of values. -/
inductive ValueKind where
  | null
  | bool
  | int
  | float
  | string
  | raw
  | array
  | object
  | expression
  deriving DecidableEq, Inhabited

/-- The name of a kind. -/
def ValueKind.name : ValueKind → String
  | .null => "null"
  | .bool => "bool"
  | .int => "int"
  | .float => "float"
  | .string => "string"
  | .raw => "raw"
  | .array => "array"
  | .object => "object"
  | .expression => "expression"

namespace Value

/-- The kind of a value. -/
def kind : Value → ValueKind
  | .null => .null
  | .bool _ => .bool
  | .int _ => .int
  | .float _ => .float
  | .string _ => .string
  | .raw _ => .raw
  | .array _ => .array
  | .object _ => .object
  | .expression _ => .expression

/-- The value of a constant. -/
def ofLiteral : Literal → Value
  | .null => .null
  | .bool b => .bool b
  | .int n => .int n
  | .float x => .float x
  | .string s => .string s

/-- The value of a character list. -/
def ofChars (cs : List Char) : Value :=
  .string (String.ofList cs)

/-- The object with the given fields, which may repeat a name. -/
def ofFields (fields : List (String × Value)) : Value :=
  .object (Table.ofList fields)

/-- Whether the value is null. -/
def isNull : Value → Bool
  | .null => true
  | _ => false

/-- The text of a string or raw value. -/
def text? : Value → Option String
  | .string s => some s
  | .raw s => some s
  | _ => none

/-- The items of an array. -/
def items? : Value → Option (List Value)
  | .array items => some items
  | _ => none

/-- The fields of an object. -/
def fields? : Value → Option (Table Value)
  | .object fields => some fields
  | _ => none

/-- The field of an object with the given name. -/
def get? (v : Value) (name : String) : Option Value :=
  v.fields?.bind (Table.get? · name)

/-- Null, false, zero, and empty texts and collections are false; all else is true. -/
def isTruthy : Value → Bool
  | .null => false
  | .bool b => b
  | .int n => n != 0
  | .float x => x != 0.0
  | .string s => !s.isEmpty
  | .raw s => !s.isEmpty
  | .array items => !items.isEmpty
  | .object fields => !fields.isEmpty
  | .expression _ => true

mutual

/-- Equality of values: floats compare as numbers, so one that is not a number differs from itself, and the order of the fields
of an object does not count. -/
def equal : Value → Value → Bool
  | .null, .null => true
  | .bool a, .bool b => a == b
  | .int a, .int b => a == b
  | .float a, .float b => a == b
  | .string a, .string b => a == b
  | .raw a, .raw b => a == b
  | .array as, .array bs => allEqual as bs
  | .object as, .object bs => as.length == bs.length && fieldsEqual as bs
  | .expression a, .expression b => a == b
  | _, _ => false

/-- Equality of arrays, item by item. -/
def allEqual : List Value → List Value → Bool
  | [], [] => true
  | a :: as, b :: bs => equal a b && allEqual as bs
  | _, _ => false

/-- Every field of the first table has an equal one in the second. -/
def fieldsEqual : List (String × Value) → Table Value → Bool
  | [], _ => true
  | (name, a) :: as, bs =>
    (match Table.get? bs name with
      | some b => equal a b
      | none => false) && fieldsEqual as bs

end

end Value

end PageTemplates
