import PageTemplates.Filters.Arguments

/-!
# Collection filters

Arrays, objects and texts as sequences. The filters that only make sense for an array take any other value as an array of one
item, and null as nothing.
-/

namespace PageTemplates.Collections

/-- The value of a count. -/
def countValue (n : Nat) : Value :=
  .int (Int64.ofNat n)

/-- The number of characters, items or fields; null has none. -/
def length : ValueFilter := fun _ v _ =>
  match v with
  | .null => .ok (countValue 0)
  | .string s => .ok (countValue s.toList.length)
  | .raw s => .ok (countValue s.toList.length)
  | .array items => .ok (countValue items.length)
  | .object fields => .ok (countValue fields.length)
  | v => .error (.invalidArgument ("length is not defined for " ++ v.kind.name))

/-- The value of an optional character. -/
def charValue (c : Option Char) : Value :=
  match c with
  | some c => .ofChars [c]
  | none => .null

/-- The first item of an array or character of a string; null if there is none. -/
def first : Value → Value
  | .array items => items.head?.getD .null
  | .string s => charValue s.toList.head?
  | _ => .null

/-- The last item of an array or character of a string; null if there is none. -/
def last : Value → Value
  | .array items => items.getLast?.getD .null
  | .string s => charValue s.toList.getLast?
  | _ => .null

/-- The array or string in reverse order; other values as they are. -/
def reverse : Value → Value
  | .array items => .array items.reverse
  | .string s => .ofChars s.toList.reverse
  | v => v

/-- Maps the items of a value. -/
def mapItems (f : List Value → List Value) : Value → Value
  | .array items => .array (f items)
  | .null => .null
  | v => .array (f [v])

/-- The first items, as many as the argument says. -/
def take : ValueFilter := fun _ v args => do
  let n ← Argument.count "take" args 0
  return mapItems (·.take n) v

/-- The items without the first ones, as many as the argument says. -/
def skip : ValueFilter := fun _ v args => do
  let n ← Argument.count "skip" args 0
  return mapItems (·.drop n) v

/-- The names of an object's fields, in order. -/
def keys : Value → Value
  | .object fields => .array ((Table.names fields).map .string)
  | _ => .array []

/-- The values of an object's fields, in order, and the items of an array. -/
def values : Value → Value
  | .object fields => .array (fields.map (·.2))
  | .array items => .array items
  | _ => .array []

/-- The filter of a function on values that cannot fail. -/
def pure (f : Value → Value) : ValueFilter := fun _ v _ => .ok (f v)

end PageTemplates.Collections
