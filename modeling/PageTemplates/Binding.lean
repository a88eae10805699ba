import PageTemplates.Error
import PageTemplates.Syntax.Parser
import PageTemplates.Value.Display
import PageTemplates.Value.Number

/-!
# Binding paths

A path such as `model.items[0].title` is the value of its head followed by steps. The part after the head is compiled for the
kind of the head's value, which finds steps that this kind can never take, and compiled parts are kept in a cache.
-/

namespace PageTemplates

/-- A compiled part of a path: steps to take from a value, or a value that is the result whatever it starts from. -/
inductive Binder where
  | walk (steps : List (Accessor Expression))
  | constant (value : Value)
  deriving Inhabited

/-- Compiles the part of a path after its head, for a kind of the head's value. The path is given for error messages. -/
abbrev BindingCompiler := ValueKind → String → String → Except TemplateError Binder

namespace Binder

/-- How an error names a step. -/
def stepName : Accessor Expression → String
  | .member name => name
  | .index _ => "[]"

/-- Why a value of a kind cannot take a step, if it cannot. -/
def stepProblem? (kind : ValueKind) (step : Accessor Expression) : Option String :=
  match kind, step with
  | .object, _ | .null, _ | .expression, _ => none
  | .array, .index _ | .string, .index _ | .raw, .index _ => none
  | .array, .member "length" | .string, .member "length" | .raw, .member "length" => none
  | kind, .member name => some (kind.name ++ " has no member '" ++ name ++ "'")
  | kind, .index _ => some (kind.name ++ " cannot be indexed")

/-- Compiles by parsing the steps and checking the first one against the kind. -/
def compile : BindingCompiler := fun kind expression rest =>
  match parseSteps rest.toList with
  | .error e => .error (.binding expression rest e.message)
  | .ok steps =>
    match steps with
    | [] => .ok (.walk [])
    | first :: _ =>
      match stepProblem? kind first with
      | some problem => .error (.binding expression (stepName first) problem)
      | none => .ok (.walk steps)

end Binder

/-- Compiled parts of paths by the kind and the text they were compiled for. -/
structure BinderCache where
  binders : Table Binder (ValueKind × String) := []
  deriving Inhabited

namespace BinderCache

/-- The compiled part for a kind and a text. -/
def get? (c : BinderCache) (kind : ValueKind) (rest : String) : Option Binder :=
  Table.get? c.binders (kind, rest)

/-- The compiled part for a kind and a text, compiled and stored if there is none. A failure is not stored. -/
def getOrCompile (c : BinderCache) (compiler : BindingCompiler) (kind : ValueKind) (expression rest : String) :
    Except TemplateError Binder × BinderCache :=
  match c.get? kind rest with
  | some b => (.ok b, c)
  | none =>
    match compiler kind expression rest with
    | .ok b => (.ok b, { binders := Table.insert c.binders (kind, rest) b })
    | .error e => (.error e, c)

/-- The number of compiled parts. -/
def size (c : BinderCache) : Nat :=
  c.binders.length

end BinderCache

namespace Value

/-- The member of a value by its name, null if it has none: a field of an object, or the length of a sequence. -/
def member (v : Value) (name : String) : Value :=
  match v with
  | .object fields => (Table.get? fields name).getD .null
  | .array items => if name = "length" then .int (Int64.ofNat items.length) else .null
  | .string s => if name = "length" then .int (Int64.ofNat s.toList.length) else .null
  | .raw s => if name = "length" then .int (Int64.ofNat s.toList.length) else .null
  | _ => .null

/-- The place that a value means as an index of a sequence. -/
def place? (key : Value) : Option Nat :=
  (key.int?.filter (0 ≤ ·.toInt)).map (·.toInt.toNat)

/-- The character of a text at a place, as a text of its own. -/
def charAt (s : String) (key : Value) : Value :=
  match key.place?.bind fun i => s.toList[i]? with
  | some c => .ofChars [c]
  | none => .null

/-- The part of a value at an index, null if there is none: the field of an object by the text of the index, or the item or
character of a sequence by its place. -/
def index (v key : Value) : Value :=
  match v with
  | .object fields => (Table.get? fields key.display).getD .null
  | .array items => (key.place?.bind fun i => items[i]?).getD .null
  | .string s => charAt s key
  | .raw s => charAt s key
  | _ => .null

end Value

end PageTemplates
