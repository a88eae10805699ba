import PageTemplates.Error
import PageTemplates.Syntax.Parser
import PageTemplates.Value.Basic

/-!
# Assignment targets

A target such as `totals.net` or `rows[0]['id']` names a local and a place inside its value. Fields that are missing on the way
are created, array items are not.
-/

namespace PageTemplates

/-- A step to a place inside a value. -/
inductive AssignStep where
  | key (name : String)
  | index (place : Nat)
  deriving DecidableEq, Inhabited

/-- The target of an assignment. -/
structure AssignTarget where
  head : String
  steps : List AssignStep
  deriving DecidableEq, Inhabited

namespace AssignTarget

/-- The step that an accessor stands for, if it is constant. -/
def step? : Accessor Expression → Option AssignStep
  | .member name => some (.key name)
  | .index (.literal (.string name)) => some (.key name)
  | .index (.literal (.int i)) => if 0 ≤ i.toInt then some (.index i.toInt.toNat) else none
  | .index _ => none

/-- The target that a text denotes. -/
def parse (text : String) : Except TemplateError AssignTarget :=
  let cs := Text.trim text.toList
  let (head, rest) := splitBinding cs
  if head.isEmpty then .error (.invalidArgument ("invalid assign target '" ++ String.ofList cs ++ "'"))
  else
    match parseSteps rest with
    | .error e => .error (.parse (String.ofList cs) e)
    | .ok accessors =>
      match accessors.mapM step? with
      | some steps => .ok { head := String.ofList head, steps }
      | none => .error (.invalidArgument ("assign target '" ++ String.ofList cs ++ "' may only use constant indexes"))

/-- The value with another one at the end of the steps; an error for an index that an array does not have. -/
def assignAt (head : String) : List AssignStep → Value → Value → Except TemplateError Value
  | [], _, value => .ok value
  | .key name :: steps, root, value => do
    let fields := root.fields?.getD []
    let inner ← assignAt head steps ((Table.get? fields name).getD .null) value
    return .object (Table.insert fields name inner)
  | .index i :: steps, root, value =>
    match root.items? with
    | none => .error (.invalidArgument ("index " ++ toString i ++ " is out of range for '" ++ head ++ "'"))
    | some items =>
      match items[i]? with
      | none => .error (.invalidArgument ("index " ++ toString i ++ " is out of range for '" ++ head ++ "'"))
      | some item => do
        let inner ← assignAt head steps item value
        return .array (items.set i inner)

/-- The value of a local with another value at the target's place. -/
def assign (t : AssignTarget) (root value : Value) : Except TemplateError Value :=
  assignAt t.head t.steps root value

end AssignTarget

end PageTemplates
