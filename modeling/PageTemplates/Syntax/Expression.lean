/-!
# Expressions

The syntax tree of what stands between the braces of a template: constants, binding paths, array and object literals, and
filter calls. A pipeline is an expression followed by filter stages.
-/

namespace PageTemplates

/-- A constant written in a template. -/
inductive Literal where
  | null
  | bool (value : Bool)
  | int (value : Int64)
  | float (value : Float)
  | string (text : String)
  deriving BEq, Inhabited

/-- One step of a binding path: `.name` or `[expression]`. -/
inductive Accessor (ε : Type) where
  | member (name : String)
  | index (value : ε)
  deriving BEq, Inhabited

/-- A path such as `model.items[0].name`: its text as written, the leading identifier, and the steps after it. -/
structure BindingPath (ε : Type) where
  text : String
  head : String
  steps : List (Accessor ε)
  deriving BEq, Inhabited

/-- A filter by name with its arguments, as a stage of a pipeline or as an expression of its own. -/
structure FilterCall (ε : Type) where
  name : String
  args : List ε
  deriving BEq, Inhabited

/-- An expression. The entries of an object stand in source order and may repeat a key. -/
inductive Expression where
  | literal (value : Literal)
  | binding (path : BindingPath Expression)
  | array (items : List Expression)
  | object (entries : List (String × Expression))
  | call (call : FilterCall Expression)
  deriving BEq, Inhabited

/-- An expression and the filter stages applied to it, from left to right. -/
structure Pipeline where
  initial : Expression
  stages : List (FilterCall Expression)
  deriving BEq, Inhabited

/-- The part of the path's text after its head, such as `.items[0].name`. -/
def BindingPath.rest {ε : Type} (p : BindingPath ε) : String :=
  String.ofList (p.text.toList.drop p.head.toList.length)

/-- A path without steps is a bare identifier. -/
def BindingPath.isSimple {ε : Type} (p : BindingPath ε) : Bool :=
  p.steps.isEmpty

/-- The path that is just an identifier. -/
def BindingPath.ofName {ε : Type} (name : String) : BindingPath ε :=
  { text := name, head := name, steps := [] }

namespace Expression

/-- The constant text `s`. -/
def string (s : String) : Expression :=
  .literal (.string s)

mutual

/-- An expression without bindings and calls. -/
def isConstant : Expression → Bool
  | .literal _ => true
  | .binding _ => false
  | .array items => allConstant items
  | .object entries => entriesConstant entries
  | .call _ => false

/-- Every item is constant. -/
def allConstant : List Expression → Bool
  | [] => true
  | e :: es => isConstant e && allConstant es

/-- Every entry's value is constant. -/
def entriesConstant : List (String × Expression) → Bool
  | [] => true
  | (_, e) :: es => isConstant e && entriesConstant es

end

end Expression

end PageTemplates
