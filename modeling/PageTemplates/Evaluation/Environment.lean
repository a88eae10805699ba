import PageTemplates.Site
import PageTemplates.Suggestions

/-!
# The environment of an evaluation

What an evaluation knows and cannot change: the site, and the arguments, filters and transformers of the render. A name is
looked up in the locals, the arguments of the render, those of the pages, those of the site, and last among the filters without
arguments.
-/

namespace PageTemplates

/-- The environment of an evaluation. -/
structure Environment where
  site : Site
  args : Table Value := []
  filters : FilterRegistry := {}
  transformers : Table Transformer := []

namespace Environment

/-- The filter of a kind, name and arity; those of the render come first. -/
def findFilterOfKind (env : Environment) (name : String) (arity : Nat) (kind : FilterKind) : Option FilterDef :=
  (env.filters.find? kind name arity).orElse fun _ => env.site.filters.find? kind name arity

/-- The filter of a name and arity, by the precedence of kinds. -/
def findFilter (env : Environment) (name : String) (arity : Nat) : Option FilterDef :=
  FilterKind.precedence.findSome? (env.findFilterOfKind name arity)

/-- The transformer of a name; those of the render come first. -/
def transformer? (env : Environment) (name : String) : Option Transformer :=
  (Table.get? env.transformers name).orElse fun _ => Table.get? env.site.transformers name

/-- The filters that a name may have meant. -/
def suggestions (env : Environment) (name : String) : List String :=
  suggestFilters name (env.filters.defs ++ env.site.filters.defs)

/-- The value of a value filter. -/
def callValue (env : Environment) (run : ValueFilter) (v : Value) (args : List Value) : Eval Value :=
  Eval.ofExcept (run env.site.surroundings v args)

/-- The value of a filter with a memory, which it may change. -/
def callRemembering (memory : String) (run : Value → Value → List Value → Except TemplateError (Value × Value)) (v : Value)
    (args : List Value) : Eval Value := do
  let s ← get
  let (remembered, result) ← Eval.ofExcept (run ((Table.get? s.engine.cells memory).getD .null) v args)
  set { s with engine := { s.engine with cells := Table.insert s.engine.cells memory remembered } }
  return result

/-- The value of a filter without arguments. -/
def callNullary (env : Environment) (name : String) : Eval (Option Value) := do
  match env.findFilterOfKind name 0 .value with
  | none => return none
  | some d =>
    match d.body with
    | .value run => return some (← Eval.inFilter name (env.callValue run .null []))
    | .remembering memory run => return some (← Eval.inFilter name (callRemembering memory run .null []))
    | _ => return none

/-- The value of a name in the scope; none if nothing has the name. -/
def bound? (env : Environment) (s : Scope) (name : String) : Option Value :=
  (Table.get? s.locals name).orElse fun _ =>
    (Table.get? env.args name).orElse fun _ =>
      (s.pageArg? name).orElse fun _ => Table.get? env.site.args name

/-- The value of a name. -/
def lookup (env : Environment) (name : String) : Eval (Option Value) := do
  match env.bound? (← Eval.scope) name with
  | some v => return some v
  | none => env.callNullary name

end Environment

end PageTemplates
