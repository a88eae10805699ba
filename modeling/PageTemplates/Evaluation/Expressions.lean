import PageTemplates.Evaluation.Environment

/-!
# Evaluating expressions

The value of an expression, which may be missing. Values can hold expressions, which are evaluated when the value is used; how
deep such evaluations nest is limited by the settings. The first argument of the functions bounds how deep they call each other.
-/

namespace PageTemplates

mutual

/-- Whether a value is an expression or holds one. -/
def Value.hasExpression : Value → Bool
  | .expression _ => true
  | .array items => Value.anyHasExpression items
  | .object fields => Value.fieldsHaveExpression fields
  | _ => false

/-- Whether one of the items is or holds an expression. -/
def Value.anyHasExpression : List Value → Bool
  | [] => false
  | v :: vs => v.hasExpression || Value.anyHasExpression vs

/-- Whether one of the fields is or holds an expression. -/
def Value.fieldsHaveExpression : List (String × Value) → Bool
  | [] => false
  | (_, v) :: vs => v.hasExpression || Value.fieldsHaveExpression vs

end

namespace Environment

/-- Counts one more evaluation of an expression value inside another, within the limit. -/
def enterNested (env : Environment) : Eval Unit := do
  let limit := env.site.settings.maxNestedEvaluationDepth
  if limit ≤ (← Eval.scope).nesting then
    Eval.fail (.invalidArgument ("nested expressions exceed the maximum depth of " ++ toString limit))
  else Eval.modifyScope fun s => { s with nesting := s.nesting + 1 }

/-- Counts one evaluation of an expression value less. -/
def exitNested : Eval Unit :=
  Eval.modifyScope fun s => { s with nesting := s.nesting - 1 }

/-- The compiled part of a path after its head, from the cache if it was compiled before. -/
def binder (env : Environment) (kind : ValueKind) (expression rest : String) : Eval Binder := do
  let s ← get
  let (outcome, binders) := s.engine.binders.getOrCompile env.site.compiler kind expression rest
  set { s with engine := { s.engine with binders } }
  Eval.ofExcept outcome

/-- Takes steps from a value. Every value on the way is resolved; from null, all steps lead to null. -/
def walk (resolve : Value → Eval Value) (key : Expression → Eval Value) : List (Accessor Expression) → Value → Eval Value
  | [], v => resolve v
  | step :: steps, v => do
    let v ← resolve v
    if v.isNull then return .null
    match step with
    | .member name => walk resolve key steps (v.member name)
    | .index e => walk resolve key steps (v.index (← key e))

mutual

/-- The value of an expression. -/
def evalExpression (env : Environment) : Nat → Expression → Eval (Option Value)
  | 0, _ => throw .exhausted
  | fuel + 1, e =>
    match e with
    | .literal l => return some (.ofLiteral l)
    | .binding path => env.evaluateBinding fuel path.text
    | .array items => do
      let values ← items.mapM fun item => do return (← env.evalExpression fuel item).getD .null
      return some (.array values)
    | .object entries => do
      let fields ← entries.mapM fun (name, item) => do return (name, (← env.evalExpression fuel item).getD .null)
      return some (.ofFields fields)
    | .call call => env.callFilter fuel call

/-- The value of an argument: resolved, and null if it is missing. -/
def evalArgument (env : Environment) : Nat → Expression → Eval Value
  | 0, _ => throw .exhausted
  | fuel + 1, e => do
    let v ← env.evalExpression fuel e
    env.resolve fuel (v.getD .null)

/-- The value of a filter call, missing if there is no such filter. A context filter without output gives null, and a block
filter gives no value. -/
def callFilter (env : Environment) : Nat → FilterCall Expression → Eval (Option Value)
  | 0, _ => throw .exhausted
  | fuel + 1, call =>
    match env.findFilter call.name call.args.length with
    | none => return none
    | some d => do
      let values ← call.args.mapM (env.evalArgument fuel)
      let v := values.head?.getD .null
      let args := values.tail
      match d.body with
      | .value run => return some (← Eval.inFilter call.name (env.callValue run v args))
      | .remembering memory run => return some (← Eval.inFilter call.name (callRemembering memory run v args))
      | .context run =>
        match ← Eval.inFilter call.name (run { lookup := env.lookup, evaluateBinding := env.evaluateBinding fuel } v args) with
        | .value v => return some v
        | .ignore | .stop => return some .null
      | .block _ =>
        Eval.inFilter call.name
          (Eval.fail (.notSupported ("block filter '" ++ call.name ++ "' cannot be used as a value")))

/-- The value with every expression in it evaluated. -/
def resolve (env : Environment) : Nat → Value → Eval Value
  | 0, _ => throw .exhausted
  | fuel + 1, v =>
    if !v.hasExpression then return v
    else do
      env.enterNested
      let outcome ← Eval.attempt (env.resolveNested fuel v)
      exitNested
      Eval.resume outcome

/-- The value with every expression in it evaluated, once the evaluation is counted. -/
def resolveNested (env : Environment) : Nat → Value → Eval Value
  | 0, _ => throw .exhausted
  | fuel + 1, v =>
    match v with
    | .expression e => do
      let v ← env.evalExpression fuel e
      env.resolve fuel (v.getD .null)
    | .array items => return .array (← items.mapM (env.resolve fuel))
    | .object fields => return .object (← fields.mapM fun (name, v) => do return (name, ← env.resolve fuel v))
    | v => return v

/-- The value of a binding path: missing if nothing has the name of its head, null if the path leads nowhere. -/
def evaluateBinding (env : Environment) : Nat → String → Eval (Option Value)
  | 0, _ => throw .exhausted
  | fuel + 1, path => do
    let (head, rest) := splitBinding path.toList
    match ← env.lookup (String.ofList head) with
    | none => return none
    | some v =>
      let root ← env.resolve fuel v
      if rest.isEmpty || root.isNull then return some root
      else
        match ← env.binder root.kind path (String.ofList rest) with
        | .constant v => return some v
        | .walk steps => return some (← walk (env.resolve fuel) (env.evalArgument fuel) steps root)

end

end Environment

end PageTemplates
