import PageTemplates.Filter

/-!
# Context filters

`assignTo` stores its value in a local, or in a place inside the value of a local, and writes nothing. `ifExists` ends the
pipeline of a null value.
-/

namespace PageTemplates.Scoping

/-- The parsed form of a text, from the cache if it was parsed before. -/
def parsed (kind : CachedText) (text : String) (build : Except TemplateError kind.Parsed) : Eval kind.Parsed := do
  let s ← get
  let (outcome, cache) := s.engine.cache.getOrBuild kind text build
  set { s with engine := { s.engine with cache } }
  Eval.ofExcept outcome

/-- Takes the value to change out of the locals. A name that is no local is looked up. -/
def takeRoot (access : ScopeAccess) (head : String) : Eval Value := do
  match Table.get? (← Eval.scope).locals head with
  | some root =>
    Eval.modifyScope (·.removeLocal head)
    return root
  | none => return (← access.lookup head).getD .null

/-- Stores a value at a target. -/
def assign (access : ScopeAccess) (target : AssignTarget) (v : Value) : Eval FilterOutput := do
  if target.steps.isEmpty then Eval.modifyScope (·.setLocal target.head v)
  else
    let root ← takeRoot access target.head
    let root ← Eval.ofExcept (target.assign root v)
    Eval.modifyScope (·.setLocal target.head root)
  return .ignore

/-- Stores the value at the target that the argument names. -/
def assignTo (access : ScopeAccess) (v : Value) (args : List Value) : Eval FilterOutput := do
  match args.head?.bind Value.text? with
  | none => Eval.fail (.invalidArgument "assignTo expects a target name")
  | some text =>
    let target ← parsed .assignTarget text (AssignTarget.parse text)
    assign access target v

/-- Ends the pipeline of a null value. -/
def ifExists (_ : ScopeAccess) (v : Value) (_ : List Value) : Eval FilterOutput :=
  return if v.isNull then .stop else .value v

/-- The context filters. -/
def filters : List FilterDef :=
  [{ name := "assignTo", arity := 2, body := .context assignTo },
   { name := "ifExists", arity := 1, acceptsUnknown := true, body := .context ifExists }]

end PageTemplates.Scoping
