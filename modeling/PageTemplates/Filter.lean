import PageTemplates.Evaluation.Effects
import PageTemplates.Filters.Arguments

/-!
# Filters

A filter is a stage of a pipeline with a name and an arity, which counts the piped value and the arguments. Value filters map
values to values, context filters also see and change the scope, and block filters write output. A value filter may remember a
value from call to call.
-/

namespace PageTemplates

/-- The kinds of filters. -/
inductive FilterKind where
  | value
  | context
  | block
  deriving DecidableEq, Inhabited

/-- The order in which filters of one name and arity are tried. -/
def FilterKind.precedence : List FilterKind := [.value, .context, .block]

/-- What a context filter hands on. -/
inductive FilterOutput where
  /-- The value that the pipeline goes on with. -/
  | value (v : Value)
  /-- The expression has no output. -/
  | ignore
  /-- The pipeline ends here, without output. -/
  | stop
  deriving Inhabited

/-- What a context filter can ask of the evaluation. -/
structure ScopeAccess where
  /-- The value of a name. -/
  lookup : String → Eval (Option Value)
  /-- The value of a binding path. -/
  evaluateBinding : String → Eval (Option Value)

/-- What a block filter can ask of the writing. -/
structure BlockAccess where
  /-- Writes fragments in the scope. -/
  writeFragments : List Fragment → Emit Session Unit
  /-- Writes a page in a child of the scope with more locals. -/
  writePartial : String → Table Value → Emit Session Unit

/-- What a filter does with its value and arguments. -/
inductive FilterBody where
  | value (run : ValueFilter)
  /-- A value filter with a memory: the function takes what it remembers, null at first, and gives that for the next call. The
  memory is found by a name. -/
  | remembering (memory : String) (run : Value → Value → List Value → Except TemplateError (Value × Value))
  | context (run : ScopeAccess → Value → List Value → Eval FilterOutput)
  | block (run : BlockAccess → Value → List Value → Emit Session Unit)

/-- The kind of a filter. -/
def FilterBody.kind : FilterBody → FilterKind
  | .value _ => .value
  | .remembering _ _ => .value
  | .context _ => .context
  | .block _ => .block

/-- A filter. The parameters are names of the arguments after the piped value, for messages. A filter that accepts unknown values
gets null for a value that is not there. -/
structure FilterDef where
  name : String
  arity : Nat
  params : List String := []
  acceptsUnknown : Bool := false
  body : FilterBody

namespace FilterDef

/-- The kind of a filter. -/
def kind (d : FilterDef) : FilterKind :=
  d.body.kind

/-- The name of an argument after the piped value, counted from one. -/
def paramName (d : FilterDef) (i : Nat) : String :=
  (d.params[i - 1]?).getD ("arg" ++ toString i)

/-- The shape of a call, such as `substring(value, start, length)`. -/
def signature (d : FilterDef) : String :=
  let args := if d.arity = 0 then [] else "value" :: (List.range (d.arity - 1)).map fun i => d.paramName (i + 1)
  d.name ++ "(" ++ ", ".intercalate args ++ ")"

/-- Whether a call of the kind, name and number of values means this filter. -/
def answers (d : FilterDef) (kind : FilterKind) (name : String) (arity : Nat) : Bool :=
  d.kind = kind && d.name = name && d.arity = arity

end FilterDef

/-- Filters in the order of their registration. The first one of a kind, name and arity counts. -/
structure FilterRegistry where
  defs : List FilterDef := []

namespace FilterRegistry

/-- The filter of a kind, name and arity. -/
def find? (r : FilterRegistry) (kind : FilterKind) (name : String) (arity : Nat) : Option FilterDef :=
  r.defs.find? (·.answers kind name arity)

/-- The registry with one more filter, and whether it was added: it is not if there is one like it. -/
def register (r : FilterRegistry) (d : FilterDef) : Bool × FilterRegistry :=
  match r.find? d.kind d.name d.arity with
  | some _ => (false, r)
  | none => (true, { defs := r.defs ++ [d] })

/-- The registry of filters registered one after the other. -/
def ofList (defs : List FilterDef) : FilterRegistry :=
  defs.foldl (fun r d => (r.register d).2) {}

/-- The registry of the filters that providers offer, one provider after the other. -/
def ofProviders (providers : List (List FilterDef)) : FilterRegistry :=
  providers.foldl (fun r defs => defs.foldl (fun r d => (r.register d).2) r) {}

/-- The names of the filters, each once, in the order of registration. -/
def names (r : FilterRegistry) : List String :=
  r.defs.foldl (fun names d => if names.contains d.name then names else names ++ [d.name]) []

/-- Whether there is a filter of a name. -/
def contains (r : FilterRegistry) (name : String) : Bool :=
  r.defs.any (·.name = name)

/-- The number of filters. -/
def size (r : FilterRegistry) : Nat :=
  r.defs.length

/-- Whether there are no filters. -/
def isEmpty (r : FilterRegistry) : Bool :=
  r.defs.isEmpty

end FilterRegistry

end PageTemplates
