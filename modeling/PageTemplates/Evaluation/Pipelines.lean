import PageTemplates.Evaluation.Expressions

/-!
# Evaluating pipelines

The stages of a pipeline run from left to right. A call in the first place counts as a stage that gets its first argument piped.
Once a block filter has written, the stages after it get its output: block filters as their value, and transformers by name.
-/

namespace PageTemplates

/-- What came of an expression. -/
inductive Outcome where
  | value (v : Value)
  /-- The expression has no output by intention. -/
  | ignored
  /-- The expression means nothing here. -/
  | unhandled
  /-- The output is written already. -/
  | written
  deriving Inhabited

/-- A stage of a pipeline: the filter's name, the arguments after the piped value, and the number of all values. -/
structure Stage where
  name : String
  args : List Expression
  arity : Nat

/-- The stage of a filter after a bar. -/
def Stage.ofCall (call : FilterCall Expression) : Stage where
  name := call.name
  args := call.args
  arity := call.args.length + 1

/-- The stage of a call in the first place. -/
def Stage.ofInitial (call : FilterCall Expression) : Stage where
  name := call.name
  args := call.args.tail
  arity := call.args.length

namespace Environment

/-- The values of a stage's arguments. -/
def stageArgs (env : Environment) (fuel : Nat) (stage : Stage) : Emit Session (List Value) :=
  Emit.ofEval (stage.args.mapM (env.evalArgument fuel))

/-- The block filter that a stage names, if it is one. -/
def blockFilter? (env : Environment) (stage : Stage) : Option (BlockAccess → Value → List Value → Emit Session Unit) :=
  match env.findFilterOfKind stage.name stage.arity .block with
  | some { body := .block run, .. } => some run
  | _ => none

/-- Passes the output of a block filter through the stages after it. -/
def writeChain (env : Environment) (fuel : Nat) (access : BlockAccess) : Bytes → List Stage → Emit Session Unit
  | buffer, [] => Emit.write buffer
  | buffer, stage :: stages =>
    match env.blockFilter? stage with
    | some run => do
      let text ← Emit.ofExcept ((Utf8.decode buffer).mapError fun fault => .transform fault.message)
      let args ← env.stageArgs fuel stage
      let writing := Emit.inFilter stage.name (run access (.string text) args)
      if stages.isEmpty then writing
      else
        let (_, next) ← Emit.capture writing
        env.writeChain fuel access next stages
    | none =>
      match env.transformer? stage.name with
      | some transform => do
        let next ← Emit.ofExcept (transform buffer)
        env.writeChain fuel access next stages
      | none => Emit.fail (.transformerNotFound stage.name)

/-- Runs the stages from a position on. -/
def runStages (env : Environment) (fuel : Nat) (access : BlockAccess) : Nat → List Stage → Value → Emit Session Outcome
  | _, [], v => return .value v
  | position, stage :: stages, v =>
    match env.findFilter stage.name stage.arity with
    | none =>
      if position = 0 then return .ignored
      else Emit.fail (.filterNotFound stage.name position (env.suggestions stage.name))
    | some d => do
      let args ← env.stageArgs fuel stage
      match d.body with
      | .value run =>
        let v ← Emit.ofEval (Eval.inFilter stage.name (env.callValue run v args))
        env.runStages fuel access (position + 1) stages (← Emit.ofEval (env.resolve fuel v))
      | .remembering memory run =>
        let v ← Emit.ofEval (Eval.inFilter stage.name (callRemembering memory run v args))
        env.runStages fuel access (position + 1) stages (← Emit.ofEval (env.resolve fuel v))
      | .context run =>
        let scopeAccess : ScopeAccess := { lookup := env.lookup, evaluateBinding := env.evaluateBinding fuel }
        match ← Emit.ofEval (Eval.inFilter stage.name (run scopeAccess v args)) with
        | .value v => env.runStages fuel access (position + 1) stages (← Emit.ofEval (env.resolve fuel v))
        | .ignore | .stop => return .ignored
      | .block run =>
        let writing := Emit.inFilter stage.name (run access v args)
        if stages.isEmpty then writing
        else
          let (_, buffer) ← Emit.capture writing
          env.writeChain fuel access buffer stages
        return .written

/-- Whether a stage has a filter that accepts unknown values. -/
def acceptsUnknown (env : Environment) (stage : Stage) : Bool :=
  match env.findFilter stage.name stage.arity with
  | some d => d.acceptsUnknown
  | none => false

/-- Runs the stages on a value that may be missing. -/
def runFrom (env : Environment) (fuel : Nat) (access : BlockAccess) (base : Option Value) (stages : List Stage) :
    Emit Session Outcome := do
  match base with
  | some v => env.runStages fuel access 0 stages (← Emit.ofEval (env.resolve fuel v))
  | none =>
    if stages.any env.acceptsUnknown then env.runStages fuel access 0 stages .null
    else return if stages.isEmpty then .unhandled else .ignored

/-- What comes of a pipeline. -/
def evaluatePipeline (env : Environment) (fuel : Nat) (access : BlockAccess) (initial : Expression)
    (calls : List (FilterCall Expression)) : Emit Session Outcome := do
  let stages := calls.map Stage.ofCall
  match initial with
  | .call call =>
    if (env.findFilter call.name call.args.length).isNone then return .unhandled
    let base ← match call.args with
      | [] => pure (some .null)
      | first :: _ => Emit.ofEval (env.evalExpression fuel first)
    env.runFrom fuel access base (Stage.ofInitial call :: stages)
  | e => env.runFrom fuel access (← Emit.ofEval (env.evalExpression fuel e)) stages

end Environment

end PageTemplates
