import PageTemplates.Evaluation.Pipelines
import PageTemplates.Proofs.Evaluation.Stable

/-!
# How pipelines run

A pipeline comes to a first value, which its stages then take from one to the next. A call in the first place is no special case
once its first argument counts as where the pipeline starts. Main statements: a pipeline is its first value followed by its
stages (`evaluatePipeline_eq`), a stage that writes nothing is followed by the other stages (`runStages_cons`), and the output
of one that writes is passed on (`runStages_block`, `writeChain_block`).
-/

namespace PageTemplates

@[simp]
theorem Emit.throwFault_bind {σ α β : Type} (fault : Fault) (f : α → Emit σ β) :
    (Emit.throwFault fault >>= f) = Emit.throwFault fault := rfl

@[simp]
theorem Emit.fail_bind {σ α β : Type} (e : TemplateError) (f : α → Emit σ β) : (Emit.fail e >>= f) = Emit.fail e := rfl

namespace Environment

variable (env : Environment) (fuel : Nat) (access : BlockAccess)

/-! ## The first value -/

/-- Where a pipeline starts: the expression of its first value, which is null without one, and its stages. There is no start if
the call in the first place has no filter. -/
def start? (initial : Expression) (calls : List (FilterCall Expression)) : Option (Option Expression × List Stage) :=
  match initial with
  | .call call =>
    if (env.findFilter call.name call.args.length).isNone then none
    else some (call.args.head?, Stage.ofInitial call :: calls.map Stage.ofCall)
  | e => some (some e, calls.map Stage.ofCall)

/-- The value of the expression that a pipeline starts with. -/
def baseValue : Option Expression → Emit Session (Option Value)
  | none => return some .null
  | some e => Emit.ofEval (env.evalExpression fuel e)

/-- The value that the first stage gets. A missing value counts as null if a stage accepts unknown values. -/
def resolveBase (stages : List Stage) : Option Value → Emit Session (Option Value)
  | some v => do return some (← Emit.ofEval (env.resolve fuel v))
  | none => return if stages.any env.acceptsUnknown then some .null else none

/-- The first value of a pipeline. -/
def entryValue (first : Option Expression) (stages : List Stage) : Emit Session (Option Value) :=
  env.baseValue fuel first >>= env.resolveBase fuel stages

/-- What comes of the first value. -/
def runEntry (stages : List Stage) : Option Value → Emit Session Outcome
  | some v => env.runStages fuel access 0 stages v
  | none => return if stages.isEmpty then .unhandled else .ignored

theorem runFrom_eq (stages : List Stage) (base : Option Value) :
    env.runFrom fuel access base stages = env.resolveBase fuel stages base >>= env.runEntry fuel access stages := by
  cases base with
  | some v => simp only [runFrom, resolveBase, runEntry, bind_assoc, pure_bind]
  | none =>
    simp only [runFrom, resolveBase, pure_bind]
    cases stages.any env.acceptsUnknown <;> rfl

/-- A pipeline is its first value, followed by its stages if there is one. -/
theorem evaluatePipeline_eq (initial : Expression) (calls : List (FilterCall Expression)) :
    env.evaluatePipeline fuel access initial calls =
      match env.start? initial calls with
      | none => pure .unhandled
      | some (first, stages) => env.entryValue fuel first stages >>= env.runEntry fuel access stages := by
  have hfrom : ∀ first stages, (do env.runFrom fuel access (← env.baseValue fuel first) stages) =
      env.entryValue fuel first stages >>= env.runEntry fuel access stages := by
    intro first stages
    simp only [runFrom_eq, entryValue, bind_assoc]
  cases initial with
  | call call =>
    simp only [evaluatePipeline, start?]
    split
    · rfl
    · simp only
      rw [← hfrom]
      cases call.args <;> rfl
  | literal l => exact hfrom (some _) _
  | binding path => exact hfrom (some _) _
  | array items => exact hfrom (some _) _
  | object entries => exact hfrom (some _) _

/-! ## Stages -/

/-- Whether the filter of a stage writes. -/
def IsBlock (stage : Stage) : Prop :=
  ∃ d run, env.findFilter stage.name stage.arity = some d ∧ d.body = .block run

/-- A stage that does not write hands on what comes of it to the stages after it. -/
theorem runStages_cons {stage : Stage} (h : ¬ env.IsBlock stage) (position : Nat) (stages : List Stage) (v : Value) :
    env.runStages fuel access position (stage :: stages) v = (do
      match ← env.runStages fuel access position [stage] v with
      | .value v => env.runStages fuel access (position + 1) stages v
      | outcome => return outcome) := by
  rw [runStages, runStages]
  cases hd : env.findFilter stage.name stage.arity with
  | none =>
    simp only
    split <;> simp
  | some d =>
    simp only [bind_assoc]
    refine bind_congr fun args => ?_
    cases hb : d.body with
    | value run => simp only [runStages, bind_assoc, pure_bind]
    | remembering memory run => simp only [runStages, bind_assoc, pure_bind]
    | context run =>
      simp only [bind_assoc]
      refine bind_congr fun output => ?_
      cases output with
      | value v => simp only [runStages, bind_assoc, pure_bind]
      | ignore => simp only [pure_bind]
      | stop => simp only [pure_bind]
    | block run => exact absurd ⟨d, run, hd, hb⟩ h

/-- Writes the output of a block filter, or passes it through the stages after it. -/
def passOn (writing : Emit Session Unit) (stages : List Stage) : Emit Session Unit :=
  if stages.isEmpty then writing else Emit.capture writing >>= fun next => env.writeChain fuel access next.2 stages

/-- A stage with a block filter gets the output before it as a text. -/
theorem writeChain_block {stage : Stage} {run : BlockAccess → Value → List Value → Emit Session Unit}
    (hrun : env.blockFilter? stage = some run) (buffer : Bytes) (stages : List Stage) :
    env.writeChain fuel access buffer (stage :: stages) =
      Emit.ofExcept ((Utf8.decode buffer).mapError fun fault => .transform fault.message) >>= fun text =>
        env.stageArgs fuel stage >>= fun args =>
          env.passOn fuel access (Emit.inFilter stage.name (run access (.string text) args)) stages := by
  rw [writeChain, hrun]
  rfl

/-- A stage without a block filter is a transformer of the output before it. -/
theorem writeChain_transformer {stage : Stage} (hrun : env.blockFilter? stage = none) (buffer : Bytes) (stages : List Stage) :
    env.writeChain fuel access buffer (stage :: stages) =
      match env.transformer? stage.name with
      | some transform => Emit.ofExcept (transform buffer) >>= fun next => env.writeChain fuel access next stages
      | none => Emit.fail (.transformerNotFound stage.name) := by
  cases htransformer : env.transformer? stage.name with
  | none => simp only [writeChain, hrun, htransformer]
  | some transform => simp only [writeChain, hrun, htransformer]

/-- A stage with a block filter writes, and the stages after it get its output. -/
theorem runStages_block {stage : Stage} {d : FilterDef} {run : BlockAccess → Value → List Value → Emit Session Unit}
    (hd : env.findFilter stage.name stage.arity = some d) (hrun : d.body = .block run) (position : Nat) (stages : List Stage)
    (v : Value) :
    env.runStages fuel access position (stage :: stages) v =
      env.stageArgs fuel stage >>= fun args =>
        env.passOn fuel access (Emit.inFilter stage.name (run access v args)) stages >>= fun _ => pure .written := by
  rw [runStages, hd]
  refine bind_congr fun args => ?_
  unfold passOn
  simp only [hrun]
  split
  · rfl
  · rw [bind_assoc]

end Environment

end PageTemplates
