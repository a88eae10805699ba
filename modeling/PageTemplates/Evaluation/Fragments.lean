import PageTemplates.Evaluation.Pipelines

/-!
# Writing fragments

Text is written as it is, and an expression as its value in the encoding of the page's format. An expression that failed is
replaced by the fallback of the format if there is one and the error allows it. Block filters write more fragments inside; the
first argument of `writeFragments` bounds how deep.
-/

namespace PageTemplates.Environment

/-- The text of an outcome, if it has any. -/
def outcomeText? (env : Environment) (format : PageFormat) (v : Variable) : Outcome → Option String
  | .value .null => none
  | .value value => some (format.encode value)
  | .ignored => none
  | .unhandled => some (env.site.unhandledText v)
  | .written => none

/-- The outcome in place of a fault: the fallback of the format for a recoverable error. -/
def recover (env : Environment) (format : PageFormat) : Except Fault Outcome → Emit Session Outcome
  | .ok outcome => pure outcome
  | .error .exhausted => Emit.throwFault .exhausted
  | .error (.error e) =>
    match if e.isRecoverable then format.fallback env.site.settings e else none with
    | some value => pure (.value value)
    | none => Emit.fail e

/-- Writes an expression. -/
def writeVariable (env : Environment) (fuel : Nat) (access : BlockAccess) (v : Variable) : Emit Session Unit := do
  let outcome ← Emit.attempt (env.evaluatePipeline fuel access v.initial v.stages)
  let format := (← Emit.ofEval Eval.scope).format
  match env.outcomeText? format v (← env.recover format outcome) with
  | some text => Emit.writeText text
  | none => pure ()

/-- Writes a fragment. -/
def writeFragment (env : Environment) (fuel : Nat) (access : BlockAccess) : Fragment → Emit Session Unit
  | .text s => Emit.writeText s
  | .var v => env.writeVariable fuel access v

/-- The page that a partial of a name means: first in the directory of the page being written, then from the root. -/
def partialPage (env : Environment) (page name : String) : Load PageId := do
  match if name.toList.head? = some '/' then none else (Path.parent? page).filter (!·.isEmpty) with
  | none => env.site.requirePage name
  | some directory =>
    match ← env.site.getPage (Path.join directory name) with
    | some id => return id
    | none => env.site.requirePage name

/-- Writes a page in a child of the scope with more locals. Partials nest only as deep as the settings allow. -/
def writePartial (env : Environment) (write : List Fragment → Emit Session Unit) (name : String) (locals : Table Value) :
    Emit Session Unit := do
  let scope ← Emit.ofEval Eval.scope
  let limit := env.site.settings.maxPartialDepth
  if limit ≤ scope.depth then Emit.fail (.recursivePartial name limit)
  else
    let id ← Emit.ofEval (Eval.ofLoad (env.partialPage scope.page.path name))
    match (← Emit.ofEval get).engine.page? id with
    | some { content := some content, format, .. } =>
      let child := scope.child content format
      Emit.withScope { child with locals := Table.insertAll child.locals locals } (write content.fragments)
    | _ => Emit.fail (.notInitialized .page)

/-- Writes fragments, one after the other. -/
def writeFragments (env : Environment) : Nat → List Fragment → Emit Session Unit
  | 0, _ => Emit.throwFault .exhausted
  | fuel + 1, fragments => do
    let access : BlockAccess :=
      { writeFragments := env.writeFragments fuel, writePartial := env.writePartial (env.writeFragments fuel) }
    fragments.forM (env.writeFragment fuel access)

/-- What block filters can ask of the writing. -/
def access (env : Environment) (fuel : Nat) : BlockAccess where
  writeFragments := env.writeFragments fuel
  writePartial := env.writePartial (env.writeFragments fuel)

theorem writeFragments_succ (env : Environment) (fuel : Nat) (fragments : List Fragment) :
    env.writeFragments (fuel + 1) fragments = fragments.forM (env.writeFragment fuel (env.access fuel)) := rfl

end PageTemplates.Environment
