import PageTemplates.Proofs.Evaluation.EvaluatedValues
import PageTemplates.Proofs.Evaluation.NestedCalls
import PageTemplates.Proofs.Evaluation.Termination

/-!
# Lazy values

A value that is or holds an expression is lazy: it is evaluated when it is used. Lazy values of a scope may refer to each other,
even in a circle. Filters never see one, and no pipeline gives one. Main statements: what an evaluation comes to keeps the limit
on nesting and applies filters to evaluated values only (`Reaches.nesting`, `Reaches.fit`), and every pipeline without block
filters ends, with an evaluated value if it has one (`evaluatePipeline_lazy`).
-/

namespace PageTemplates

open Emit

namespace Environment

variable {env : Environment}

/-- Stages that hand on values end. -/
theorem settles_runStages {I : Engine → Prop} {k : Nat} (h : env.Settling I) {stages : List Stage}
    (hstages : env.HandsOn stages) (access : Nat → BlockAccess) (position : Nat) (v : Value) :
    Settles I k fun n => env.runStages n (access n) position stages v := by
  induction stages generalizing position v with
  | nil => exact .pure _
  | cons stage stages ih =>
    obtain ⟨hstage, hstages⟩ := List.forall_mem_cons.1 hstages
    rw [funext fun n => runStages_cons env n (access n) hstage position stages v]
    refine (settles_stage h hstage k access position v).bind fun outcome => ?_
    cases outcome with
    | value w => exact ih hstages (position + 1) w
    | ignored | unhandled | written => exact .pure _

/-! ## What a pipeline comes to evaluate -/

/-- What is evaluated in the course of a pipeline. -/
inductive Task where
  | pipeline (initial : Expression) (calls : List (FilterCall Expression))
  | stages (position : Nat) (stages : List Stage) (v : Value)
  | expression (e : Expression)
  | argument (e : Expression)
  | call (call : FilterCall Expression)
  /-- A filter is applied to a value and arguments. -/
  | filter (d : FilterDef) (v : Value) (args : List Value)
  | lookup (name : String)
  | binding (path : String)
  | walk (steps : List (Accessor Expression)) (v : Value)
  | resolve (v : Value)
  | nested (v : Value)

end Environment

/-- A family of computations yields a value and leaves a state. -/
def Emit.Gives {σ α : Type} (x : Nat → Emit σ α) (s : σ) (a : α) (t : σ) : Prop :=
  ∃ r, Yields x s r ∧ r.outcome = .ok a ∧ r.state = t

namespace Environment

/-- What a filter hands on when it is applied in the course of an evaluation. -/
inductive HandedOn (env : Environment) (d : FilterDef) (v : Value) (args : List Value) (s : Session) (w : Value) (t : Session) :
    Prop
  | value {run : ValueFilter} (hbody : d.body = .value run) (hw : Gives (fun _ => ofEval (env.callValue run v args)) s w t)
  | remembering {memory : String} {run : Value → Value → List Value → Except TemplateError (Value × Value)}
      (hbody : d.body = .remembering memory run) (hw : Gives (fun _ => ofEval (callRemembering memory run v args)) s w t)
  | context {run : ScopeAccess → Value → List Value → Eval FilterOutput} (hbody : d.body = .context run)
      (hw : Gives (fun n => ofEval (run { lookup := env.lookup, evaluateBinding := env.evaluateBinding n } v args)) s
        (.value w) t)

/-- One evaluation starts another one: as its first part, or after parts that gave values. A context filter may ask for a name
or a path whatever it did before. -/
inductive Starts (env : Environment) (access : Nat → BlockAccess) : Task → Session → Task → Session → Prop
  -- Pipelines
  | first {initial : Expression} {calls : List (FilterCall Expression)} {e : Expression} {stages : List Stage} {s : Session}
      (hstart : env.start? initial calls = some (some e, stages)) :
      Starts env access (.pipeline initial calls) s (.expression e) s
  | base {initial : Expression} {calls : List (FilterCall Expression)} {first : Option Expression} {stages : List Stage}
      {s t : Session} {v : Value} (hstart : env.start? initial calls = some (first, stages))
      (hv : Gives (fun n => env.baseValue n first) s (some v) t) :
      Starts env access (.pipeline initial calls) s (.resolve v) t
  | stages {initial : Expression} {calls : List (FilterCall Expression)} {first : Option Expression} {stages : List Stage}
      {s t : Session} {v : Value} (hstart : env.start? initial calls = some (first, stages))
      (hv : Gives (fun n => env.entryValue n first stages) s (some v) t) :
      Starts env access (.pipeline initial calls) s (.stages 0 stages v) t
  | stageArgument {position : Nat} {stage : Stage} {stages : List Stage} {v : Value} {d : FilterDef}
      {before after : List Expression} {e : Expression} {values : List Value} {s t : Session}
      (hd : env.findFilter stage.name stage.arity = some d) (hargs : stage.args = before ++ e :: after)
      (hvalues : Gives (fun n => ofEval (before.mapM (env.evalArgument n))) s values t) :
      Starts env access (.stages position (stage :: stages) v) s (.argument e) t
  | stageFilter {position : Nat} {stage : Stage} {stages : List Stage} {v : Value} {d : FilterDef} {args : List Value}
      {s t : Session} (hd : env.findFilter stage.name stage.arity = some d)
      (hargs : Gives (fun n => env.stageArgs n stage) s args t) :
      Starts env access (.stages position (stage :: stages) v) s (.filter d v args) t
  | stageValue {position : Nat} {stage : Stage} {stages : List Stage} {v w : Value} {d : FilterDef} {args : List Value}
      {s t u : Session} (hd : env.findFilter stage.name stage.arity = some d)
      (hargs : Gives (fun n => env.stageArgs n stage) s args t) (hw : env.HandedOn d v args t w u) :
      Starts env access (.stages position (stage :: stages) v) s (.resolve w) u
  | nextStage {position : Nat} {stage : Stage} {stages : List Stage} {v w : Value} {s t : Session}
      (hw : Gives (fun n => env.runStages n (access n) position [stage] v) s (.value w) t) :
      Starts env access (.stages position (stage :: stages) v) s (.stages (position + 1) stages w) t
  -- Expressions
  | path {path : BindingPath Expression} {s : Session} :
      Starts env access (.expression (.binding path)) s (.binding path.text) s
  | item {before after : List Expression} {e : Expression} {values : List (Option Value)} {s t : Session}
      (hvalues : Gives (fun n => ofEval (before.mapM (env.evalExpression n))) s values t) :
      Starts env access (.expression (.array (before ++ e :: after))) s (.expression e) t
  | entry {before after : List (String × Expression)} {name : String} {e : Expression} {values : List (Option Value)}
      {s t : Session} (hvalues : Gives (fun n => ofEval (before.mapM fun entry => env.evalExpression n entry.2)) s values t) :
      Starts env access (.expression (.object (before ++ (name, e) :: after))) s (.expression e) t
  | call {call : FilterCall Expression} {s : Session} : Starts env access (.expression (.call call)) s (.call call) s
  | argument {e : Expression} {s : Session} : Starts env access (.argument e) s (.expression e) s
  | argumentValue {e : Expression} {found : Option Value} {s t : Session}
      (hfound : Gives (fun n => ofEval (env.evalExpression n e)) s found t) :
      Starts env access (.argument e) s (.resolve (found.getD .null)) t
  | callArgument {call : FilterCall Expression} {d : FilterDef} {before after : List Expression} {e : Expression}
      {values : List Value} {s t : Session} (hd : env.findFilter call.name call.args.length = some d)
      (hargs : call.args = before ++ e :: after)
      (hvalues : Gives (fun n => ofEval (before.mapM (env.evalArgument n))) s values t) :
      Starts env access (.call call) s (.argument e) t
  | callFilter {call : FilterCall Expression} {d : FilterDef} {values : List Value} {s t : Session}
      (hd : env.findFilter call.name call.args.length = some d)
      (hvalues : Gives (fun n => ofEval (call.args.mapM (env.evalArgument n))) s values t) :
      Starts env access (.call call) s (.filter d (values.head?.getD .null) values.tail) t
  -- Filters and names
  | askedName {d : FilterDef} {run : ScopeAccess → Value → List Value → Eval FilterOutput} {v : Value} {args : List Value}
      {name : String} {s t : Session} (hbody : d.body = .context run) (ht : Session.Steady Engine.Truthful s t) :
      Starts env access (.filter d v args) s (.lookup name) t
  | askedPath {d : FilterDef} {run : ScopeAccess → Value → List Value → Eval FilterOutput} {v : Value} {args : List Value}
      {path : String} {s t : Session} (hbody : d.body = .context run) (ht : Session.Steady Engine.Truthful s t) :
      Starts env access (.filter d v args) s (.binding path) t
  | filterOfName {name : String} {d : FilterDef} {s : Session} (hbound : env.bound? s.scope name = none)
      (hd : env.findFilterOfKind name 0 .value = some d) : Starts env access (.lookup name) s (.filter d .null []) s
  -- Binding paths
  | head {path : String} {s : Session} :
      Starts env access (.binding path) s (.lookup (String.ofList (splitBinding path.toList).1)) s
  | root {path : String} {v : Value} {s t : Session}
      (hv : Gives (fun _ => ofEval (env.lookup (String.ofList (splitBinding path.toList).1))) s (some v) t) :
      Starts env access (.binding path) s (.resolve v) t
  | rest {path : String} {v root : Value} {steps : List (Accessor Expression)} {s t u w : Session}
      (hv : Gives (fun _ => ofEval (env.lookup (String.ofList (splitBinding path.toList).1))) s (some v) t)
      (hroot : Gives (fun n => ofEval (env.resolve n v)) t root u)
      (hsteps : Gives (fun _ => ofEval (env.binder root.kind path (String.ofList (splitBinding path.toList).2))) u
        (.walk steps) w) :
      Starts env access (.binding path) s (.walk steps root) w
  | place {steps : List (Accessor Expression)} {v : Value} {s : Session} : Starts env access (.walk steps v) s (.resolve v) s
  | key {e : Expression} {steps : List (Accessor Expression)} {v w : Value} {s t : Session}
      (hw : Gives (fun n => ofEval (env.resolve n v)) s w t) :
      Starts env access (.walk (.index e :: steps) v) s (.argument e) t
  | member {name : String} {steps : List (Accessor Expression)} {v w : Value} {s t : Session}
      (hw : Gives (fun n => ofEval (env.resolve n v)) s w t) :
      Starts env access (.walk (.member name :: steps) v) s (.walk steps (w.member name)) t
  | index {e : Expression} {steps : List (Accessor Expression)} {v w key : Value} {s t u : Session}
      (hw : Gives (fun n => ofEval (env.resolve n v)) s w t) (hkey : Gives (fun n => ofEval (env.evalArgument n e)) t key u) :
      Starts env access (.walk (.index e :: steps) v) s (.walk steps (w.index key)) u
  -- Lazy values
  | enter {v : Value} {s t : Session} (hv : v.hasExpression = true) (ht : Gives (fun _ => ofEval env.enterNested) s () t) :
      Starts env access (.resolve v) s (.nested v) t
  | lazy {e : Expression} {s : Session} : Starts env access (.nested (.expression e)) s (.expression e) s
  | lazyValue {e : Expression} {found : Option Value} {s t : Session}
      (hfound : Gives (fun n => ofEval (env.evalExpression n e)) s found t) :
      Starts env access (.nested (.expression e)) s (.resolve (found.getD .null)) t
  | inArray {before after : List Value} {v : Value} {values : List Value} {s t : Session}
      (hvalues : Gives (fun n => ofEval (before.mapM (env.resolve n))) s values t) :
      Starts env access (.nested (.array (before ++ v :: after))) s (.resolve v) t
  | inObject {before after : List (String × Value)} {name : String} {v : Value} {values : List Value} {s t : Session}
      (hvalues : Gives (fun n => ofEval (before.mapM fun field => env.resolve n field.2)) s values t) :
      Starts env access (.nested (.object (before ++ (name, v) :: after))) s (.resolve v) t

/-- An evaluation comes to another one, which it starts or which is started by one that it comes to. -/
inductive Reaches (env : Environment) (access : Nat → BlockAccess) (a : Task) (s : Session) : Task → Session → Prop
  | refl : Reaches env access a s a s
  | tail {b c : Task} {t u : Session} (hreaches : Reaches env access a s b t) (hstarts : env.Starts access b t c u) :
      Reaches env access a s c u

/-- What an evaluation starts with is as it has to be: stages hand on values, and what they start with and what a filter is
applied to holds no expression. -/
def Task.Fit (env : Environment) : Task → Prop
  | .pipeline initial calls => ∀ first rest, env.start? initial calls = some (first, rest) → env.HandsOn rest
  | .stages _ rest v => env.HandsOn rest ∧ v.hasExpression = false
  | .filter _ v args => v.hasExpression = false ∧ ∀ arg ∈ args, arg.hasExpression = false
  | _ => True

end Environment

theorem Emit.Steady.ofEval_mapM {α β : Type} {I : Engine → Prop} {f : α → Eval β} (as : List α)
    (hf : ∀ a, Emit.Steady I (ofEval (f a))) : Emit.Steady I (ofEval (as.mapM f)) := by
  rw [PageTemplates.Emit.ofEval_mapM]
  exact Emit.Steady.mapM as hf

theorem Emit.Gives.steady {α : Type} {I : Engine → Prop} {x : Nat → Emit Session α} {s t : Session} {a : α}
    (h : Gives x s a t) (hx : ∀ n, Emit.Steady I (x n)) : Session.Steady I s t := by
  obtain ⟨r, hr, -, rfl⟩ := h
  exact hr.steady hx

theorem Emit.Gives.returns {σ α : Type} {P : α → Prop} {x : Nat → Emit σ α} {s t : σ} {a : α} (h : Gives x s a t)
    (hx : ∀ n, Returns P (x n)) : P a := by
  obtain ⟨r, hr, ha, -⟩ := h
  obtain ⟨n, hn⟩ := hr.eventually
  exact hx n s a (hn n (Nat.le_refl n) ▸ ha)

namespace Environment

variable {env : Environment} {access : Nat → BlockAccess} {a b : Task} {s t : Session}

theorem HandedOn.steady {I : Engine → Prop} (h : env.Maintains I) {d : FilterDef} {v : Value} {args : List Value} {w : Value}
    {name : String} {arity : Nat} (hd : env.findFilter name arity = some d) (hw : env.HandedOn d v args s w t) :
    Session.Steady I s t := by
  cases hw with
  | value hbody hw => exact hw.steady fun _ => Emit.Steady.ofExceptEval _
  | remembering hbody hw => exact hw.steady fun _ => steady_callRemembering h _ _ _ _
  | context hbody hw =>
    have hcontext := h.context _ _ d hd (congrArg FilterBody.kind hbody)
    rw [hbody] at hcontext
    exact hw.steady fun n => hcontext _ ((steadyAt h n).access h) v args

/-- An evaluation starts in the scope of the one that starts it, or it begins to evaluate a lazy value. -/
theorem Starts.session (h : env.Maintains Engine.Truthful) (hfit : a.Fit env) (hstarts : env.Starts access a s b t) :
    Session.Steady Engine.Truthful s t ∨ Gives (fun _ => ofEval env.enterNested) s () t := by
  have harguments : ∀ n (es : List Expression), Emit.Steady Engine.Truthful (ofEval (es.mapM (env.evalArgument n))) :=
    fun n es => .ofEval_mapM es (steadyAt h n).argument
  have hexpression : ∀ n e, Emit.Steady Engine.Truthful (ofEval (env.evalExpression n e)) := fun n => (steadyAt h n).expression
  have hresolve : ∀ n v, Emit.Steady Engine.Truthful (ofEval (env.resolve n v)) := fun n => (steadyAt h n).resolve
  cases hstarts with
  | first | path | call | argument | filterOfName | head | place | lazy => exact .inl (.refl s)
  | askedName hbody ht | askedPath hbody ht => exact .inl ht
  | enter hv ht => exact .inr ht
  | base hstart hv => exact .inl (hv.steady fun n => steady_baseValue h n _)
  | stages hstart hv => exact .inl (hv.steady fun n => steady_entryValue h n _ _)
  | stageArgument hd hargs hvalues | callArgument hd hargs hvalues => exact .inl (hvalues.steady fun n => harguments n _)
  | stageFilter hd hargs => exact .inl (hargs.steady fun n => steady_stageArgs h n _)
  | stageValue hd hargs hw => exact .inl ((hargs.steady fun n => steady_stageArgs h n _).trans (hw.steady h hd))
  | nextStage hw => exact .inl (hw.steady fun n => steady_stage h (hfit.1 _ List.mem_cons_self) n (access n) _ _)
  | callFilter hd hvalues => exact .inl (hvalues.steady fun n => harguments n _)
  | item hvalues => exact .inl (hvalues.steady fun n => .ofEval_mapM _ (hexpression n))
  | entry hvalues => exact .inl (hvalues.steady fun n => .ofEval_mapM _ fun entry => hexpression n entry.2)
  | argumentValue hfound | lazyValue hfound => exact .inl (hfound.steady fun n => hexpression n _)
  | root hv => exact .inl (hv.steady fun _ => steady_lookup h _)
  | rest hv hroot hsteps =>
    have hnamed := hv.steady fun _ => steady_lookup h _
    exact .inl ((hnamed.trans (hroot.steady fun n => hresolve n _)).trans (hsteps.steady fun _ => steady_binder h _ _ _))
  | key hw | member hw => exact .inl (hw.steady fun n => hresolve n _)
  | index hw hkey => exact .inl ((hw.steady fun n => hresolve n _).trans (hkey.steady fun n => (steadyAt h n).argument _))
  | inArray hvalues => exact .inl (hvalues.steady fun n => .ofEval_mapM _ (hresolve n))
  | inObject hvalues => exact .inl (hvalues.steady fun n => .ofEval_mapM _ fun field => hresolve n field.2)

/-- **Steps.** What an evaluation starts is fit if the evaluation is. -/
theorem Starts.fit (hfit : a.Fit env) (hstarts : env.Starts access a s b t) : b.Fit env := by
  have harguments : ∀ n (es : List Expression), Returns (fun values : List Value => ∀ v ∈ values, v.hasExpression = false)
      (ofEval (es.mapM (env.evalArgument n))) := fun n es => .ofEval_mapM es (returns_evalArgument n)
  cases hstarts with
  | stages hstart hv => exact ⟨hfit _ _ hstart, hv.returns (fun n => returns_entryValue n _ _) _ rfl⟩
  | nextStage hw =>
    obtain ⟨hhandsOn, -⟩ := hfit
    obtain ⟨hstage, hrest⟩ := List.forall_mem_cons.1 hhandsOn
    exact ⟨hrest, hw.returns fun n => returns_stage hstage n (access n) _ _⟩
  | stageFilter hd hargs => exact ⟨hfit.2, hargs.returns fun n => returns_stageArgs n _⟩
  | @callFilter _ _ values _ _ hd hvalues =>
    have hall := hvalues.returns fun n => harguments n _
    refine ⟨?_, fun arg harg => hall arg (List.mem_of_mem_tail harg)⟩
    cases values with
    | nil => rfl
    | cons v values => exact hall v List.mem_cons_self
  | filterOfName => exact ⟨rfl, by simp⟩
  | _ => trivial

/-- **Steps.** An evaluation within the limit on nesting starts evaluations within the limit. -/
theorem Starts.nesting (h : env.Maintains Engine.Truthful) (hfit : a.Fit env) (hstarts : env.Starts access a s b t)
    (hnesting : s.scope.nesting ≤ env.site.settings.maxNestedEvaluationDepth) :
    t.scope.nesting ≤ env.site.settings.maxNestedEvaluationDepth := by
  rcases hstarts.session h hfit with ht | ⟨r, hr, hok, rfl⟩
  · exact ht.nesting ▸ hnesting
  · obtain ⟨n, hn⟩ := hr.eventually
    have hrun := (hn n (Nat.le_refl n)).symm.trans (run_enterNested env s)
    by_cases hlimit : env.site.settings.maxNestedEvaluationDepth ≤ s.scope.nesting
    · rw [if_pos hlimit] at hrun
      rw [hrun] at hok
      cases hok
    · rw [if_neg hlimit] at hrun
      rw [hrun]
      exact Nat.lt_of_not_le hlimit

/-- **Runs.** Whatever an evaluation comes to is fit. -/
theorem Reaches.fit (hreaches : env.Reaches access a s b t) (hfit : a.Fit env) : b.Fit env := by
  induction hreaches with
  | refl => exact hfit
  | tail hreaches hstarts ih => exact hstarts.fit ih

/-- **Runs.** Whatever an evaluation within the limit on nesting comes to is within the limit. -/
theorem Reaches.nesting (h : env.Maintains Engine.Truthful) (hreaches : env.Reaches access a s b t) (hfit : a.Fit env)
    (hnesting : s.scope.nesting ≤ env.site.settings.maxNestedEvaluationDepth) :
    t.scope.nesting ≤ env.site.settings.maxNestedEvaluationDepth := by
  induction hreaches with
  | refl => exact hnesting
  | tail hreaches hstarts ih => exact hstarts.nesting h (hreaches.fit hfit) ih

/-- A pipeline without block filters ends. -/
theorem settles_evaluatePipeline {I : Engine → Prop} {k : Nat} (h : env.Settling I) {initial : Expression}
    {calls : List (FilterCall Expression)}
    (hhandsOn : ∀ first stages, env.start? initial calls = some (first, stages) → env.HandsOn stages)
    (access : Nat → BlockAccess) : Settles I k fun n => env.evaluatePipeline n (access n) initial calls := by
  simp only [evaluatePipeline_eq]
  cases hstart : env.start? initial calls with
  | none => exact .pure _
  | some start =>
    refine (settles_entryValue h _ start.1 start.2).bind fun found => ?_
    cases found with
    | some v => exact settles_runStages h (hhandsOn _ _ hstart) access 0 v
    | none => exact .pure _

/-- **Lazy values.** A pipeline without block filters, with the usual compiler of paths and the built-in context filters, ends
whatever the values of the scope refer to, in a session whose caches tell the truth. If it has a value, that holds no expression.
Every filter that it comes to, its own or one of an expression inside, is applied to a value and arguments without expressions,
so it is the same if filters fail on others. The count of nested evaluations is as before in the end, whether there was a value
or an error, and it never exceeds the limit if it does not before. -/
theorem evaluatePipeline_lazy (henv : env.Ordinary) (access : Nat → BlockAccess) {initial : Expression}
    {calls : List (FilterCall Expression)}
    (hhandsOn : ∀ first stages, env.start? initial calls = some (first, stages) → env.HandsOn stages)
    (hs : s.engine.Truthful) :
    ∃ r, Yields (fun n => env.evaluatePipeline n (access n) initial calls) s r ∧
      (∀ v, r.outcome = .ok (.value v) → v.hasExpression = false) ∧
      (∀ d v args t, env.Reaches access (.pipeline initial calls) s (.filter d v args) t →
        v.hasExpression = false ∧ ∀ arg ∈ args, arg.hasExpression = false) ∧
      (∀ e n, (env.strict e).evaluatePipeline n (access n) initial calls = env.evaluatePipeline n (access n) initial calls) ∧
      r.state.scope.nesting = s.scope.nesting ∧
      (s.scope.nesting ≤ env.site.settings.maxNestedEvaluationDepth →
        ∀ task t, env.Reaches access (.pipeline initial calls) s task t →
          t.scope.nesting ≤ env.site.settings.maxNestedEvaluationDepth) := by
  have hmaintains := henv.settling_truthful.maintains
  have hfit : (Task.pipeline initial calls).Fit env := hhandsOn
  have hsettles := settles_evaluatePipeline (k := s.scope.nesting) henv.settling_truthful hhandsOn access
  obtain ⟨r, hr⟩ := hsettles.ends s hs rfl
  refine ⟨r, hr, fun v hv => ?_, fun d v args t hreaches => hreaches.fit hfit,
    fun e n => evaluatePipeline_strict hhandsOn (access n), (hr.steady hsettles.steady).nesting,
    fun hnesting task t hreaches => hreaches.nesting hmaintains hfit hnesting⟩
  have hevaluated : Outcome.Evaluated (.value v) :=
    Gives.returns ⟨r, hr, hv, rfl⟩ fun n => returns_evaluatePipeline hhandsOn n (access n)
  exact hevaluated

/-- A render with two lazy values that refer to each other, one of them inside an array. -/
def circlePlan : RenderPlan where
  page := { kind := .page, key := "circle" }
  args := [("left", .expression (.binding (.ofName "right"))), ("right", .array [.expression (.binding (.ofName "left"))])]

/-- Its environment on a site with the built-in filters. -/
def circleEnvironment : Environment :=
  circlePlan.environment (Site.build { maxNestedEvaluationDepth := 3 })

/-- The pipeline `left | length` goes around in the circle as often as the settings allow. -/
theorem evaluatePipeline_lazy_circle :
    (circleEnvironment.Ordinary ∧
      (∀ first stages, circleEnvironment.start? (.binding (.ofName "left")) [{ name := "length", args := [] }] =
        some (first, stages) → circleEnvironment.HandsOn stages) ∧
      emptyPageSession.engine.Truthful) ∧
    ∃ r, Yields (fun n => circleEnvironment.evaluatePipeline n (circleEnvironment.access n) (.binding (.ofName "left"))
        [{ name := "length", args := [] }]) emptyPageSession r ∧
      r.error? = some (.invalidArgument "nested expressions exceed the maximum depth of 3") ∧ r.state.scope.nesting = 0 := by
  have henv : circleEnvironment.Ordinary :=
    ((Site.standard_build fun _ hd => absurd hd List.not_mem_nil).environment fun _ hd => absurd hd List.not_mem_nil).ordinary
  have hkind : (circleEnvironment.findFilter "length" 1).map FilterDef.kind = some .value := by decide +kernel
  have hhandsOn : ∀ first stages, circleEnvironment.start? (.binding (.ofName "left")) [{ name := "length", args := [] }] =
      some (first, stages) → circleEnvironment.HandsOn stages := by
    intro first stages hstart
    obtain ⟨-, rfl⟩ := Prod.mk.inj (Option.some.inj hstart)
    refine List.forall_mem_singleton.2 ?_
    rintro ⟨d, run, hd, hrun⟩
    rw [show circleEnvironment.findFilter "length" 1 = some d from hd, Option.map_some, FilterDef.kind, hrun] at hkind
    cases hkind
  have hs : emptyPageSession.engine.Truthful := by
    refine ⟨fun kind rest b hget => ?_, fun kind text entry hget => ?_⟩
    · cases hget
    · cases hget
  obtain ⟨r, hr, -, -, -, hnesting, -⟩ := evaluatePipeline_lazy henv circleEnvironment.access hhandsOn hs
  refine ⟨⟨henv, hhandsOn, hs⟩, r, hr, ?_, hnesting⟩
  have hrun : ((circleEnvironment.evaluatePipeline 30 (circleEnvironment.access 30) (.binding (.ofName "left"))
      [{ name := "length", args := [] }]).run emptyPageSession).error? =
        some (.invalidArgument "nested expressions exceed the maximum depth of 3") := by decide +kernel
  rcases hr.same 30 with hexhausted | hsame
  · rw [Emission.error?_eq_some.1 hrun] at hexhausted
    cases hexhausted
  · rw [← hsame]
    exact hrun

end Environment

end PageTemplates
