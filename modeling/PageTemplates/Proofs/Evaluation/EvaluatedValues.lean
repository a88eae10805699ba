import PageTemplates.Proofs.Evaluation.Bounds
import PageTemplates.Proofs.Evaluation.Fragments
import PageTemplates.Proofs.Evaluation.Pipelines

/-!
# Evaluated values

Evaluating leaves no expression inside a value: what is resolved, what an argument stands for, what the stages of a pipeline
take on, and so what filters are applied to. Main statements: a pipeline without block filters has a value without expressions,
if it has one (`returns_evaluatePipeline`), and it would not notice if all filters failed on values with expressions
(`evaluatePipeline_strict`).
-/

namespace PageTemplates

open Emit

/-! ## Values without expressions -/

theorem Value.anyHasExpression_eq_false {vs : List Value} :
    Value.anyHasExpression vs = false ↔ ∀ v ∈ vs, v.hasExpression = false := by
  induction vs with
  | nil => simp [Value.anyHasExpression]
  | cons v vs ih => simp only [Value.anyHasExpression, Bool.or_eq_false_iff, ih, List.forall_mem_cons]

theorem Value.fieldsHaveExpression_eq_false {fields : List (String × Value)} :
    Value.fieldsHaveExpression fields = false ↔ ∀ field ∈ fields, field.2.hasExpression = false := by
  induction fields with
  | nil => simp [Value.fieldsHaveExpression]
  | cons field fields ih => simp only [Value.fieldsHaveExpression, Bool.or_eq_false_iff, ih, List.forall_mem_cons]

/-- An outcome that is no value with an expression in it. -/
def Outcome.Evaluated : Outcome → Prop
  | .value v => v.hasExpression = false
  | .ignored | .unhandled | .written => True

namespace Emit

variable {σ α β : Type} {P : α → Prop} {Q : β → Prop}

/-- Every value that a computation gives has a property. -/
def Returns (P : α → Prop) (x : Emit σ α) : Prop :=
  ∀ s a, (x.run s).outcome = .ok a → P a

namespace Returns

theorem pure {a : α} (ha : P a) : Returns P (Pure.pure a : Emit σ α) := by
  intro s b hb
  obtain rfl : a = b := Except.ok.inj hb
  exact ha

theorem throwFault (fault : Fault) : Returns P (Emit.throwFault fault : Emit σ α) :=
  fun _ _ h => nomatch h

theorem fail (e : TemplateError) : Returns P (Emit.fail e : Emit σ α) :=
  throwFault _

theorem ofExceptEval {P : α → Prop} {r : Except TemplateError α} (h : ∀ a, r = .ok a → P a) :
    Returns P (ofEval (Eval.ofExcept r)) := by
  cases r with
  | ok a => exact pure (h a rfl)
  | error e => exact fail e

theorem inFilter {x : Emit σ α} (name : String) (hx : Returns P x) : Returns P (Emit.inFilter name x) := by
  intro s a ha
  change ((x.run s).outcome.mapError (Fault.inFilter name)) = .ok a at ha
  cases hr : (x.run s).outcome with
  | error fault =>
    rw [hr] at ha
    cases ha
  | ok b =>
    rw [hr] at ha
    obtain rfl : b = a := Except.ok.inj ha
    exact hx s b hr

theorem and {x : Emit σ α} {P' : α → Prop} (h : Returns P x) (h' : Returns P' x) : Returns (fun a => P a ∧ P' a) x :=
  fun s a ha => ⟨h s a ha, h' s a ha⟩

/-- What comes after a computation may count on the property of its values. -/
theorem bind {x : Emit σ α} {f : α → Emit σ β} (hx : Returns P x) (hf : ∀ a, P a → Returns Q (f a)) : Returns Q (x >>= f) := by
  intro s b hb
  cases hr : (x.run s).outcome with
  | error fault =>
    rw [Stable.run_bind_error hr] at hb
    cases hb
  | ok a =>
    rw [Stable.run_bind_ok hr] at hb
    exact hf a (hx s a hr) _ b hb

theorem after {x : Emit σ α} {f : α → Emit σ β} (hf : ∀ a, Returns Q (f a)) : Returns Q (x >>= f) := by
  have hx : Returns (fun _ => True) x := fun _ _ _ => trivial
  exact hx.bind fun a _ => hf a

theorem mapM {f : α → Emit σ β} (as : List α) (hf : ∀ a, Returns Q (f a)) :
    Returns (fun bs => ∀ b ∈ bs, Q b) (as.mapM f) := by
  induction as with
  | nil => exact pure (by simp)
  | cons a as ih =>
    rw [List.mapM_cons]
    exact (hf a).bind fun b hb => ih.bind fun bs hbs => pure (List.forall_mem_cons.2 ⟨hb, hbs⟩)

theorem ofEval_mapM {f : α → Eval β} (as : List α) (hf : ∀ a, Returns Q (ofEval (f a))) :
    Returns (fun bs => ∀ b ∈ bs, Q b) (ofEval (as.mapM f)) := by
  rw [Emit.ofEval_mapM]
  exact mapM as hf

theorem resume {r : Except Fault α} (h : ∀ a, r = .ok a → P a) : Returns P (Emit.resume r : Emit σ α) := by
  cases r with
  | ok a => exact pure (h a rfl)
  | error fault => exact throwFault fault

theorem attempt {x : Emit σ α} (hx : Returns P x) : Returns (fun r => ∀ a, r = .ok a → P a) (Emit.attempt x) := by
  intro s r hr a ha
  obtain rfl : (x.run s).outcome = r := Except.ok.inj hr
  exact hx s a ha

/-- What comes after a computation depends on values with the property only. -/
theorem bind_congr {x : Emit σ α} {f g : α → Emit σ β} (hx : Returns P x) (h : ∀ a, P a → f a = g a) : x >>= f = x >>= g := by
  ext s : 2
  cases hr : (x.run s).outcome with
  | error fault => rw [Stable.run_bind_error hr, Stable.run_bind_error hr]
  | ok a => rw [Stable.run_bind_ok hr, Stable.run_bind_ok hr, h a (hx s a hr)]

end Returns

theorem ofEval_injective {α : Type} {x y : Eval α} (h : ofEval x = ofEval y) : x = y := by
  refine ExceptT.ext (StateT.ext fun s => ?_)
  have hrun := congrArg (fun z : Emit Session α => z.run s) h
  exact Prod.ext (congrArg Emission.outcome hrun) (congrArg Emission.state hrun)

end Emit

namespace Environment

variable {env : Environment}

/-- Resolving gives values without expressions. -/
theorem returns_resolve (fuel : Nat) (v : Value) :
    Returns (fun w : Value => w.hasExpression = false) (ofEval (env.resolve fuel v)) := by
  suffices h : (∀ v, Returns (fun w : Value => w.hasExpression = false) (ofEval (env.resolve fuel v))) ∧
      ∀ v, Returns (fun w : Value => w.hasExpression = false) (ofEval (env.resolveNested fuel v)) from h.1 v
  induction fuel with
  | zero => exact ⟨fun _ => .throwFault _, fun _ => .throwFault _⟩
  | succ fuel ih =>
    obtain ⟨hresolve, hnested⟩ := ih
    refine ⟨fun v => ?_, fun v => ?_⟩
    · rw [Environment.resolve]
      cases hv : v.hasExpression with
      | false => exact .pure hv
      | true =>
        simp only [Bool.not_true, Bool.false_eq_true, if_false, ofEval_bind, ofEval_attempt, ofEval_resume]
        exact .after fun _ => (hnested v).attempt.bind fun outcome houtcome => .after fun _ => .resume houtcome
    · cases v with
      | expression e =>
        simp only [Environment.resolveNested, ofEval_bind]
        exact .after fun v => hresolve _
      | array items =>
        simp only [Environment.resolveNested, ofEval_bind, ofEval_mapM]
        exact (Returns.mapM items hresolve).bind fun items hitems => .pure (Value.anyHasExpression_eq_false.2 hitems)
      | object fields =>
        simp only [Environment.resolveNested, ofEval_bind, ofEval_mapM]
        have hfield : ∀ field : String × Value, Returns (fun given : String × Value => given.2.hasExpression = false)
            (ofEval (env.resolve fuel field.2) >>= fun v => ofEval (pure (field.1, v))) := fun field =>
          (hresolve field.2).bind fun v hv => .pure hv
        exact (Returns.mapM fields hfield).bind fun fields hfields => .pure (Value.fieldsHaveExpression_eq_false.2 hfields)
      | null | bool b | int i | float x | string s | raw s => exact .pure rfl

/-- A value without expressions is what it is resolved to. -/
theorem returns_resolve_self (fuel : Nat) {v : Value} (hv : v.hasExpression = false) :
    Returns (· = v) (ofEval (env.resolve fuel v)) := by
  cases fuel with
  | zero => exact .throwFault _
  | succ fuel =>
    rw [Environment.resolve, if_pos (by rw [hv]; rfl)]
    exact .pure rfl

theorem returns_evalArgument (fuel : Nat) (e : Expression) :
    Returns (fun w : Value => w.hasExpression = false) (ofEval (env.evalArgument fuel e)) := by
  cases fuel with
  | zero => exact .throwFault _
  | succ fuel =>
    simp only [evalArgument, ofEval_bind]
    exact .after fun v => returns_resolve fuel _

theorem returns_stageArgs (fuel : Nat) (stage : Stage) :
    Returns (fun args : List Value => ∀ arg ∈ args, arg.hasExpression = false) (env.stageArgs fuel stage) := by
  unfold stageArgs
  exact .ofEval_mapM stage.args (returns_evalArgument fuel)

/-- The first value of a pipeline holds no expression. -/
theorem returns_entryValue (fuel : Nat) (first : Option Expression) (stages : List Stage) :
    Returns (fun found : Option Value => ∀ v, found = some v → v.hasExpression = false) (env.entryValue fuel first stages) := by
  refine .after fun base => ?_
  cases base with
  | some v =>
    refine (returns_resolve fuel v).bind fun w hw => .pure fun w' hw' => ?_
    obtain rfl := Option.some.inj hw'
    exact hw
  | none =>
    refine .pure fun v hv => ?_
    split at hv
    · obtain rfl := Option.some.inj hv
      rfl
    · cases hv

/-- What a stage hands on holds no expression. -/
theorem returns_stage {stage : Stage} (hnot : ¬ env.IsBlock stage) (fuel : Nat) (access : BlockAccess) (position : Nat)
    (v : Value) :
    Returns Outcome.Evaluated (env.runStages fuel access position [stage] v) := by
  have hnext : ∀ v, Returns Outcome.Evaluated (do
      env.runStages fuel access (position + 1) [] (← ofEval (env.resolve fuel v))) := fun v =>
    (returns_resolve fuel v).bind fun w hw => .pure hw
  rw [runStages]
  cases hd : env.findFilter stage.name stage.arity with
  | none =>
    simp only
    split
    · exact .pure trivial
    · exact .fail _
  | some d =>
    refine .after fun args => ?_
    cases hb : d.body with
    | value run => exact .after hnext
    | remembering memory run => exact .after hnext
    | context run =>
      refine .after fun output => ?_
      cases output with
      | value v => exact hnext v
      | ignore => exact .pure trivial
      | stop => exact .pure trivial
    | block run => exact absurd ⟨d, run, hd, hb⟩ hnot

/-- A pipeline without block filters: its stages hand on values. -/
def HandsOn (env : Environment) (stages : List Stage) : Prop :=
  ∀ stage ∈ stages, ¬ env.IsBlock stage

/-- What such stages give holds no expression, if the value does not that they start with. -/
theorem returns_runStages {stages : List Stage} (hstages : env.HandsOn stages) (fuel : Nat) (access : BlockAccess)
    (position : Nat) {v : Value} (hv : v.hasExpression = false) :
    Returns Outcome.Evaluated (env.runStages fuel access position stages v) := by
  induction stages generalizing position v with
  | nil => exact .pure hv
  | cons stage stages ih =>
    obtain ⟨hstage, hstages⟩ := List.forall_mem_cons.1 hstages
    rw [runStages_cons _ _ _ hstage]
    refine (returns_stage hstage fuel access position v).bind fun outcome houtcome => ?_
    cases outcome with
    | value w => exact ih hstages (position + 1) houtcome
    | ignored | unhandled | written => exact .pure trivial

/-- A pipeline without block filters has a value without expressions, if it has one. -/
theorem returns_evaluatePipeline {initial : Expression} {calls : List (FilterCall Expression)}
    (hhandsOn : ∀ first stages, env.start? initial calls = some (first, stages) → env.HandsOn stages) (fuel : Nat)
    (access : BlockAccess) :
    Returns Outcome.Evaluated (env.evaluatePipeline fuel access initial calls) := by
  rw [evaluatePipeline_eq]
  cases hstart : env.start? initial calls with
  | none => exact .pure trivial
  | some start =>
    refine (returns_entryValue fuel start.1 start.2).bind fun found hfound => ?_
    cases found with
    | some v => exact returns_runStages (hhandsOn _ _ hstart) fuel access 0 (hfound v rfl)
    | none =>
      refine .pure ?_
      split <;> trivial

end Environment

/-! ## Filters that fail on expressions -/

/-- What a filter does, except that it fails if its value or an argument is or holds an expression. -/
def FilterBody.strict (e : TemplateError) : FilterBody → FilterBody
  | .value run => .value fun surroundings v args =>
    if Value.anyHasExpression (v :: args) then .error e else run surroundings v args
  | .remembering memory run => .remembering memory fun remembered v args =>
    if Value.anyHasExpression (v :: args) then .error e else run remembered v args
  | .context run => .context fun access v args =>
    if Value.anyHasExpression (v :: args) then Eval.fail e else run access v args
  | .block run => .block fun access v args =>
    if Value.anyHasExpression (v :: args) then Emit.fail e else run access v args

/-- The filter that fails on expressions. -/
def FilterDef.strict (e : TemplateError) (d : FilterDef) : FilterDef :=
  { d with body := d.body.strict e }

/-- The filters that fail on expressions. -/
def FilterRegistry.strict (e : TemplateError) (r : FilterRegistry) : FilterRegistry where
  defs := r.defs.map (·.strict e)

/-- The environment whose filters fail on expressions. -/
def Environment.strict (e : TemplateError) (env : Environment) : Environment :=
  { env with filters := env.filters.strict e, site := { env.site with filters := env.site.filters.strict e } }

theorem FilterDef.answers_strict (e : TemplateError) (d : FilterDef) (kind : FilterKind) (name : String) (arity : Nat) :
    (d.strict e).answers kind name arity = d.answers kind name arity := by
  have hkind : (d.strict e).kind = d.kind := by
    unfold FilterDef.kind FilterDef.strict
    cases d.body <;> rfl
  unfold FilterDef.answers
  rw [hkind]
  rfl

theorem FilterRegistry.find?_strict (e : TemplateError) (r : FilterRegistry) (kind : FilterKind) (name : String) (arity : Nat) :
    (r.strict e).find? kind name arity = (r.find? kind name arity).map (·.strict e) := by
  unfold FilterRegistry.find? FilterRegistry.strict
  rw [List.find?_map]
  simp only [Function.comp_def, FilterDef.answers_strict]

namespace Environment

variable (env : Environment) (e : TemplateError)

theorem findFilterOfKind_strict (name : String) (arity : Nat) (kind : FilterKind) :
    (env.strict e).findFilterOfKind name arity kind = (env.findFilterOfKind name arity kind).map (·.strict e) := by
  simp only [findFilterOfKind, strict, FilterRegistry.find?_strict]
  cases env.filters.find? kind name arity <;> rfl

theorem findFilter_strict (name : String) (arity : Nat) :
    (env.strict e).findFilter name arity = (env.findFilter name arity).map (·.strict e) := by
  unfold findFilter
  rw [List.map_findSome?]
  exact congrArg (FilterKind.precedence.findSome? ·) (funext fun kind => env.findFilterOfKind_strict e name arity kind)

theorem suggestions_strict (name : String) : (env.strict e).suggestions name = env.suggestions name := by
  have hdef : Suggestion.ofDef name ∘ (·.strict e) = Suggestion.ofDef name := rfl
  simp only [suggestions, strict, FilterRegistry.strict, ← List.map_append, suggestFilters, List.map_map, hdef]

theorem acceptsUnknown_strict (stage : Stage) : (env.strict e).acceptsUnknown stage = env.acceptsUnknown stage := by
  unfold acceptsUnknown
  rw [findFilter_strict]
  cases env.findFilter stage.name stage.arity <;> rfl

/-- A filter of a name is applied to null. -/
theorem lookup_strict : (env.strict e).lookup = env.lookup := by
  have hnullary : (env.strict e).callNullary = env.callNullary := by
    funext name
    unfold callNullary
    rw [findFilterOfKind_strict]
    cases env.findFilterOfKind name 0 .value with
    | none => rfl
    | some d =>
      cases hb : d.body with
      | value run | remembering memory run | context run | block run => simp only [Option.map_some, FilterDef.strict, hb]; rfl
  funext name
  unfold lookup
  rw [hnullary]
  rfl

/-- With a bound, evaluating is the same if the filters fail on expressions. -/
structure StrictAt (fuel : Nat) : Prop where
  expression : (env.strict e).evalExpression fuel = env.evalExpression fuel
  argument : (env.strict e).evalArgument fuel = env.evalArgument fuel
  call : (env.strict e).callFilter fuel = env.callFilter fuel
  resolve : (env.strict e).resolve fuel = env.resolve fuel
  nested : (env.strict e).resolveNested fuel = env.resolveNested fuel
  binding : (env.strict e).evaluateBinding fuel = env.evaluateBinding fuel

variable {env} {e} {fuel : Nat}

/-- Filters are called with evaluated arguments. -/
theorem StrictAt.callFilter_succ (h : env.StrictAt e fuel) : (env.strict e).callFilter (fuel + 1) = env.callFilter (fuel + 1) := by
  funext call
  refine ofEval_injective ?_
  simp only [callFilter, findFilter_strict]
  cases env.findFilter call.name call.args.length with
  | none => rfl
  | some d =>
    simp only [Option.map_some, ofEval_bind, ofEval_mapM, h.argument]
    refine (Returns.mapM call.args (returns_evalArgument fuel)).bind_congr fun values hvalues => ?_
    have hfirst : (values.head?.getD .null).hasExpression = false := by
      cases values with
      | nil => rfl
      | cons v values => exact hvalues v List.mem_cons_self
    have hargs : Value.anyHasExpression (values.head?.getD .null :: values.tail) = false :=
      Value.anyHasExpression_eq_false.2 (List.forall_mem_cons.2 ⟨hfirst, fun arg harg => hvalues arg (List.mem_of_mem_tail harg)⟩)
    cases hb : d.body with
    | value run | remembering memory run =>
      simp only [FilterDef.strict, hb, FilterBody.strict, callValue, callRemembering, hargs]
      rfl
    | block run => simp only [FilterDef.strict, hb, FilterBody.strict]
    | context run =>
      simp only [FilterDef.strict, hb, FilterBody.strict, hargs, lookup_strict, h.binding]
      rfl

theorem strictAt (env : Environment) (e : TemplateError) (fuel : Nat) : env.StrictAt e fuel := by
  induction fuel with
  | zero => constructor <;> rfl
  | succ fuel ih =>
    refine ⟨?_, ?_, ih.callFilter_succ, ?_, ?_, ?_⟩
    · funext x
      cases x <;> simp only [evalExpression, ih.expression, ih.binding, ih.call]
    · funext x
      simp only [evalArgument, ih.expression, ih.resolve]
    · funext v
      simp only [resolve, ih.nested]
      rfl
    · funext v
      cases v <;> simp only [resolveNested, ih.expression, ih.resolve]
    · funext path
      simp only [evaluateBinding, lookup_strict, ih.resolve, ih.argument]
      rfl

theorem stageArgs_strict : (env.strict e).stageArgs fuel = env.stageArgs fuel := by
  funext stage
  unfold stageArgs
  rw [(strictAt env e fuel).argument]

/-- Stages that hand on values apply their filters to evaluated values and arguments. -/
theorem runStages_strict {stages : List Stage} (hstages : env.HandsOn stages) (access : BlockAccess) (position : Nat) {v : Value}
    (hv : v.hasExpression = false) :
    (env.strict e).runStages fuel access position stages v = env.runStages fuel access position stages v := by
  induction stages generalizing position v with
  | nil => rfl
  | cons stage stages ih =>
    obtain ⟨hstage, hstages⟩ := List.forall_mem_cons.1 hstages
    have hnext : ∀ v, (do (env.strict e).runStages fuel access (position + 1) stages (← ofEval (env.resolve fuel v))) =
        (do env.runStages fuel access (position + 1) stages (← ofEval (env.resolve fuel v))) := fun v =>
      (returns_resolve fuel v).bind_congr fun w hw => ih hstages (position + 1) hw
    simp only [runStages, findFilter_strict]
    cases hd : env.findFilter stage.name stage.arity with
    | none => simp only [Option.map_none, suggestions_strict]
    | some d =>
      simp only [Option.map_some, stageArgs_strict]
      refine (returns_stageArgs fuel stage).bind_congr fun args hargs => ?_
      have hevaluated : Value.anyHasExpression (v :: args) = false :=
        Value.anyHasExpression_eq_false.2 (List.forall_mem_cons.2 ⟨hv, hargs⟩)
      cases hb : d.body with
      | value run | remembering memory run =>
        simp only [FilterDef.strict, hb, FilterBody.strict, callValue, callRemembering, hevaluated, (strictAt env e fuel).resolve,
          hnext]
        rfl
      | context run =>
        simp only [FilterDef.strict, hb, FilterBody.strict, hevaluated, lookup_strict, (strictAt env e fuel).binding,
          (strictAt env e fuel).resolve, hnext]
        rfl
      | block run => exact absurd ⟨d, run, hd, hb⟩ hstage

theorem start?_strict (initial : Expression) (calls : List (FilterCall Expression)) :
    (env.strict e).start? initial calls = env.start? initial calls := by
  cases initial with
  | call call => simp only [start?, findFilter_strict, Option.isNone_map]
  | literal l | binding path | array items | object entries => rfl

theorem entryValue_strict : (env.strict e).entryValue fuel = env.entryValue fuel := by
  have hbase : (env.strict e).baseValue fuel = env.baseValue fuel := by
    funext first
    cases first with
    | none => rfl
    | some x => simp only [baseValue, (strictAt env e fuel).expression]
  have hresolve : (env.strict e).resolveBase fuel = env.resolveBase fuel := by
    funext stages found
    cases found with
    | none => simp only [resolveBase, funext fun stage => acceptsUnknown_strict env e stage]
    | some v => simp only [resolveBase, (strictAt env e fuel).resolve]
  funext first stages
  simp only [entryValue, hbase, hresolve]

/-- **Strict filters.** A pipeline without block filters is the same if all filters fail on expressions: neither it nor an
expression inside applies a filter to an expression or to a value that holds one. -/
theorem evaluatePipeline_strict {initial : Expression} {calls : List (FilterCall Expression)}
    (hhandsOn : ∀ first stages, env.start? initial calls = some (first, stages) → env.HandsOn stages) (access : BlockAccess) :
    (env.strict e).evaluatePipeline fuel access initial calls = env.evaluatePipeline fuel access initial calls := by
  simp only [evaluatePipeline_eq, start?_strict, entryValue_strict]
  cases hstart : env.start? initial calls with
  | none => rfl
  | some start =>
    refine (returns_entryValue fuel start.1 start.2).bind_congr fun found hfound => ?_
    cases found with
    | some v => exact runStages_strict (hhandsOn _ _ hstart) access 0 (hfound v rfl)
    | none => rfl

end Environment

end PageTemplates
