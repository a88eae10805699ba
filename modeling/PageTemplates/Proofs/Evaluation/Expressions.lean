import PageTemplates.Evaluation.Expressions
import PageTemplates.Proofs.Evaluation.Filters

/-!
# Expressions and the state of the site

The value of an expression depends on the scope and the environment, and on nothing that the site remembers but what the filters
ask. Main statement: if the filters are stable and the caches answer the same, evaluating an expression is stable
(`stable_evaluation`).
-/

namespace PageTemplates

/-- An environment in which related states are no different: its filters are stable, and the caches answer the same. -/
structure Environment.Plain (env : Environment) (R : Engine → Engine → Prop) : Prop where
  caching : CachesAlike env.site.compiler R
  filter : ∀ name arity kind d, env.findFilterOfKind name arity kind = some d → d.body.Stable R

namespace Environment

variable {env : Environment} {R : Engine → Engine → Prop}

/-! ## Names -/

theorem stable_callValue (run : ValueFilter) (v : Value) (args : List Value) :
    Stable (Session.Alike R) (env.callValue run v args) :=
  Eval.stable_ofExcept _

theorem exists_kind_of_findFilter {name : String} {arity : Nat} {d : FilterDef} (h : env.findFilter name arity = some d) :
    ∃ kind, env.findFilterOfKind name arity kind = some d := by
  obtain ⟨kind, -, hkind⟩ := List.exists_of_findSome?_eq_some h
  exact ⟨kind, hkind⟩

theorem Plain.findFilter (h : env.Plain R) {name : String} {arity : Nat} {d : FilterDef}
    (hd : env.findFilter name arity = some d) : d.body.Stable R := by
  obtain ⟨kind, hkind⟩ := exists_kind_of_findFilter hd
  exact h.filter name arity kind d hkind

theorem stable_callNullary (h : env.Plain R) (name : String) : Stable (Session.Alike R) (env.callNullary name) := by
  unfold callNullary
  cases hd : env.findFilterOfKind name 0 .value with
  | none => exact Stable.pure none
  | some d =>
    have hbody := h.filter name 0 .value d hd
    simp only
    cases hb : d.body with
    | value run => exact Stable.map _ (Eval.stable_inFilter name (stable_callValue run .null []))
    | remembering memory run =>
      rw [hb] at hbody
      exact Stable.map _ (Eval.stable_inFilter name (hbody .null []))
    | context run => exact Stable.pure none
    | block run => exact Stable.pure none

/-- Scopes that are alike bind a name alike. -/
theorem bound?_eq_of_alike {s t : Scope} (h : s.Alike t) (name : String) : env.bound? s name = env.bound? t name := by
  have hlocals : t.locals = s.locals := by
    rw [h.same]
    rfl
  simp only [bound?, hlocals, h.pageArg? name]

theorem stable_lookup (h : env.Plain R) (name : String) : Stable (Session.Alike R) (env.lookup name) := by
  refine Eval.stable_scope_bind (fun s t hst => by rw [bound?_eq_of_alike hst name]) fun scope => ?_
  cases env.bound? scope name with
  | some v => exact Stable.pure (some v)
  | none => exact stable_callNullary h name

/-! ## Nesting and steps -/

theorem stable_enterNested : Stable (Session.Alike R) env.enterNested := by
  refine Eval.stable_scope_bind (fun s t hst => by rw [hst.same]; rfl) fun scope => ?_
  split
  · exact Eval.stable_fail _
  · exact Eval.stable_modifyScope fun _ _ => rfl

/-- The compiled part of a path is the same whether it was in the cache or not. -/
theorem stable_binder (h : env.Plain R) (kind : ValueKind) (expression rest : String) :
    Stable (Session.Alike R) (env.binder kind expression rest) := by
  intro s t hst
  obtain ⟨hanswer, hlearned⟩ := h.caching.binder s.engine t.engine kind expression rest hst.engine
  have hrun : ∀ s : Session, (env.binder kind expression rest).run.run s =
      (Eval.ofExcept (s.engine.binders.getOrCompile env.site.compiler kind expression rest).1).run.run
        { s with engine := { s.engine with
            binders := (s.engine.binders.getOrCompile env.site.compiler kind expression rest).2 } } :=
    fun _ => rfl
  rw [hrun, hrun, hanswer]
  exact Eval.stable_ofExcept _ _ _ ⟨hst.scope, hlearned⟩

theorem stable_walk {resolve : Value → Eval Value} {key : Expression → Eval Value}
    (hresolve : ∀ v, Stable (Session.Alike R) (resolve v)) (hkey : ∀ e, Stable (Session.Alike R) (key e))
    (steps : List (Accessor Expression)) (v : Value) : Stable (Session.Alike R) (walk resolve key steps v) := by
  induction steps generalizing v with
  | nil => exact hresolve v
  | cons step steps ih =>
    refine (hresolve v).bind fun v => ?_
    split
    · exact Stable.pure _
    · cases step with
      | member name => exact ih _
      | index e => exact (hkey e).bind fun k => ih _

/-! ## Expressions -/

/-- Evaluating with a bound on nesting is stable. -/
structure StableAt (env : Environment) (R : Engine → Engine → Prop) (fuel : Nat) : Prop where
  expression : ∀ e, Stable (Session.Alike R) (env.evalExpression fuel e)
  argument : ∀ e, Stable (Session.Alike R) (env.evalArgument fuel e)
  call : ∀ call, Stable (Session.Alike R) (env.callFilter fuel call)
  resolve : ∀ v, Stable (Session.Alike R) (env.resolve fuel v)
  resolveNested : ∀ v, Stable (Session.Alike R) (env.resolveNested fuel v)
  binding : ∀ path, Stable (Session.Alike R) (env.evaluateBinding fuel path)

theorem StableAt.access {fuel : Nat} (h : env.Plain R) (hf : env.StableAt R fuel) :
    ScopeAccess.Stable R { lookup := env.lookup, evaluateBinding := env.evaluateBinding fuel } :=
  ⟨stable_lookup h, hf.binding⟩

theorem stable_evalExpression {fuel : Nat} (hf : env.StableAt R fuel) (e : Expression) :
    Stable (Session.Alike R) (env.evalExpression (fuel + 1) e) := by
  have hitem : ∀ item, Stable (Session.Alike R) (do return (← env.evalExpression fuel item).getD .null) := fun item =>
    Stable.map _ (hf.expression item)
  cases e with
  | literal l => exact Stable.pure _
  | binding path => exact hf.binding path.text
  | array items =>
    rw [evalExpression]
    exact (Stable.mapM items hitem).bind fun values => Stable.pure _
  | object entries =>
    rw [evalExpression]
    refine (Stable.mapM entries fun entry => ?_).bind fun fields => Stable.pure _
    exact (hf.expression entry.2).bind fun v => Stable.pure _
  | call call => exact hf.call call

theorem stable_evalArgument {fuel : Nat} (hf : env.StableAt R fuel) (e : Expression) :
    Stable (Session.Alike R) (env.evalArgument (fuel + 1) e) := by
  rw [evalArgument]
  exact (hf.expression e).bind fun v => hf.resolve _

theorem stable_callFilter {fuel : Nat} (h : env.Plain R) (hf : env.StableAt R fuel) (call : FilterCall Expression) :
    Stable (Session.Alike R) (env.callFilter (fuel + 1) call) := by
  rw [callFilter]
  cases hd : env.findFilter call.name call.args.length with
  | none => exact Stable.pure none
  | some d =>
    have hbody := h.findFilter hd
    refine (Stable.mapM call.args hf.argument).bind fun values => ?_
    simp only
    cases hb : d.body with
    | value run => exact Stable.map _ (Eval.stable_inFilter call.name (stable_callValue run _ _))
    | remembering memory run =>
      rw [hb] at hbody
      exact Stable.map _ (Eval.stable_inFilter call.name (hbody _ _))
    | context run =>
      rw [hb] at hbody
      refine (Eval.stable_inFilter call.name (hbody _ (hf.access h) _ _)).bind fun output => ?_
      cases output with
      | value v => exact Stable.pure _
      | ignore => exact Stable.pure _
      | stop => exact Stable.pure _
    | block run => exact Eval.stable_inFilter call.name (Eval.stable_fail _)

theorem stable_resolve {fuel : Nat} (hf : env.StableAt R fuel) (v : Value) :
    Stable (Session.Alike R) (env.resolve (fuel + 1) v) := by
  rw [Environment.resolve]
  split
  · exact Stable.pure v
  · refine stable_enterNested.bind fun _ => (Eval.stable_attempt (hf.resolveNested v)).bind fun outcome => ?_
    exact (Eval.stable_modifyScope fun _ _ => rfl).bind fun _ => Eval.stable_resume outcome

theorem stable_resolveNested {fuel : Nat} (hf : env.StableAt R fuel) (v : Value) :
    Stable (Session.Alike R) (env.resolveNested (fuel + 1) v) := by
  cases v with
  | expression e =>
    rw [Environment.resolveNested]
    exact (hf.expression e).bind fun v => hf.resolve _
  | array items =>
    rw [Environment.resolveNested]
    exact Stable.map _ (Stable.mapM items hf.resolve)
  | object fields =>
    rw [Environment.resolveNested]
    refine Stable.map _ (Stable.mapM fields fun field => ?_)
    exact (hf.resolve field.2).bind fun v => Stable.pure _
  | null | bool b | int i | float x | string s | raw s => exact Stable.pure _

theorem stable_evaluateBinding {fuel : Nat} (h : env.Plain R) (hf : env.StableAt R fuel) (path : String) :
    Stable (Session.Alike R) (env.evaluateBinding (fuel + 1) path) := by
  rw [Environment.evaluateBinding]
  refine (stable_lookup h _).bind fun found => ?_
  cases found with
  | none => exact Stable.pure none
  | some v =>
    refine (hf.resolve v).bind fun root => ?_
    split
    · exact Stable.pure _
    · refine (stable_binder h root.kind path _).bind fun binder => ?_
      cases binder with
      | constant v => exact Stable.pure _
      | walk steps => exact Stable.map _ (stable_walk hf.resolve hf.argument steps root)

/-- **Evaluation.** What a site remembers makes no difference to the value of an expression. -/
theorem stable_evaluation (h : env.Plain R) (fuel : Nat) : env.StableAt R fuel := by
  induction fuel with
  | zero =>
    exact ⟨fun _ => Stable.throw _, fun _ => Stable.throw _, fun _ => Stable.throw _, fun _ => Stable.throw _,
      fun _ => Stable.throw _, fun _ => Stable.throw _⟩
  | succ fuel ih =>
    exact ⟨stable_evalExpression ih, stable_evalArgument ih, stable_callFilter h ih, stable_resolve ih,
      stable_resolveNested ih, stable_evaluateBinding h ih⟩

end Environment

end PageTemplates
