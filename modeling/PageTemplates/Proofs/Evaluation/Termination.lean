import Mathlib.Data.List.TakeDrop
import PageTemplates.Proofs.Evaluation.Caches
import PageTemplates.Proofs.Evaluation.Monotone
import PageTemplates.Proofs.Evaluation.Scopes
import PageTemplates.Proofs.Syntax.Sizes

/-!
# Evaluating expressions ends

An expression is evaluated through its parts, through the indexes of its paths, which are parsed from shorter texts, and through
the expressions in the values that it meets, which nest only as deep as the settings allow. So with the built-in context filters
every evaluation ends. Main statement: evaluating an expression and resolving a value yield something, from every session whose
caches tell the truth (`settlesAt`).
-/

namespace PageTemplates

open Emit

/-! ## Families that end -/

namespace Emit

variable {α β : Type} {I : Engine → Prop} {k : Nat}

theorem Yields.steady {x : Nat → Emit Session α} {s : Session} {r : Emission Session α} (hr : Yields x s r)
    (h : ∀ n, Steady I (x n)) : Session.Steady I s r.state := by
  obtain ⟨n, hn⟩ := hr.eventually
  exact hn n (Nat.le_refl n) ▸ h n s

theorem outcome_resume {σ : Type} (r : Except Fault α) (s : σ) : ((Emit.resume r).run s).outcome = r := by
  cases r <;> rfl

theorem state_resume {σ : Type} (r : Except Fault α) (s : σ) : ((Emit.resume r).run s).state = s := by
  cases r <;> rfl

theorem state_bind {σ : Type} {x : Emit σ α} {f : α → Emit σ β} {s : σ} {a : α} (h : (x.run s).outcome = .ok a) :
    ((x >>= f).run s).state = ((f a).run (x.run s).state).state := by
  rw [Stable.run_bind_ok h]

/-- A steady family that ends from every session with a property of the site and a count of nested evaluations. -/
structure Settles (I : Engine → Prop) (k : Nat) (x : Nat → Emit Session α) : Prop where
  steady : ∀ n, Steady I (x n)
  ends : ∀ s, I s.engine → s.scope.nesting = k → Ends x s

namespace Settles

/-- A computation that asks for no bound. -/
theorem of_run {x : Emit Session α} (hx : Steady I x)
    (h : ∀ s, ∃ r : Except TemplateError α, (x.run s).outcome = r.mapError .error) : Settles I k fun _ => x := by
  refine ⟨fun _ => hx, fun s _ _ => Ends.of_run ?_⟩
  obtain ⟨r, hr⟩ := h s
  rw [hr]
  cases r <;> simp [Except.mapError]

theorem pure (a : α) : Settles I k fun _ => (Pure.pure a : Emit Session α) :=
  of_run (Steady.pure a) fun _ => ⟨.ok a, rfl⟩

theorem fail (e : TemplateError) : Settles I k fun _ => (Emit.fail e : Emit Session α) :=
  of_run (Steady.fail e) fun _ => ⟨.error e, rfl⟩

theorem ofExceptEval (r : Except TemplateError α) : Settles I k fun _ => ofEval (Eval.ofExcept r) :=
  of_run (Steady.ofExceptEval r) fun s => ⟨r, by rw [run_ofExcept]⟩

theorem scope : Settles I k fun _ => ofEval Eval.scope :=
  of_run Steady.scope fun s => ⟨.ok s.scope, rfl⟩

theorem modifyScope {f : Scope → Scope} (hf : ∀ s, f s = { s with locals := (f s).locals }) :
    Settles I k fun _ => ofEval (Eval.modifyScope f) :=
  of_run (Steady.modifyScope hf) fun _ => ⟨.ok (), rfl⟩

/-- What comes after a computation has to end for the values only that the computation can give. -/
theorem bind_of {x : Nat → Emit Session α} {f : Nat → α → Emit Session β} {Q : α → Prop} (hx : Settles I k x)
    (hQ : ∀ n s a, I s.engine → ((x n).run s).outcome = .ok a → Q a) (hsteady : ∀ n a, Steady I (f n a))
    (hf : ∀ a, Q a → Settles I k fun n => f n a) : Settles I k fun n => x n >>= f n := by
  refine ⟨fun n => (hx.steady n).bind (hsteady n), fun s hs hk => ?_⟩
  refine (hx.ends s hs hk).bind fun r a hr ha => ?_
  obtain ⟨n, hn⟩ := hr.eventually
  have hstate := hr.steady hx.steady
  exact (hf a (hQ n s a hs (hn n (Nat.le_refl n) ▸ ha))).ends r.state (hstate.engine hs) (hstate.nesting.trans hk)

theorem bind {x : Nat → Emit Session α} {f : Nat → α → Emit Session β} (hx : Settles I k x)
    (hf : ∀ a, Settles I k fun n => f n a) : Settles I k fun n => x n >>= f n :=
  hx.bind_of (Q := fun _ => True) (fun _ _ _ _ _ => trivial) (fun n a => (hf a).steady n) fun a _ => hf a

theorem mapM {f : Nat → α → Emit Session β} (as : List α) (hf : ∀ a ∈ as, Settles I k fun n => f n a) :
    Settles I k fun n => as.mapM (f n) := by
  induction as with
  | nil => exact pure []
  | cons a as ih =>
    simp only [List.mapM_cons]
    refine (hf a List.mem_cons_self).bind fun b => ?_
    exact (ih fun a ha => hf a (List.mem_cons_of_mem _ ha)).bind fun bs => pure (b :: bs)

theorem inFilter (name : String) {x : Nat → Emit Session α} (hx : Settles I k x) :
    Settles I k fun n => Emit.inFilter name (x n) :=
  ⟨fun n => (hx.steady n).inFilter name, fun s hs hk => (hx.ends s hs hk).inFilter name⟩

/-- If the least bound is too small, counting from the next one makes no difference. -/
theorem of_succ {x : Nat → Emit Session α} (h0 : x 0 = throwFault .exhausted) (h : Settles I k fun n => x (n + 1)) :
    Settles I k x := by
  refine ⟨fun n => ?_, fun s hs hk => (Ends.succ (by rw [h0]; rfl)).1 (h.ends s hs hk)⟩
  cases n with
  | zero => exact h0 ▸ Steady.throwFault _
  | succ n => exact h.steady n

end Settles

end Emit

/-! ## Environments with the built-in filters -/

/-- An environment with the usual compiler of paths, whose context and block filters are built-in ones. -/
structure Environment.Standard (env : Environment) : Prop where
  compiler : env.site.compiler = Binder.compile
  filter : ∀ name arity kind d, env.findFilterOfKind name arity kind = some d →
    d.kind = .value ∨ d ∈ Scoping.filters ∨ d ∈ Blocks.filters

/-- Value filters ask nothing. -/
theorem FilterBody.monotone_of_kind {body : FilterBody} (h : body.kind = .value) : body.Monotone := by
  cases body with
  | value run => trivial
  | remembering memory run => trivial
  | context run => cases h
  | block run => cases h

/-- Value filters touch nothing but what they remember. -/
theorem FilterBody.steady_of_kind {body : FilterBody} (I : Engine → Prop) (h : body.kind = .value) : body.Steady I :=
  follows_iff_steady.1 (follows_of_kind _ h)

theorem Scoping.kind_of_mem {d : FilterDef} (h : d ∈ filters) : d.kind = .context := by
  rcases List.mem_cons.1 h with rfl | h
  · rfl
  · obtain rfl := List.mem_singleton.1 h
    rfl

theorem Blocks.kind_of_mem {d : FilterDef} (h : d ∈ filters) : d.kind = .block := by
  simp only [filters, List.mem_cons, List.not_mem_nil, or_false] at h
  rcases h with rfl | rfl | rfl | rfl <;> rfl

/-- A site with the usual compiler of paths, whose context and block filters are built-in ones. -/
structure Site.Standard (site : Site) : Prop where
  compiler : site.compiler = Binder.compile
  filter : ∀ d ∈ site.filters.defs, d.kind = .value ∨ d ∈ Scoping.filters ∨ d ∈ Blocks.filters

theorem BuiltIn.kind_of_mem_valueFilters : ∀ d ∈ valueFilters, d.kind = .value := by
  simp [valueFilters, arithmetic, texts, collections, logic, datesAndMoney, value, ofUnknown, FilterDef.kind, FilterBody.kind]

/-- A site is standard if the filters of its own are value filters. -/
theorem Site.standard_build {settings : Settings} {formats : List PageFormat} {filters : List FilterDef}
    {transformers : List (String × Transformer)} (h : ∀ d ∈ filters, d.kind = .value) :
    (Site.build settings formats filters transformers).Standard := by
  refine ⟨rfl, fun d hd => ?_⟩
  rcases List.mem_append.1 (mem_of_mem_ofList hd) with hd | hd
  · exact Or.inl (h d hd)
  · rcases List.mem_append.1 hd with hd | hd
    · rcases List.mem_append.1 hd with hd | hd
      · exact Or.inl (BuiltIn.kind_of_mem_valueFilters d hd)
      · exact Or.inr (Or.inl hd)
    · exact Or.inr (Or.inr hd)

/-- A render of a standard site is standard if the filters of its own are value filters. -/
theorem Site.Standard.environment {site : Site} (h : site.Standard) {plan : RenderPlan}
    (hplan : ∀ d ∈ plan.filters, d.kind = .value) : (plan.environment site).Standard := by
  refine ⟨h.compiler, fun name arity kind d hd => ?_⟩
  rcases Environment.find?_of_findFilterOfKind hd with hd | hd
  · exact Or.inl (hplan d (mem_of_mem_ofList (List.mem_of_find?_eq_some hd)))
  · exact h.filter d (List.mem_of_find?_eq_some hd)

namespace Environment

variable {env : Environment} {I : Engine → Prop} {k : Nat}

namespace Standard

theorem monotone (h : env.Standard) : env.Monotone := by
  intro name arity kind d hd
  rcases h.filter name arity kind d hd with hd | hd | hd
  · exact FilterBody.monotone_of_kind hd
  · exact Scoping.monotone_filters d hd
  · exact Blocks.monotone_filters d hd

/-- A standard environment keeps what its caches keep, if filters with a memory and partials do. -/
theorem keeps (h : env.Standard) (hcaching : Caching Binder.compile I) (hcells : ∀ e cells, I e → I { e with cells })
    (hfound : ∀ page name e, I e → I (Load.runOn (env.partialContent page name) e).2) : env.Keeps I := by
  refine ⟨h.compiler ▸ hcaching, hcells, fun name arity kind d hd => ?_, hfound⟩
  rcases h.filter name arity kind d hd with hd | hd | hd
  · exact FilterBody.steady_of_kind I hd
  · exact Scoping.steady_filters hcaching.keptByParsing d hd
  · exact Blocks.steady_filters hcaching.keptByParsing d hd

/-- The context filters of a standard environment are built-in ones. -/
theorem context (h : env.Standard) {name : String} {arity : Nat} {d : FilterDef} (hd : env.findFilter name arity = some d)
    (hcontext : d.kind = .context) : d ∈ Scoping.filters := by
  obtain ⟨kind, hkind⟩ := exists_kind_of_findFilter hd
  rcases h.filter name arity kind d hkind with hd | hd | hd
  · rw [hcontext] at hd
    cases hd
  · exact hd
  · rw [Blocks.kind_of_mem hd] at hcontext
    cases hcontext

/-- The block filters of a standard environment are built-in ones. -/
theorem block (h : env.Standard) {name : String} {arity : Nat} {kind : FilterKind} {d : FilterDef}
    (hd : env.findFilterOfKind name arity kind = some d) (hblock : d.kind = .block) : d ∈ Blocks.filters := by
  rcases h.filter name arity kind d hd with hd | hd | hd
  · rw [hblock] at hd
    cases hd
  · rw [Scoping.kind_of_mem hd] at hblock
    cases hblock
  · exact hd

end Standard

/-- An environment that evaluates with the usual compiler of paths and with the built-in context filters, whatever it writes
with. -/
structure Ordinary (env : Environment) : Prop where
  compiler : env.site.compiler = Binder.compile
  context : ∀ name arity d, env.findFilter name arity = some d → d.kind = .context → d ∈ Scoping.filters

theorem Standard.ordinary (h : env.Standard) : env.Ordinary :=
  ⟨h.compiler, fun _ _ _ => h.context⟩

/-- An ordinary environment and a property of states in which the caches tell the truth, which what filters remember does not
change. -/
structure Settling (env : Environment) (I : Engine → Prop) : Prop extends env.Ordinary where
  caching : Caching Binder.compile I
  cells : ∀ e cells, I e → I { e with cells }

theorem Ordinary.settling_truthful (h : env.Ordinary) : env.Settling Engine.Truthful :=
  ⟨h, Engine.Truthful.caching, fun _ _ h => h.of_caches rfl rfl⟩

theorem Standard.settling (h : env.Standard) (hkeeps : env.Keeps I) : env.Settling I :=
  ⟨h.ordinary, h.compiler ▸ hkeeps.caching, hkeeps.cells⟩

theorem Settling.maintains (h : env.Settling I) : env.Maintains I where
  binder e kind expression rest he := by
    rw [h.compiler]
    exact (h.caching.binder e kind expression rest he).2
  cells := h.cells
  context name arity d hd hkind := Scoping.steady_filters h.caching.keptByParsing d (h.context name arity d hd hkind)

/-! ## Names and filters -/

theorem settles_callRemembering (h : env.Maintains I) (memory : String)
    (run : Value → Value → List Value → Except TemplateError (Value × Value)) (v : Value) (args : List Value) :
    Settles I k fun _ => ofEval (callRemembering memory run v args) := by
  refine .of_run (steady_callRemembering h memory run v args) fun s => ?_
  rw [run_callRemembering]
  cases run ((Table.get? s.engine.cells memory).getD .null) v args with
  | error e => exact ⟨.error e, rfl⟩
  | ok result => exact ⟨.ok result.2, rfl⟩

theorem settles_lookup (h : env.Maintains I) (name : String) : Settles I k fun _ => ofEval (env.lookup name) := by
  simp only [lookup, ofEval_bind]
  refine Settles.scope.bind fun scope => ?_
  cases env.bound? scope name with
  | some v => exact .pure _
  | none =>
    simp only [callNullary]
    cases hd : env.findFilterOfKind name 0 .value with
    | none => exact .pure _
    | some d =>
      cases hb : d.body with
      | value run =>
        simp only [hb, ofEval_bind, ofEval_inFilter]
        exact ((Settles.ofExceptEval _).inFilter name).bind fun v => .pure _
      | remembering memory run =>
        simp only [hb, ofEval_bind, ofEval_inFilter]
        exact ((settles_callRemembering h memory run _ _).inFilter name).bind fun v => .pure _
      | context run =>
        simp only [hb]
        exact .pure _
      | block run =>
        simp only [hb]
        exact .pure _

theorem settles_parsed (h : KeptByParsing I) (kind : CachedText) (text : String) :
    Settles I k fun _ => ofEval (Scoping.parsed kind text (kind.parse text)) := by
  exact .of_run (Scoping.steady_parsed h kind text) fun s => ⟨_, by rw [Scoping.run_parsed]⟩

/-- Assigning asks the evaluation for the values of names only. -/
theorem settles_assignTo (h : env.Maintains I) (hparsing : KeptByParsing I) (binding : Nat → String → Eval (Option Value))
    (v : Value) (args : List Value) :
    Settles I k fun n => ofEval (Scoping.assignTo { lookup := env.lookup, evaluateBinding := binding n } v args) := by
  have hset : ∀ name value, Settles I k fun _ => ofEval (Eval.modifyScope (·.setLocal name value)) :=
    fun _ _ => .modifyScope fun _ => rfl
  have hroot : ∀ head, Settles I k fun n =>
      ofEval (Scoping.takeRoot { lookup := env.lookup, evaluateBinding := binding n } head) := by
    intro head
    simp only [Scoping.takeRoot, ofEval_bind]
    refine Settles.scope.bind fun scope => ?_
    cases Table.get? scope.locals head with
    | some root =>
      simp only [ofEval_bind]
      exact (Settles.modifyScope fun _ => rfl).bind fun _ => .pure root
    | none =>
      simp only [ofEval_bind]
      exact (settles_lookup h head).bind fun v => .pure _
  unfold Scoping.assignTo
  split
  · exact .fail _
  · rename_i text _
    simp only [ofEval_bind]
    refine (settles_parsed hparsing .assignTarget text).bind fun target => ?_
    unfold Scoping.assign
    split
    · simp only [ofEval_bind]
      exact (hset target.head v).bind fun _ => .pure _
    · simp only [ofEval_bind]
      refine (hroot target.head).bind fun root => ?_
      exact (Settles.ofExceptEval _).bind fun root => (hset target.head root).bind fun _ => .pure _

/-- The built-in context filters end. -/
theorem settles_context (h : env.Settling I) {d : FilterDef} {run : ScopeAccess → Value → List Value → Eval FilterOutput}
    (hd : d ∈ Scoping.filters) (hrun : d.body = .context run) (binding : Nat → String → Eval (Option Value)) (v : Value)
    (args : List Value) :
    Settles I k fun n => ofEval (run { lookup := env.lookup, evaluateBinding := binding n } v args) := by
  rcases List.mem_cons.1 hd with rfl | hd
  · obtain rfl := FilterBody.context.inj hrun
    exact settles_assignTo h.maintains h.caching.keptByParsing binding v args
  · obtain rfl := List.mem_singleton.1 hd
    obtain rfl := FilterBody.context.inj hrun
    exact .pure _

/-! ## Values -/

/-- Evaluating ends from every session with a count of nested evaluations. -/
structure SettlesAt (env : Environment) (I : Engine → Prop) (k : Nat) : Prop where
  expression : ∀ e, Settles I k fun n => ofEval (env.evalExpression n e)
  resolve : ∀ v, Settles I k fun n => ofEval (env.resolve n v)

theorem settles_resolveNested (h : env.SettlesAt I k) (v : Value) : Settles I k fun n => ofEval (env.resolveNested n v) := by
  refine .of_succ rfl ?_
  cases v with
  | expression e =>
    simp only [Environment.resolveNested, ofEval_bind]
    exact (h.expression e).bind fun v => h.resolve _
  | array items =>
    simp only [Environment.resolveNested, ofEval_bind, ofEval_mapM]
    exact (Settles.mapM items fun v _ => h.resolve v).bind fun items => .pure _
  | object fields =>
    simp only [Environment.resolveNested, ofEval_bind, ofEval_mapM]
    refine (Settles.mapM fields fun field _ => ?_).bind fun fields => .pure _
    exact (h.resolve field.2).bind fun v => .pure _
  | null | bool b | int i | float x | string s | raw s => exact .pure _

/-- A value is resolved one level deeper, unless the settings forbid that. -/
theorem settles_resolve (henv : env.Maintains I)
    (h : k < env.site.settings.maxNestedEvaluationDepth → env.SettlesAt I (k + 1)) (v : Value) :
    Settles I k fun n => ofEval (env.resolve n v) := by
  refine ⟨fun n => (steadyAt henv n).resolve v, fun s hs hk => (Ends.succ rfl).1 ?_⟩
  simp only [Environment.resolve]
  split
  · exact (Settles.pure v).ends s hs hk
  · simp only [ofEval_bind, ofEval_attempt, ofEval_resume]
    have henter := run_enterNested env s
    by_cases hlimit : env.site.settings.maxNestedEvaluationDepth ≤ s.scope.nesting
    · rw [if_pos hlimit] at henter
      exact ⟨_, (Yields.of_run henter (by simp)).bind_error rfl⟩
    · rw [if_neg hlimit] at henter
      have hdeeper := settles_resolveNested (h (hk ▸ Nat.lt_of_not_le hlimit)) v
      obtain ⟨r, hr⟩ := hdeeper.ends { s with scope := { s.scope with nesting := s.scope.nesting + 1 } } hs (by rw [hk])
      have hexit : Ends (fun _ => ofEval exitNested >>= fun _ => Emit.resume r.outcome) r.state := by
        refine Ends.of_run ?_
        rw [Emit.Stable.run_bind_ok (x := ofEval exitNested) (a := ()) rfl]
        exact (outcome_resume r.outcome _).symm ▸ hr.finished
      obtain ⟨r', hr'⟩ := hexit
      have hattempt :=
        hr.attempt_bind (f := fun _ outcome => ofEval exitNested >>= fun _ => Emit.resume outcome) hr' fun _ _ => rfl
      exact ⟨_, (Yields.of_run henter (by simp)).bind rfl hattempt⟩

/-! ## Expressions -/

theorem settles_evalArgument {e : Expression} (he : Settles I k fun n => ofEval (env.evalExpression n e))
    (hresolve : ∀ v, Settles I k fun n => ofEval (env.resolve n v)) : Settles I k fun n => ofEval (env.evalArgument n e) := by
  refine .of_succ rfl ?_
  simp only [evalArgument, ofEval_bind]
  exact he.bind fun v => hresolve _

theorem settles_walk (hresolve : ∀ v, Settles I k fun n => ofEval (env.resolve n v)) {steps : List (Accessor Expression)}
    (hkey : ∀ e, .index e ∈ steps → Settles I k fun n => ofEval (env.evalArgument n e)) (v : Value) :
    Settles I k fun n => ofEval (walk (env.resolve n) (env.evalArgument n) steps v) := by
  induction steps generalizing v with
  | nil => exact hresolve v
  | cons step steps ih =>
    have hnext := ih fun e he => hkey e (List.mem_cons_of_mem _ he)
    simp only [walk, ofEval_bind]
    refine (hresolve v).bind fun v => ?_
    split
    · exact .pure _
    · cases step with
      | member name => exact hnext _
      | index e =>
        simp only [ofEval_bind]
        exact (hkey e List.mem_cons_self).bind fun key => hnext _

/-- The steps that a text compiles to are those that it is parsed to. -/
theorem parseSteps_of_compile {kind : ValueKind} {expression rest : String} {steps : List (Accessor Expression)}
    (h : Binder.compile kind expression rest = .ok (.walk steps)) : parseSteps rest.toList = .ok steps := by
  unfold Binder.compile at h
  split at h
  · cases h
  · rename_i steps' hsteps
    rw [hsteps]
    split at h
    · cases h
      rfl
    · split at h
      · cases h
      · cases h
        rfl

/-- The part of a path after its head is no longer than the path. -/
theorem length_rest_le (text : List Char) : (splitBinding text).2.length ≤ text.length := by
  unfold splitBinding
  rw [List.span_eq_takeWhile_dropWhile]
  exact List.length_dropWhile_le _ text

theorem settles_binder (h : env.Maintains I) (kind : ValueKind) (expression rest : String) :
    Settles I k fun _ => ofEval (env.binder kind expression rest) :=
  .of_run (steady_binder h kind expression rest) fun s => ⟨_, by rw [run_binder]⟩

/-- What a path compiles to through the cache is what it compiles to. -/
theorem compile_of_binder (h : env.Settling I) {kind : ValueKind} {expression rest : String} {s : Session} {b : Binder}
    (hs : I s.engine) (hb : ((ofEval (env.binder kind expression rest)).run s).outcome = .ok b) :
    Binder.compile kind expression rest = .ok b := by
  rw [run_binder, h.compiler, (h.caching.binder s.engine kind expression rest hs).1] at hb
  cases hc : Binder.compile kind expression rest with
  | error e =>
    rw [hc] at hb
    cases hb
  | ok b' =>
    rw [hc] at hb
    cases hb
    rfl

/-- A path is evaluated if the indexes are that its text holds. -/
theorem settles_evaluateBinding (h : env.Settling I)
    (hresolve : ∀ v, Settles I k fun n => ofEval (env.resolve n v)) {path : String}
    (hkey : ∀ e : Expression, e.size < path.toList.length → Settles I k fun n => ofEval (env.evalArgument n e)) :
    Settles I k fun n => ofEval (env.evaluateBinding n path) := by
  refine .of_succ rfl ?_
  simp only [Environment.evaluateBinding, ofEval_bind]
  refine (settles_lookup h.maintains _).bind fun found => ?_
  cases found with
  | none => exact .pure _
  | some v =>
    simp only [ofEval_bind]
    refine (hresolve v).bind fun root => ?_
    split
    · exact .pure _
    · simp only [ofEval_bind]
      refine (settles_binder h.maintains root.kind path _).bind_of (fun _ _ _ hs hb => compile_of_binder h hs hb)
        (fun n b => ?_) fun b hb => ?_
      · cases b with
        | constant v => exact Steady.pure _
        | walk steps =>
          simp only [ofEval_bind]
          exact (steady_walk (steadyAt h.maintains n).resolve (steadyAt h.maintains n).argument steps root).bind fun v =>
            Steady.pure _
      · cases b with
        | constant v => exact .pure _
        | walk steps =>
          simp only [ofEval_bind]
          refine (settles_walk hresolve (fun e he => hkey e ?_) root).bind fun v => .pure _
          have hsize := size_lt_of_parseSteps (parseSteps_of_compile hb) he
          rw [String.toList_ofList] at hsize
          exact Nat.lt_of_lt_of_le hsize (length_rest_le path.toList)

theorem settles_callFilter (h : env.Settling I) {call : FilterCall Expression}
    (hargs : ∀ e ∈ call.args, Settles I k fun n => ofEval (env.evalArgument n e)) :
    Settles I k fun n => ofEval (env.callFilter n call) := by
  refine .of_succ rfl ?_
  simp only [callFilter]
  cases hd : env.findFilter call.name call.args.length with
  | none => exact .pure _
  | some d =>
    simp only [ofEval_bind, ofEval_mapM]
    refine (Settles.mapM call.args hargs).bind fun values => ?_
    cases hb : d.body with
    | value run =>
      simp only [ofEval_bind, ofEval_inFilter]
      exact ((Settles.ofExceptEval _).inFilter call.name).bind fun v => .pure _
    | remembering memory run =>
      simp only [ofEval_bind, ofEval_inFilter]
      exact ((settles_callRemembering h.maintains memory run _ _).inFilter call.name).bind fun v => .pure _
    | context run =>
      have hmem := h.context _ _ d hd (congrArg FilterBody.kind hb)
      simp only [ofEval_bind, ofEval_inFilter]
      refine ((settles_context h hmem hb env.evaluateBinding _ _).inFilter call.name).bind fun output => ?_
      cases output <;> exact .pure _
    | block run =>
      simp only [ofEval_inFilter, ofEval_fail]
      exact (Settles.fail _).inFilter call.name

/-- An expression is evaluated through expressions of smaller size, if values can be resolved. -/
theorem settles_evalExpression (h : env.Settling I)
    (hresolve : ∀ v, Settles I k fun n => ofEval (env.resolve n v)) (e : Expression) :
    Settles I k fun n => ofEval (env.evalExpression n e) := by
  induction hsize : e.size using Nat.strongRecOn generalizing e with
  | ind size ih =>
    subst hsize
    refine .of_succ rfl ?_
    cases e with
    | literal l => exact .pure _
    | binding path =>
      exact settles_evaluateBinding h hresolve fun e he => settles_evalArgument (ih e.size he e rfl) hresolve
    | array items =>
      simp only [evalExpression, ofEval_bind, ofEval_mapM]
      refine (Settles.mapM items fun item hitem => ?_).bind fun values => .pure _
      have hlt : item.size < (Expression.array items).size := by
        have := Expression.size_le_sizes hitem
        rw [Expression.size]
        omega
      exact (ih item.size hlt item rfl).bind fun v => .pure _
    | object entries =>
      simp only [evalExpression, ofEval_bind, ofEval_mapM]
      refine (Settles.mapM entries fun entry hentry => ?_).bind fun fields => .pure _
      have hlt : entry.2.size < (Expression.object entries).size := by
        have := Expression.size_le_entrySizes hentry
        rw [Expression.size]
        omega
      exact (ih entry.2.size hlt entry.2 rfl).bind fun v => .pure _
    | call call =>
      refine settles_callFilter h fun e he => ?_
      have hlt : e.size < (Expression.call call).size := by
        have := Expression.size_le_sizes he
        rw [Expression.size]
        omega
      exact settles_evalArgument (ih e.size hlt e rfl) hresolve

/-- **Evaluation.** Evaluating ends. The induction is on how many more evaluations may nest, and for expressions on their size.
-/
theorem settlesAt (h : env.Settling I) (k : Nat) : env.SettlesAt I k := by
  induction hleft : env.site.settings.maxNestedEvaluationDepth - k using Nat.strongRecOn generalizing k with
  | ind left ih =>
    have hresolve : ∀ v, Settles I k fun n => ofEval (env.resolve n v) :=
      settles_resolve h.maintains fun hk => ih _ (by omega) (k + 1) rfl
    exact ⟨settles_evalExpression h hresolve, hresolve⟩

theorem settles_argument (h : env.Settling I) (k : Nat) (e : Expression) :
    Settles I k fun n => ofEval (env.evalArgument n e) :=
  settles_evalArgument ((settlesAt h k).expression e) (settlesAt h k).resolve

/-! ## Pipelines -/

/-- A stage that does not write ends. -/
theorem settles_stage (h : env.Settling I) {stage : Stage} (hnot : ¬ env.IsBlock stage) (k : Nat)
    (access : Nat → BlockAccess) (position : Nat) (v : Value) :
    Settles I k fun n => env.runStages n (access n) position [stage] v := by
  have hresolve := (settlesAt h k).resolve
  have hargs : Settles I k fun n => env.stageArgs n stage := by
    unfold stageArgs
    simp only [ofEval_mapM]
    exact Settles.mapM stage.args fun e _ => settles_argument h k e
  have hnext : ∀ v, Settles I k fun n => (do
      env.runStages n (access n) (position + 1) [] (← ofEval (env.resolve n v)) : Emit Session Outcome) := fun v =>
    (hresolve v).bind fun v => .pure _
  simp only [runStages]
  cases hd : env.findFilter stage.name stage.arity with
  | none =>
    simp only
    split
    · exact .pure _
    · exact .fail _
  | some d =>
    refine hargs.bind fun args => ?_
    cases hb : d.body with
    | value run =>
      simp only [ofEval_inFilter]
      exact ((Settles.ofExceptEval _).inFilter stage.name).bind hnext
    | remembering memory run =>
      simp only [ofEval_inFilter]
      exact ((settles_callRemembering h.maintains memory run v args).inFilter stage.name).bind hnext
    | context run =>
      have hmem := h.context _ _ d hd (congrArg FilterBody.kind hb)
      simp only [ofEval_inFilter]
      refine ((settles_context h hmem hb env.evaluateBinding v args).inFilter stage.name).bind fun output => ?_
      cases output with
      | value v => exact hnext v
      | ignore => exact .pure _
      | stop => exact .pure _
    | block run => exact absurd ⟨d, run, hd, hb⟩ hnot

/-- The first value of a pipeline is found. -/
theorem settles_entryValue (h : env.Settling I) (k : Nat) (first : Option Expression) (stages : List Stage) :
    Settles I k fun n => env.entryValue n first stages := by
  have hbase : Settles I k fun n => env.baseValue n first := by
    cases first with
    | none => exact .pure _
    | some e => exact (settlesAt h k).expression e
  refine hbase.bind fun base => ?_
  cases base with
  | some v => exact ((settlesAt h k).resolve v).bind fun v => .pure _
  | none => exact .pure _

end Environment

end PageTemplates
