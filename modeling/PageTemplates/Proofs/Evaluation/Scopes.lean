import PageTemplates.Proofs.Evaluation.Follows

/-!
# What evaluating leaves as it is

However an evaluation ends, the scope is the same afterwards except for the locals: the page, the depth of partials, and the
count of nested evaluations. Properties of the state of the site that loading pages and filling caches keep are kept. Main
statements: this holds of evaluating (`steadyAt`), of pipelines (`steady_evaluatePipeline`), and of writing
(`steady_writeFragments`).
-/

namespace PageTemplates

/-- A session after another one: in the same scope but for the locals, and with a property of the site if that had it. -/
structure Session.Steady (I : Engine → Prop) (s t : Session) : Prop where
  scope : t.scope = { s.scope with locals := t.scope.locals }
  engine : I s.engine → I t.engine

namespace Session.Steady

variable {I : Engine → Prop} {s t u : Session}

theorem refl (s : Session) : Session.Steady I s s :=
  ⟨rfl, id⟩

theorem trans (h : Session.Steady I s t) (h' : Session.Steady I t u) : Session.Steady I s u := by
  refine ⟨?_, fun hs => h'.engine (h.engine hs)⟩
  rw [h'.scope, h.scope]

theorem depth (h : Session.Steady I s t) : t.scope.depth = s.scope.depth := by
  rw [h.scope]

theorem nesting (h : Session.Steady I s t) : t.scope.nesting = s.scope.nesting := by
  rw [h.scope]

theorem format (h : Session.Steady I s t) : t.scope.format = s.scope.format := by
  rw [h.scope]

instance : Session.ScopeOrder (Session.Steady I) where
  refl := .refl
  trans := .trans
  setLocal _ _ _ := ⟨rfl, id⟩
  removeLocal _ _ := ⟨rfl, id⟩
  nested h := by
    -- The count is one more inside, and the evaluation inside leaves it so.
    refine ⟨?_, h.engine⟩
    simp only
    rw [h.scope]
    rfl
  restored h := ⟨rfl, h.engine⟩

end Session.Steady

namespace Emit

variable {α β : Type} {I : Engine → Prop}

/-- However a computation ends, it leaves a session in the same scope but for the locals, and keeps a property of the site. -/
def Steady (I : Engine → Prop) (x : Emit Session α) : Prop :=
  ∀ s, Session.Steady I s (x.run s).state

namespace Steady

theorem pure (a : α) : Steady I (Pure.pure a : Emit Session α) :=
  Follows.pure a

theorem write (bytes : Bytes) : Steady I (Emit.write bytes) :=
  Follows.write bytes

theorem writeText (text : String) : Steady I (Emit.writeText text) :=
  Follows.writeText text

theorem throwFault (fault : Fault) : Steady I (Emit.throwFault fault : Emit Session α) :=
  Follows.throwFault fault

theorem fail (e : TemplateError) : Steady I (Emit.fail e : Emit Session α) :=
  Follows.fail e

theorem ofExcept (r : Except TemplateError α) : Steady I (Emit.ofExcept r : Emit Session α) :=
  Follows.ofExcept r

theorem ofExceptEval (r : Except TemplateError α) : Steady I (ofEval (Eval.ofExcept r)) :=
  Follows.ofExceptEval r

theorem bind {x : Emit Session α} {f : α → Emit Session β} (hx : Steady I x) (hf : ∀ a, Steady I (f a)) :
    Steady I (x >>= f) :=
  Follows.bind hx hf

theorem capture {x : Emit Session α} (hx : Steady I x) : Steady I (Emit.capture x) :=
  hx

theorem inFilter (name : String) {x : Emit Session α} (hx : Steady I x) : Steady I (Emit.inFilter name x) :=
  hx

theorem mapM {f : α → Emit Session β} (as : List α) (hf : ∀ a, Steady I (f a)) : Steady I (as.mapM f) :=
  Follows.mapM as hf

theorem scope : Steady I (ofEval Eval.scope) :=
  Follows.scope

theorem modifyScope {f : Scope → Scope} (hf : ∀ s, f s = { s with locals := (f s).locals }) :
    Steady I (ofEval (Eval.modifyScope f)) :=
  Follows.modifyScope fun s => ⟨hf s.scope, id⟩

end Steady

end Emit

open Emit

/-! ## Filters -/

/-- What a context filter can ask is steady. -/
structure ScopeAccess.Steady (I : Engine → Prop) (access : ScopeAccess) : Prop where
  lookup : ∀ name, Emit.Steady I (ofEval (access.lookup name))
  evaluateBinding : ∀ path, Emit.Steady I (ofEval (access.evaluateBinding path))

/-- What a block filter can ask is steady. -/
structure BlockAccess.Steady (I : Engine → Prop) (access : BlockAccess) : Prop where
  writeFragments : ∀ fragments, Emit.Steady I (access.writeFragments fragments)
  writePartial : ∀ name locals, Emit.Steady I (access.writePartial name locals)

/-- A filter is steady if what it asks is. -/
def FilterBody.Steady (I : Engine → Prop) : FilterBody → Prop
  | .value _ => True
  | .remembering _ _ => True
  | .context run => ∀ access : ScopeAccess, access.Steady I → ∀ v args, Emit.Steady I (ofEval (run access v args))
  | .block run => ∀ access : BlockAccess, access.Steady I → ∀ v args, Emit.Steady I (run access v args)

/-- Parsing texts through the cache keeps a property of states. -/
def KeptByParsing (I : Engine → Prop) : Prop :=
  ∀ e kind text, I e → I { e with cache := (e.cache.getOrBuild kind text (kind.parse text)).2 }

theorem Caching.keptByParsing {compiler : BindingCompiler} {I : Engine → Prop} (h : Caching compiler I) : KeptByParsing I :=
  fun e kind text he => (h.text e kind text he).2

section

variable {I : Engine → Prop}

theorem ScopeAccess.Follows.steady {access : ScopeAccess} (h : access.Follows (Session.Steady I)) : access.Steady I :=
  ⟨h.lookup, h.evaluateBinding⟩

theorem ScopeAccess.Steady.follows {access : ScopeAccess} (h : access.Steady I) : access.Follows (Session.Steady I) :=
  ⟨h.lookup, h.evaluateBinding⟩

theorem BlockAccess.Follows.steady {access : BlockAccess} (h : access.Follows (Session.Steady I)) : access.Steady I :=
  ⟨h.writeFragments, h.writePartial⟩

theorem BlockAccess.Steady.follows {access : BlockAccess} (h : access.Steady I) : access.Follows (Session.Steady I) :=
  ⟨h.writeFragments, h.writePartial⟩

/-- To be steady is to follow the order of steady sessions. -/
theorem FilterBody.follows_iff_steady {body : FilterBody} : body.Follows (Session.Steady I) ↔ body.Steady I := by
  cases body with
  | value run | remembering memory run => exact Iff.rfl
  | context run =>
    exact ⟨fun h access ha v args => h access ha.follows v args, fun h access ha v args => h access ha.steady v args⟩
  | block run =>
    exact ⟨fun h access ha v args => h access ha.follows v args, fun h access ha v args => h access ha.steady v args⟩

theorem KeptByParsing.allowsParsing (h : KeptByParsing I) : Session.AllowsParsing (Session.Steady I) :=
  fun s kind text => ⟨rfl, h s.engine kind text⟩

theorem Scoping.steady_parsed (h : KeptByParsing I) (kind : CachedText) (text : String) :
    Emit.Steady I (ofEval (parsed kind text (kind.parse text))) :=
  follows_parsed h.allowsParsing kind text

/-- The context filters are steady. -/
theorem Scoping.steady_filters (h : KeptByParsing I) : ∀ d ∈ filters, d.body.Steady I :=
  fun d hd => FilterBody.follows_iff_steady.1 (follows_filters h.allowsParsing d hd)

theorem Blocks.steady_forItems {f : Value → Nat → Emit Session Unit} (hf : ∀ item i, Emit.Steady I (f item i)) (i : Nat)
    (items : List Value) : Emit.Steady I (forItems f i items) :=
  follows_forItems hf i items

/-- The block filters are steady. -/
theorem Blocks.steady_filters (h : KeptByParsing I) : ∀ d ∈ filters, d.body.Steady I :=
  fun d hd => FilterBody.follows_iff_steady.1 (follows_filters h.allowsParsing d hd)

end

/-! ## Expressions -/

/-- An environment in which evaluating keeps a property of states: the context filters do, and compiling paths and what filters
remember makes no difference to it. -/
structure Environment.Maintains (env : Environment) (I : Engine → Prop) : Prop where
  binder : ∀ e kind expression rest, I e →
    I { e with binders := (e.binders.getOrCompile env.site.compiler kind expression rest).2 }
  cells : ∀ e cells, I e → I { e with cells }
  context : ∀ name arity d, env.findFilter name arity = some d → d.kind = .context → d.body.Steady I

/-- An environment in which writing keeps a property of states: its block filters do as well, and parsing texts and looking for
partials makes no difference to it. -/
structure Environment.MaintainsWriting (env : Environment) (I : Engine → Prop) : Prop extends env.Maintains I where
  parsing : KeptByParsing I
  block : ∀ name arity kind d, env.findFilterOfKind name arity kind = some d → d.kind = .block → d.body.Steady I
  found : ∀ page name e, I e → I (Load.runOn (env.partialContent page name) e).2

/-- An environment that keeps a property of states: its filters do, what filters remember and what is cached makes no difference
to it, and neither does looking for partials. -/
structure Environment.Keeps (env : Environment) (I : Engine → Prop) : Prop where
  caching : Caching env.site.compiler I
  cells : ∀ e cells, I e → I { e with cells }
  filter : ∀ name arity kind d, env.findFilterOfKind name arity kind = some d → d.body.Steady I
  found : ∀ page name e, I e → I (Load.runOn (env.partialContent page name) e).2

namespace Environment

variable {env : Environment} {I : Engine → Prop}

theorem Keeps.maintainsWriting (h : env.Keeps I) : env.MaintainsWriting I where
  binder e kind expression rest he := (h.caching.binder e kind expression rest he).2
  cells := h.cells
  context name arity d hd _ := by
    obtain ⟨kind, hkind⟩ := exists_kind_of_findFilter hd
    exact h.filter name arity kind d hkind
  parsing := h.caching.keptByParsing
  block name arity kind d hd _ := h.filter name arity kind d hd
  found := h.found

theorem Keeps.maintains (h : env.Keeps I) : env.Maintains I :=
  h.maintainsWriting.toMaintains

/-- A property of the scope alone is kept if the filters keep it, whatever the caches hold. -/
theorem maintainsWriting_true (h : ∀ name arity kind d, env.findFilterOfKind name arity kind = some d →
    d.body.Steady fun _ => True) : env.MaintainsWriting fun _ => True where
  binder _ _ _ _ _ := trivial
  cells _ _ _ := trivial
  context name arity d hd _ := by
    obtain ⟨kind, hkind⟩ := exists_kind_of_findFilter hd
    exact h name arity kind d hkind
  parsing _ _ _ _ := trivial
  block name arity kind d hd _ := h name arity kind d hd
  found _ _ _ _ := trivial

theorem Maintains.preserves (h : env.Maintains I) : env.Preserves (Session.Steady I) where
  binder s kind expression rest := ⟨rfl, h.binder s.engine kind expression rest⟩
  cells s cells := ⟨rfl, h.cells s.engine cells⟩
  context name arity d hd hkind := FilterBody.follows_iff_steady.2 (h.context name arity d hd hkind)

theorem MaintainsWriting.preservesWriting (h : env.MaintainsWriting I) : env.PreservesWriting (Session.Steady I) where
  toPreserves := h.toMaintains.preserves
  parsing := h.parsing.allowsParsing
  block name arity kind d hd hkind := FilterBody.follows_iff_steady.2 (h.block name arity kind d hd hkind)
  found page name s := ⟨rfl, h.found page name s.engine⟩

theorem steady_callRemembering (h : env.Maintains I) (memory : String)
    (run : Value → Value → List Value → Except TemplateError (Value × Value)) (v : Value) (args : List Value) :
    Emit.Steady I (ofEval (callRemembering memory run v args)) :=
  follows_callRemembering h.preserves memory run v args

theorem steady_binder (h : env.Maintains I) (kind : ValueKind) (expression rest : String) :
    Emit.Steady I (ofEval (env.binder kind expression rest)) :=
  follows_binder h.preserves kind expression rest

theorem steady_lookup (h : env.Maintains I) (name : String) : Emit.Steady I (ofEval (env.lookup name)) :=
  follows_lookup h.preserves name

theorem steady_walk {resolve : Value → Eval Value} {key : Expression → Eval Value}
    (hresolve : ∀ v, Emit.Steady I (ofEval (resolve v))) (hkey : ∀ e, Emit.Steady I (ofEval (key e)))
    (steps : List (Accessor Expression)) (v : Value) : Emit.Steady I (ofEval (walk resolve key steps v)) :=
  follows_walk hresolve hkey steps v

/-- Evaluating with a bound is steady. -/
structure SteadyAt (env : Environment) (I : Engine → Prop) (fuel : Nat) : Prop where
  expression : ∀ e, Emit.Steady I (ofEval (env.evalExpression fuel e))
  argument : ∀ e, Emit.Steady I (ofEval (env.evalArgument fuel e))
  call : ∀ call, Emit.Steady I (ofEval (env.callFilter fuel call))
  resolve : ∀ v, Emit.Steady I (ofEval (env.resolve fuel v))
  resolveNested : ∀ v, Emit.Steady I (ofEval (env.resolveNested fuel v))
  binding : ∀ path, Emit.Steady I (ofEval (env.evaluateBinding fuel path))

variable {fuel : Nat}

theorem SteadyAt.access (h : env.Maintains I) (hf : env.SteadyAt I fuel) :
    ScopeAccess.Steady I { lookup := env.lookup, evaluateBinding := env.evaluateBinding fuel } :=
  ⟨steady_lookup h, hf.binding⟩

/-- **Evaluation.** Evaluating leaves the scope as it was but for the locals, whether it gives a value or fails. -/
theorem steadyAt (h : env.Maintains I) (fuel : Nat) : env.SteadyAt I fuel :=
  have hfollows := followsAt h.preserves fuel
  ⟨hfollows.expression, hfollows.argument, hfollows.call, hfollows.resolve, hfollows.resolveNested, hfollows.binding⟩

/-! ## Pipelines -/

theorem steady_stageArgs (h : env.Maintains I) (fuel : Nat) (stage : Stage) : Emit.Steady I (env.stageArgs fuel stage) :=
  follows_stageArgs h.preserves fuel stage

variable {access : BlockAccess}

/-- A stage that does not write asks nothing of the block filters. -/
theorem steady_stage (h : env.Maintains I) {stage : Stage} (hnot : ¬ env.IsBlock stage) (fuel : Nat) (access : BlockAccess)
    (position : Nat) (v : Value) : Emit.Steady I (env.runStages fuel access position [stage] v) :=
  follows_stage h.preserves hnot fuel access position v

theorem steady_runStages (h : env.MaintainsWriting I) (fuel : Nat) (ha : access.Steady I) (position : Nat)
    (stages : List Stage) (v : Value) : Emit.Steady I (env.runStages fuel access position stages v) :=
  follows_runStages h.preservesWriting fuel ha.follows position stages v

theorem steady_baseValue (h : env.Maintains I) (fuel : Nat) (first : Option Expression) :
    Emit.Steady I (env.baseValue fuel first) :=
  follows_baseValue h.preserves fuel first

theorem steady_entryValue (h : env.Maintains I) (fuel : Nat) (first : Option Expression) (stages : List Stage) :
    Emit.Steady I (env.entryValue fuel first stages) :=
  follows_entryValue h.preserves fuel first stages

/-- Evaluating a pipeline leaves the scope as it was but for the locals. -/
theorem steady_evaluatePipeline (h : env.MaintainsWriting I) (fuel : Nat) (ha : access.Steady I) (initial : Expression)
    (calls : List (FilterCall Expression)) : Emit.Steady I (env.evaluatePipeline fuel access initial calls) :=
  follows_evaluatePipeline h.preservesWriting fuel ha.follows initial calls

/-! ## Fragments -/

theorem steady_writeVariable (h : env.MaintainsWriting I) (fuel : Nat) (ha : access.Steady I) (v : Variable) :
    Emit.Steady I (env.writeVariable fuel access v) :=
  follows_writeVariable h.preservesWriting fuel ha.follows v

/-- **Writing.** Writing a template leaves the scope as it was but for the locals. -/
theorem steady_writeFragments (h : env.MaintainsWriting I) (fuel : Nat) (fragments : List Fragment) :
    Emit.Steady I (env.writeFragments fuel fragments) :=
  follows_writeFragments h.preservesWriting fuel fragments

theorem steady_access (h : env.MaintainsWriting I) (fuel : Nat) : (env.access fuel).Steady I :=
  (follows_access h.preservesWriting fuel).steady

end Environment

end PageTemplates
