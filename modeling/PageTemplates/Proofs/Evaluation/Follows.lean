import PageTemplates.Proofs.Evaluation.Bounds
import PageTemplates.Proofs.Evaluation.Fragments
import PageTemplates.Proofs.Evaluation.Pipelines

/-!
# What evaluating does to a session

A relation between the session before and the session after is shown once for all of evaluating and writing. It has to be an
order that allows what evaluating does to the scope by itself, and to hold of what an environment leaves open: caches, what
filters remember, loading pages, and the context and block filters. Main statements: it then holds of evaluating (`followsAt`),
of pipelines (`follows_evaluatePipeline`), and of writing (`follows_writeFragments`).
-/

namespace PageTemplates

/-- An order of sessions. -/
class Session.Order (R : Session → Session → Prop) : Prop where
  refl : ∀ s, R s s
  trans : ∀ {s t u}, R s t → R t u → R s u

/-- An order of sessions that allows what evaluating does to a scope: it sets and removes locals, and enters other scopes and
leaves them again. -/
class Session.ScopeOrder (R : Session → Session → Prop) : Prop extends Session.Order R where
  setLocal : ∀ s name value, R s { s with scope := s.scope.setLocal name value }
  removeLocal : ∀ s name, R s { s with scope := s.scope.removeLocal name }
  /-- A lazy value is evaluated with a higher count of nested evaluations. -/
  nested : ∀ {s t}, R { s with scope := { s.scope with nesting := s.scope.nesting + 1 } } t →
    R s { t with scope := { t.scope with nesting := t.scope.nesting - 1 } }
  /-- A partial is written in a scope of its own. -/
  restored : ∀ {s t scope}, R { s with scope } t → R s { t with scope := s.scope }

namespace Emit

variable {α β : Type} {R : Session → Session → Prop}

/-- However a computation ends, it leaves a session in a relation to the one before. -/
def Follows (R : Session → Session → Prop) (x : Emit Session α) : Prop :=
  ∀ s, R s (x.run s).state

namespace Follows

theorem ofLoad {x : Load α} (hx : ∀ s : Session, R s { s with engine := (Load.runOn x s.engine).2 }) :
    Follows R (ofEval (Eval.ofLoad x)) := by
  intro s
  rw [Environment.run_ofLoad]
  exact hx s

theorem attempt {x : Emit Session α} (hx : Follows R x) : Follows R (Emit.attempt x) :=
  hx

theorem capture {x : Emit Session α} (hx : Follows R x) : Follows R (Emit.capture x) :=
  hx

theorem inFilter (name : String) {x : Emit Session α} (hx : Follows R x) : Follows R (Emit.inFilter name x) :=
  hx

theorem modifyScope {f : Scope → Scope} (hf : ∀ s : Session, R s { s with scope := f s.scope }) :
    Follows R (ofEval (Eval.modifyScope f)) :=
  hf

section

variable [Session.Order R]

theorem pure (a : α) : Follows R (Pure.pure a : Emit Session α) :=
  fun s => Session.Order.refl s

theorem write (bytes : Bytes) : Follows R (Emit.write bytes) :=
  fun s => Session.Order.refl s

theorem writeText (text : String) : Follows R (Emit.writeText text) :=
  fun s => Session.Order.refl s

theorem throwFault (fault : Fault) : Follows R (Emit.throwFault fault : Emit Session α) :=
  fun s => Session.Order.refl s

theorem fail (e : TemplateError) : Follows R (Emit.fail e : Emit Session α) :=
  fun s => Session.Order.refl s

theorem ofExcept (r : Except TemplateError α) : Follows R (Emit.ofExcept r : Emit Session α) := by
  cases r <;> exact fun s => Session.Order.refl s

theorem ofExceptEval (r : Except TemplateError α) : Follows R (ofEval (Eval.ofExcept r)) := by
  cases r <;> exact fun s => Session.Order.refl s

theorem resume (r : Except Fault α) : Follows R (Emit.resume r : Emit Session α) := by
  cases r <;> exact fun s => Session.Order.refl s

theorem scope : Follows R (ofEval Eval.scope) :=
  fun s => Session.Order.refl s

/-- Two changes of the scope in one. -/
theorem modifyScope_comp {f g : Scope → Scope} (hf : Follows R (ofEval (Eval.modifyScope f)))
    (hg : Follows R (ofEval (Eval.modifyScope g))) : Follows R (ofEval (Eval.modifyScope fun s => g (f s))) :=
  fun s => Session.Order.trans (hf s) (hg { s with scope := f s.scope })

theorem bind {x : Emit Session α} {f : α → Emit Session β} (hx : Follows R x) (hf : ∀ a, Follows R (f a)) :
    Follows R (x >>= f) := by
  intro s
  cases hr : (x.run s).outcome with
  | error fault =>
    rw [Stable.run_bind_error hr]
    exact hx s
  | ok a =>
    rw [Stable.run_bind_ok hr]
    exact Session.Order.trans (hx s) (hf a _)

theorem mapM {f : α → Emit Session β} (as : List α) (hf : ∀ a, Follows R (f a)) : Follows R (as.mapM f) := by
  induction as with
  | nil => exact pure []
  | cons a as ih =>
    rw [List.mapM_cons]
    exact (hf a).bind fun b => ih.bind fun bs => pure (b :: bs)

theorem forM {f : α → Emit Session PUnit} (as : List α) (hf : ∀ a, Follows R (f a)) : Follows R (as.forM f) := by
  induction as with
  | nil => exact pure PUnit.unit
  | cons a as ih => exact (hf a).bind fun _ => ih

end

variable [Session.ScopeOrder R]

theorem setLocal (name : String) (value : Value) : Follows R (ofEval (Eval.modifyScope (·.setLocal name value))) :=
  fun s => Session.ScopeOrder.setLocal s name value

theorem removeLocal (name : String) : Follows R (ofEval (Eval.modifyScope (·.removeLocal name))) :=
  fun s => Session.ScopeOrder.removeLocal s name

theorem restoreLocal (name : String) (saved : Option Value) :
    Follows R (ofEval (Eval.modifyScope (·.restoreLocal name saved))) := by
  cases saved with
  | none => exact removeLocal name
  | some value => exact setLocal name value

theorem withScope (scope : Scope) {x : Emit Session α} (hx : Follows R x) : Follows R (Emit.withScope scope x) :=
  fun s => Session.ScopeOrder.restored (hx { s with scope })

end Follows

end Emit

open Emit

/-! ## Actions on the state of the site -/

theorem run_ofExcept {α : Type} (r : Except TemplateError α) (s : Session) :
    (ofEval (Eval.ofExcept r)).run s = { output := [], outcome := r.mapError .error, state := s } := by
  cases r <;> rfl

/-- The scope is changed after a computation, however that ends. -/
theorem run_attempt_modifyScope {α : Type} (x : Emit Session α) (f : Scope → Scope) (s : Session) :
    ((Emit.attempt x >>= fun outcome => ofEval (Eval.modifyScope f) >>= fun _ => Emit.resume outcome).run s).state =
      { (x.run s).state with scope := f (x.run s).state.scope } := by
  rw [Emit.Stable.run_bind_ok (x := Emit.attempt x) rfl, Emit.Stable.run_bind_ok (x := ofEval (Eval.modifyScope f)) (a := ()) rfl]
  cases (x.run s).outcome <;> rfl

/-- Parsing a text through the cache. -/
theorem Scoping.run_parsed (kind : CachedText) (text : String) (build : Except TemplateError kind.Parsed) (s : Session) :
    (ofEval (parsed kind text build)).run s =
      { output := []
        outcome := (s.engine.cache.getOrBuild kind text build).1.mapError .error
        state := { s with engine := { s.engine with cache := (s.engine.cache.getOrBuild kind text build).2 } } } :=
  run_ofExcept (s.engine.cache.getOrBuild kind text build).1 _

/-- Compiling a part of a path through the cache. -/
theorem Environment.run_binder (env : Environment) (kind : ValueKind) (expression rest : String) (s : Session) :
    (ofEval (env.binder kind expression rest)).run s =
      { output := []
        outcome := (s.engine.binders.getOrCompile env.site.compiler kind expression rest).1.mapError .error
        state := { s with engine := { s.engine with
          binders := (s.engine.binders.getOrCompile env.site.compiler kind expression rest).2 } } } :=
  run_ofExcept (s.engine.binders.getOrCompile env.site.compiler kind expression rest).1 _

/-- Beginning to evaluate a lazy value. -/
theorem Environment.run_enterNested (env : Environment) (s : Session) :
    (ofEval env.enterNested).run s =
      if env.site.settings.maxNestedEvaluationDepth ≤ s.scope.nesting then
        { output := []
          outcome := .error (.error (.invalidArgument ("nested expressions exceed the maximum depth of " ++
            toString env.site.settings.maxNestedEvaluationDepth)))
          state := s }
      else
        { output := []
          outcome := .ok ()
          state := { s with scope := { s.scope with nesting := s.scope.nesting + 1 } } } := by
  simp only [enterNested, ofEval_bind]
  rw [Emit.Stable.run_bind_ok (x := ofEval Eval.scope) (a := s.scope) rfl]
  change ((ofEval (if env.site.settings.maxNestedEvaluationDepth ≤ s.scope.nesting then _ else _)).run s) = _
  split <;> rfl

/-- Calling a filter with a memory. -/
theorem Environment.run_callRemembering (memory : String)
    (run : Value → Value → List Value → Except TemplateError (Value × Value)) (v : Value) (args : List Value) (s : Session) :
    (ofEval (callRemembering memory run v args)).run s =
      match run ((Table.get? s.engine.cells memory).getD .null) v args with
      | .ok (remembered, result) =>
        { output := []
          outcome := .ok result
          state := { s with engine := { s.engine with cells := Table.insert s.engine.cells memory remembered } } }
      | .error e => { output := [], outcome := .error (.error e), state := s } := by
  have hget : (ofEval get).run s = ({ output := [], outcome := .ok s, state := s } : Emission Session Session) := rfl
  simp only [callRemembering, ofEval_bind]
  rw [Emit.Stable.run_bind_ok (congrArg Emission.outcome hget), hget]
  cases hr : run ((Table.get? s.engine.cells memory).getD .null) v args with
  | error e =>
    rw [Emit.Stable.run_bind_error (congrArg Emission.outcome (run_ofExcept (.error e) s))]
    rfl
  | ok result =>
    rw [Emit.Stable.run_bind_ok (congrArg Emission.outcome (run_ofExcept (.ok result) s))]
    rfl

/-! ## Filters -/

/-- What a context filter can ask follows an order. -/
structure ScopeAccess.Follows (R : Session → Session → Prop) (access : ScopeAccess) : Prop where
  lookup : ∀ name, Emit.Follows R (ofEval (access.lookup name))
  evaluateBinding : ∀ path, Emit.Follows R (ofEval (access.evaluateBinding path))

/-- What a block filter can ask follows an order. -/
structure BlockAccess.Follows (R : Session → Session → Prop) (access : BlockAccess) : Prop where
  writeFragments : ∀ fragments, Emit.Follows R (access.writeFragments fragments)
  writePartial : ∀ name locals, Emit.Follows R (access.writePartial name locals)

/-- A filter follows an order if what it asks does. -/
def FilterBody.Follows (R : Session → Session → Prop) : FilterBody → Prop
  | .value _ => True
  | .remembering _ _ => True
  | .context run => ∀ access : ScopeAccess, access.Follows R → ∀ v args, Emit.Follows R (ofEval (run access v args))
  | .block run => ∀ access : BlockAccess, access.Follows R → ∀ v args, Emit.Follows R (run access v args)

/-- Value filters ask nothing. -/
theorem FilterBody.follows_of_kind {body : FilterBody} (R : Session → Session → Prop) (h : body.kind = .value) :
    body.Follows R := by
  cases body with
  | value run | remembering memory run => trivial
  | context run | block run => cases h

/-- Parsing a text through the cache is allowed by an order. -/
def Session.AllowsParsing (R : Session → Session → Prop) : Prop :=
  ∀ (s : Session) kind text,
    R s { s with engine := { s.engine with cache := (s.engine.cache.getOrBuild kind text (kind.parse text)).2 } }

section

variable {R : Session → Session → Prop}

theorem Scoping.follows_parsed (h : Session.AllowsParsing R) (kind : CachedText) (text : String) :
    Emit.Follows R (ofEval (parsed kind text (kind.parse text))) := by
  intro s
  rw [run_parsed]
  exact h s kind text

namespace Blocks

/-- Writes an inline template for every item, with the item and its place as locals. -/
def writeItems (access : BlockAccess) (fragments : List Fragment) (items : List Value) : Emit Session Unit :=
  forItems (fun item i => do
    Emit.ofEval (Eval.modifyScope fun s => (s.setLocal "it" item).setLocal "index" (placeValue i))
    access.writeFragments fragments) 0 items

/-- What `select` does once its template is parsed: the locals for item and place are put back when the items are written. -/
def writeSelected (access : BlockAccess) (fragments : List Fragment) (items : List Value) : Emit Session Unit := do
  let locals := (← Emit.ofEval Eval.scope).locals
  Emit.ofEval (Eval.modifyScope fun s => (s.removeLocal "it").removeLocal "index")
  let outcome ← Emit.attempt (writeItems access fragments items)
  Emit.ofEval (Eval.modifyScope fun s =>
    (s.restoreLocal "it" (Table.get? locals "it")).restoreLocal "index" (Table.get? locals "index"))
  Emit.resume outcome

theorem select_eq (access : BlockAccess) (v : Value) (args : List Value) :
    select access v args = (do
      let text ← Emit.ofExcept (Argument.text "select" args 0)
      let fragments ← Emit.ofEval (Scoping.parsed .inlineTemplate text (CachedText.parse .inlineTemplate text))
      writeSelected access fragments (itemsOf v)) := rfl

variable [Session.Order R]

theorem follows_forItems {f : Value → Nat → Emit Session Unit} (hf : ∀ item i, Emit.Follows R (f item i)) (i : Nat)
    (items : List Value) : Emit.Follows R (forItems f i items) := by
  induction items generalizing i with
  | nil => exact Emit.Follows.pure ()
  | cons item items ih => exact (hf item i).bind fun _ => ih (i + 1)

theorem follows_writePage {access : BlockAccess} (hpartial : ∀ name locals, Emit.Follows R (access.writePartial name locals))
    (v : Value) (args : List Value) : Emit.Follows R (writePage access v args) := by
  unfold writePage
  split
  · exact Emit.Follows.fail _
  · exact (Emit.Follows.ofExcept _).bind fun locals => hpartial _ locals

theorem follows_selectPartial {access : BlockAccess}
    (hpartial : ∀ name locals, Emit.Follows R (access.writePartial name locals)) (v : Value) (args : List Value) :
    Emit.Follows R (selectPartial access v args) :=
  (Emit.Follows.ofExcept _).bind fun _ => follows_forItems (fun _ _ => hpartial _ _) 0 _

theorem follows_select (h : Session.AllowsParsing R) {access : BlockAccess}
    (hselected : ∀ fragments items, Emit.Follows R (writeSelected access fragments items)) (v : Value) (args : List Value) :
    Emit.Follows R (select access v args) := by
  rw [select_eq]
  refine (Emit.Follows.ofExcept _).bind fun text => ?_
  exact (Scoping.follows_parsed h .inlineTemplate text).bind fun fragments => hselected fragments _

end Blocks

variable [Session.ScopeOrder R]

theorem Scoping.follows_assignTo (h : Session.AllowsParsing R) {access : ScopeAccess} (ha : access.Follows R) (v : Value)
    (args : List Value) : Emit.Follows R (ofEval (assignTo access v args)) := by
  have hroot : ∀ head, Emit.Follows R (ofEval (takeRoot access head)) := by
    intro head
    simp only [takeRoot, ofEval_bind]
    refine Emit.Follows.scope.bind fun scope => ?_
    cases Table.get? scope.locals head with
    | some root =>
      simp only [ofEval_bind]
      exact (Emit.Follows.removeLocal head).bind fun _ => Emit.Follows.pure root
    | none =>
      simp only [ofEval_bind]
      exact (ha.lookup head).bind fun v => Emit.Follows.pure _
  unfold assignTo
  split
  · exact Emit.Follows.fail _
  · rename_i text _
    simp only [ofEval_bind]
    refine (follows_parsed h .assignTarget text).bind fun target => ?_
    unfold assign
    split
    · simp only [ofEval_bind]
      exact (Emit.Follows.setLocal target.head v).bind fun _ => Emit.Follows.pure _
    · simp only [ofEval_bind]
      refine (hroot target.head).bind fun root => ?_
      refine (Emit.Follows.ofExceptEval _).bind fun root => ?_
      exact (Emit.Follows.setLocal target.head root).bind fun _ => Emit.Follows.pure _

/-- The context filters follow an order that allows parsing. -/
theorem Scoping.follows_filters (h : Session.AllowsParsing R) : ∀ d ∈ filters, d.body.Follows R := by
  intro d hd
  rcases List.mem_cons.1 hd with rfl | hd
  · exact fun access ha v args => follows_assignTo h ha v args
  · obtain rfl := List.mem_singleton.1 hd
    exact fun access _ v args => Emit.Follows.pure _

namespace Blocks

theorem follows_writeItems {access : BlockAccess} (ha : access.Follows R) (fragments : List Fragment) (items : List Value) :
    Emit.Follows R (writeItems access fragments items) := by
  refine follows_forItems (fun item i => ?_) 0 items
  have hlocals := Emit.Follows.modifyScope_comp (Emit.Follows.setLocal (R := R) "it" item) (.setLocal "index" (placeValue i))
  exact hlocals.bind fun _ => ha.writeFragments fragments

theorem follows_writeSelected {access : BlockAccess} (ha : access.Follows R) (fragments : List Fragment) (items : List Value) :
    Emit.Follows R (writeSelected access fragments items) := by
  have hremove := Emit.Follows.modifyScope_comp (Emit.Follows.removeLocal (R := R) "it") (.removeLocal "index")
  refine Emit.Follows.scope.bind fun scope => hremove.bind fun _ => ?_
  refine (follows_writeItems ha fragments items).attempt.bind fun outcome => ?_
  have hrestore := Emit.Follows.modifyScope_comp (Emit.Follows.restoreLocal (R := R) "it" (Table.get? scope.locals "it"))
    (.restoreLocal "index" (Table.get? scope.locals "index"))
  exact hrestore.bind fun _ => Emit.Follows.resume outcome

/-- The block filters follow an order that allows parsing. -/
theorem follows_filters (h : Session.AllowsParsing R) : ∀ d ∈ filters, d.body.Follows R := by
  intro d hd
  simp only [filters, List.mem_cons, List.not_mem_nil, or_false] at hd
  rcases hd with rfl | rfl | rfl | rfl
  · exact fun access ha v args => follows_writePage ha.writePartial v args
  · exact fun access ha v args => follows_writePage ha.writePartial v args
  · exact fun access ha v args => follows_selectPartial ha.writePartial v args
  · exact fun access ha v args => follows_select h (follows_writeSelected ha) v args

end Blocks

end

/-! ## Expressions -/

/-- An environment in which evaluating follows an order: its context filters do, and the order allows paths to be compiled and
filters to remember. -/
structure Environment.Preserves (env : Environment) (R : Session → Session → Prop) : Prop where
  binder : ∀ (s : Session) kind expression rest, R s { s with engine := { s.engine with
    binders := (s.engine.binders.getOrCompile env.site.compiler kind expression rest).2 } }
  cells : ∀ (s : Session) cells, R s { s with engine := { s.engine with cells } }
  context : ∀ name arity d, env.findFilter name arity = some d → d.kind = .context → d.body.Follows R

/-- An environment in which writing follows an order: its block filters do as well, and the order allows texts to be parsed and
partials to be looked for. -/
structure Environment.PreservesWriting (env : Environment) (R : Session → Session → Prop) : Prop extends
    env.Preserves R where
  parsing : Session.AllowsParsing R
  block : ∀ name arity kind d, env.findFilterOfKind name arity kind = some d → d.kind = .block → d.body.Follows R
  found : ∀ page name (s : Session), R s { s with engine := (Load.runOn (env.partialContent page name) s.engine).2 }

namespace Environment

variable {env : Environment} {R : Session → Session → Prop}

theorem follows_binder (h : env.Preserves R) (kind : ValueKind) (expression rest : String) :
    Emit.Follows R (ofEval (env.binder kind expression rest)) := by
  intro s
  rw [run_binder]
  exact h.binder s kind expression rest

theorem PreservesWriting.blockFilter (h : env.PreservesWriting R) {stage : Stage}
    {run : BlockAccess → Value → List Value → Emit Session Unit} (hr : env.blockFilter? stage = some run) :
    (FilterBody.block run).Follows R := by
  unfold blockFilter? at hr
  split at hr
  · rename_i run' hd
    obtain rfl := Option.some.inj hr
    exact h.block _ _ _ _ hd rfl
  · simp at hr

variable [Session.ScopeOrder R]

theorem follows_callRemembering (h : env.Preserves R) (memory : String)
    (run : Value → Value → List Value → Except TemplateError (Value × Value)) (v : Value) (args : List Value) :
    Emit.Follows R (ofEval (callRemembering memory run v args)) := by
  intro s
  rw [run_callRemembering]
  cases run ((Table.get? s.engine.cells memory).getD .null) v args with
  | error e => exact Session.Order.refl s
  | ok result => exact h.cells s _

theorem follows_lookup (h : env.Preserves R) (name : String) : Emit.Follows R (ofEval (env.lookup name)) := by
  simp only [lookup, ofEval_bind]
  refine Emit.Follows.scope.bind fun scope => ?_
  cases env.bound? scope name with
  | some v => exact Emit.Follows.pure _
  | none =>
    simp only [callNullary]
    cases hd : env.findFilterOfKind name 0 .value with
    | none => exact Emit.Follows.pure _
    | some d =>
      cases hb : d.body with
      | value run =>
        simp only [hb, ofEval_bind, ofEval_inFilter]
        exact (Emit.Follows.inFilter name (Emit.Follows.ofExceptEval _)).bind fun v => Emit.Follows.pure _
      | remembering memory run =>
        simp only [hb, ofEval_bind, ofEval_inFilter]
        exact (Emit.Follows.inFilter name (follows_callRemembering h memory run _ _)).bind fun v => Emit.Follows.pure _
      | context run =>
        simp only [hb]
        exact Emit.Follows.pure _
      | block run =>
        simp only [hb]
        exact Emit.Follows.pure _

theorem follows_walk {resolve : Value → Eval Value} {key : Expression → Eval Value}
    (hresolve : ∀ v, Emit.Follows R (ofEval (resolve v))) (hkey : ∀ e, Emit.Follows R (ofEval (key e)))
    (steps : List (Accessor Expression)) (v : Value) : Emit.Follows R (ofEval (walk resolve key steps v)) := by
  induction steps generalizing v with
  | nil => exact hresolve v
  | cons step steps ih =>
    simp only [walk, ofEval_bind]
    refine (hresolve v).bind fun v => ?_
    split
    · exact Emit.Follows.pure _
    · cases step with
      | member name => exact ih _
      | index e =>
        simp only [ofEval_bind]
        exact (hkey e).bind fun k => ih _

/-- Evaluating with a bound follows an order. -/
structure FollowsAt (env : Environment) (R : Session → Session → Prop) (fuel : Nat) : Prop where
  expression : ∀ e, Emit.Follows R (ofEval (env.evalExpression fuel e))
  argument : ∀ e, Emit.Follows R (ofEval (env.evalArgument fuel e))
  call : ∀ call, Emit.Follows R (ofEval (env.callFilter fuel call))
  resolve : ∀ v, Emit.Follows R (ofEval (env.resolve fuel v))
  resolveNested : ∀ v, Emit.Follows R (ofEval (env.resolveNested fuel v))
  binding : ∀ path, Emit.Follows R (ofEval (env.evaluateBinding fuel path))

variable {fuel : Nat}

theorem FollowsAt.access (h : env.Preserves R) (hf : env.FollowsAt R fuel) :
    ScopeAccess.Follows R { lookup := env.lookup, evaluateBinding := env.evaluateBinding fuel } :=
  ⟨follows_lookup h, hf.binding⟩

theorem follows_evalExpression (hf : env.FollowsAt R fuel) (e : Expression) :
    Emit.Follows R (ofEval (env.evalExpression (fuel + 1) e)) := by
  cases e with
  | literal l => exact Emit.Follows.pure _
  | binding path => exact hf.binding path.text
  | array items =>
    simp only [evalExpression, ofEval_bind, ofEval_mapM]
    refine (Emit.Follows.mapM items fun item => ?_).bind fun values => Emit.Follows.pure _
    exact (hf.expression item).bind fun v => Emit.Follows.pure _
  | object entries =>
    simp only [evalExpression, ofEval_bind, ofEval_mapM]
    refine (Emit.Follows.mapM entries fun entry => ?_).bind fun fields => Emit.Follows.pure _
    exact (hf.expression entry.2).bind fun v => Emit.Follows.pure _
  | call call => exact hf.call call

theorem follows_evalArgument (hf : env.FollowsAt R fuel) (e : Expression) :
    Emit.Follows R (ofEval (env.evalArgument (fuel + 1) e)) := by
  simp only [evalArgument, ofEval_bind]
  exact (hf.expression e).bind fun v => hf.resolve _

theorem follows_callFilter (h : env.Preserves R) (hf : env.FollowsAt R fuel) (call : FilterCall Expression) :
    Emit.Follows R (ofEval (env.callFilter (fuel + 1) call)) := by
  rw [callFilter]
  cases hd : env.findFilter call.name call.args.length with
  | none => exact Emit.Follows.pure _
  | some d =>
    simp only [ofEval_bind, ofEval_mapM]
    refine (Emit.Follows.mapM call.args hf.argument).bind fun values => ?_
    cases hb : d.body with
    | value run =>
      simp only [ofEval_bind, ofEval_inFilter]
      exact (Emit.Follows.inFilter call.name (Emit.Follows.ofExceptEval _)).bind fun v => Emit.Follows.pure _
    | remembering memory run =>
      simp only [ofEval_bind, ofEval_inFilter]
      exact (Emit.Follows.inFilter call.name (follows_callRemembering h memory run _ _)).bind fun v => Emit.Follows.pure _
    | context run =>
      have hbody := h.context _ _ d hd (congrArg FilterBody.kind hb)
      rw [hb] at hbody
      simp only [ofEval_bind, ofEval_inFilter]
      refine (Emit.Follows.inFilter call.name (hbody _ (hf.access h) _ _)).bind fun output => ?_
      cases output <;> exact Emit.Follows.pure _
    | block run =>
      simp only [ofEval_inFilter, ofEval_fail]
      exact Emit.Follows.inFilter call.name (Emit.Follows.fail _)

theorem follows_resolve (hf : env.FollowsAt R fuel) (v : Value) : Emit.Follows R (ofEval (env.resolve (fuel + 1) v)) := by
  rw [Environment.resolve]
  split
  · exact Emit.Follows.pure v
  · simp only [ofEval_bind, ofEval_attempt, ofEval_resume]
    intro s
    have henter := run_enterNested env s
    by_cases hlimit : env.site.settings.maxNestedEvaluationDepth ≤ s.scope.nesting
    · rw [if_pos hlimit] at henter
      rw [Emit.Stable.run_bind_error (congrArg Emission.outcome henter), henter]
      exact Session.Order.refl s
    · rw [if_neg hlimit] at henter
      rw [Emit.Stable.run_bind_ok (congrArg Emission.outcome henter), henter, exitNested, run_attempt_modifyScope]
      exact Session.ScopeOrder.nested (hf.resolveNested v _)

theorem follows_resolveNested (hf : env.FollowsAt R fuel) (v : Value) :
    Emit.Follows R (ofEval (env.resolveNested (fuel + 1) v)) := by
  cases v with
  | expression e =>
    simp only [Environment.resolveNested, ofEval_bind]
    exact (hf.expression e).bind fun v => hf.resolve _
  | array items =>
    simp only [Environment.resolveNested, ofEval_bind, ofEval_mapM]
    exact (Emit.Follows.mapM items hf.resolve).bind fun items => Emit.Follows.pure _
  | object fields =>
    simp only [Environment.resolveNested, ofEval_bind, ofEval_mapM]
    refine (Emit.Follows.mapM fields fun field => ?_).bind fun fields => Emit.Follows.pure _
    exact (hf.resolve field.2).bind fun v => Emit.Follows.pure _
  | null | bool b | int i | float x | string s | raw s => exact Emit.Follows.pure _

theorem follows_evaluateBinding (h : env.Preserves R) (hf : env.FollowsAt R fuel) (path : String) :
    Emit.Follows R (ofEval (env.evaluateBinding (fuel + 1) path)) := by
  simp only [Environment.evaluateBinding, ofEval_bind]
  refine (follows_lookup h _).bind fun found => ?_
  cases found with
  | none => exact Emit.Follows.pure _
  | some v =>
    simp only [ofEval_bind]
    refine (hf.resolve v).bind fun root => ?_
    split
    · exact Emit.Follows.pure _
    · simp only [ofEval_bind]
      refine (follows_binder h root.kind path _).bind fun binder => ?_
      cases binder with
      | constant v => exact Emit.Follows.pure _
      | walk steps =>
        simp only [ofEval_bind]
        exact (follows_walk hf.resolve hf.argument steps root).bind fun v => Emit.Follows.pure _

/-- **Evaluation.** Evaluating follows an order that its environment preserves, whether it gives a value or fails. -/
theorem followsAt (h : env.Preserves R) (fuel : Nat) : env.FollowsAt R fuel := by
  induction fuel with
  | zero =>
    exact ⟨fun _ => Emit.Follows.throwFault _, fun _ => Emit.Follows.throwFault _, fun _ => Emit.Follows.throwFault _,
      fun _ => Emit.Follows.throwFault _, fun _ => Emit.Follows.throwFault _, fun _ => Emit.Follows.throwFault _⟩
  | succ fuel ih =>
    exact ⟨follows_evalExpression ih, follows_evalArgument ih, follows_callFilter h ih, follows_resolve ih,
      follows_resolveNested ih, follows_evaluateBinding h ih⟩

/-! ## Pipelines -/

theorem follows_stageArgs (h : env.Preserves R) (fuel : Nat) (stage : Stage) : Emit.Follows R (env.stageArgs fuel stage) := by
  unfold stageArgs
  simp only [ofEval_mapM]
  exact Emit.Follows.mapM stage.args (followsAt h fuel).argument

variable {access : BlockAccess}

/-- A stage that does not write asks nothing of the block filters. -/
theorem follows_stage (h : env.Preserves R) {stage : Stage} (hnot : ¬ env.IsBlock stage) (fuel : Nat) (access : BlockAccess)
    (position : Nat) (v : Value) : Emit.Follows R (env.runStages fuel access position [stage] v) := by
  have hnext : ∀ v, Emit.Follows R (do
      env.runStages fuel access (position + 1) [] (← Emit.ofEval (env.resolve fuel v))) := fun v =>
    ((followsAt h fuel).resolve v).bind fun v => Emit.Follows.pure _
  rw [runStages]
  cases hd : env.findFilter stage.name stage.arity with
  | none =>
    simp only
    split
    · exact Emit.Follows.pure _
    · exact Emit.Follows.fail _
  | some d =>
    refine (follows_stageArgs h fuel stage).bind fun args => ?_
    cases hb : d.body with
    | value run =>
      simp only [ofEval_inFilter]
      exact (Emit.Follows.inFilter stage.name (Emit.Follows.ofExceptEval _)).bind hnext
    | remembering memory run =>
      simp only [ofEval_inFilter]
      exact (Emit.Follows.inFilter stage.name (follows_callRemembering h memory run _ _)).bind hnext
    | context run =>
      have hbody := h.context _ _ d hd (congrArg FilterBody.kind hb)
      rw [hb] at hbody
      simp only [ofEval_inFilter]
      refine (Emit.Follows.inFilter stage.name (hbody _ ((followsAt h fuel).access h) v args)).bind fun output => ?_
      cases output with
      | value v => exact hnext v
      | ignore => exact Emit.Follows.pure _
      | stop => exact Emit.Follows.pure _
    | block run => exact absurd ⟨d, run, hd, hb⟩ hnot

/-- What writes follows an order with the stages that get its output, if these do. -/
theorem follows_passOn {writing : Emit Session Unit} (hwriting : Emit.Follows R writing) {fuel : Nat} {stages : List Stage}
    (hchain : ∀ buffer, Emit.Follows R (env.writeChain fuel access buffer stages)) :
    Emit.Follows R (env.passOn fuel access writing stages) := by
  unfold passOn
  split
  · exact hwriting
  · exact hwriting.capture.bind fun next => hchain next.2

theorem follows_writeChain (h : env.PreservesWriting R) (fuel : Nat) (ha : access.Follows R) (buffer : Bytes)
    (stages : List Stage) : Emit.Follows R (env.writeChain fuel access buffer stages) := by
  induction stages generalizing buffer with
  | nil => exact Emit.Follows.write buffer
  | cons stage stages ih =>
    cases hrun : env.blockFilter? stage with
    | some run =>
      rw [writeChain_block _ _ _ hrun]
      refine (Emit.Follows.ofExcept _).bind fun text => (follows_stageArgs h.toPreserves fuel stage).bind fun args => ?_
      exact follows_passOn (Emit.Follows.inFilter stage.name (h.blockFilter hrun _ ha (.string text) args)) ih
    | none =>
      rw [writeChain_transformer _ _ _ hrun]
      split
      · exact (Emit.Follows.ofExcept _).bind fun next => ih next
      · exact Emit.Follows.fail _

theorem follows_runStages (h : env.PreservesWriting R) (fuel : Nat) (ha : access.Follows R) (position : Nat)
    (stages : List Stage) (v : Value) : Emit.Follows R (env.runStages fuel access position stages v) := by
  induction stages generalizing position v with
  | nil => exact Emit.Follows.pure _
  | cons stage stages ih =>
    by_cases hblock : env.IsBlock stage
    · obtain ⟨d, run, hd, hbody⟩ := hblock
      obtain ⟨kind, hkind⟩ := exists_kind_of_findFilter hd
      have hfilter := h.block _ _ _ d hkind (congrArg FilterBody.kind hbody)
      rw [hbody] at hfilter
      rw [runStages_block _ _ _ hd hbody]
      refine (follows_stageArgs h.toPreserves fuel stage).bind fun args => ?_
      have hwriting := Emit.Follows.inFilter stage.name (hfilter _ ha v args)
      exact (follows_passOn hwriting (follows_writeChain h fuel ha · stages)).bind fun _ => Emit.Follows.pure _
    · rw [runStages_cons _ _ _ hblock]
      refine (follows_stage h.toPreserves hblock fuel access position v).bind fun outcome => ?_
      cases outcome with
      | value v => exact ih (position + 1) v
      | ignored | unhandled | written => exact Emit.Follows.pure _

theorem follows_baseValue (h : env.Preserves R) (fuel : Nat) (first : Option Expression) :
    Emit.Follows R (env.baseValue fuel first) := by
  cases first with
  | none => exact Emit.Follows.pure _
  | some e => exact (followsAt h fuel).expression e

theorem follows_entryValue (h : env.Preserves R) (fuel : Nat) (first : Option Expression) (stages : List Stage) :
    Emit.Follows R (env.entryValue fuel first stages) := by
  refine (follows_baseValue h fuel first).bind fun base => ?_
  cases base with
  | some v => exact ((followsAt h fuel).resolve v).bind fun v => Emit.Follows.pure _
  | none => exact Emit.Follows.pure _

/-- **Pipelines.** Evaluating a pipeline follows an order that its environment preserves. -/
theorem follows_evaluatePipeline (h : env.PreservesWriting R) (fuel : Nat) (ha : access.Follows R) (initial : Expression)
    (calls : List (FilterCall Expression)) : Emit.Follows R (env.evaluatePipeline fuel access initial calls) := by
  rw [evaluatePipeline_eq]
  split
  · exact Emit.Follows.pure _
  · refine (follows_entryValue h.toPreserves fuel _ _).bind fun v => ?_
    cases v with
    | some v => exact follows_runStages h fuel ha 0 _ v
    | none => exact Emit.Follows.pure _

/-! ## Fragments -/

theorem follows_writeVariable (h : env.PreservesWriting R) (fuel : Nat) (ha : access.Follows R) (v : Variable) :
    Emit.Follows R (env.writeVariable fuel access v) := by
  have hrecover : ∀ format outcome, Emit.Follows R (env.recover format outcome) := by
    intro format outcome
    unfold recover
    split
    · exact Emit.Follows.pure _
    · exact Emit.Follows.throwFault _
    · split
      · exact Emit.Follows.pure _
      · exact Emit.Follows.fail _
  refine (Emit.Follows.attempt (follows_evaluatePipeline h fuel ha v.initial v.stages)).bind fun outcome => ?_
  refine Emit.Follows.scope.bind fun scope => (hrecover scope.format outcome).bind fun outcome => ?_
  split
  · exact Emit.Follows.writeText _
  · exact Emit.Follows.pure _

theorem follows_writeFragment (h : env.PreservesWriting R) (fuel : Nat) (ha : access.Follows R) (f : Fragment) :
    Emit.Follows R (env.writeFragment fuel access f) := by
  cases f with
  | text s => exact Emit.Follows.writeText s
  | var v => exact follows_writeVariable h fuel ha v

theorem follows_writePartial (h : env.PreservesWriting R) {write : List Fragment → Emit Session Unit}
    (hwrite : ∀ fragments, Emit.Follows R (write fragments)) (name : String) (locals : Table Value) :
    Emit.Follows R (env.writePartial write name locals) := by
  rw [writePartial_eq]
  refine Emit.Follows.scope.bind fun scope => ?_
  split
  · exact Emit.Follows.fail _
  · refine (Emit.Follows.ofLoad (h.found scope.page.path name)).bind fun page => ?_
    exact Emit.Follows.withScope _ (hwrite page.content.fragments)

/-- **Writing.** Writing a template follows an order that its environment preserves. -/
theorem follows_writeFragments (h : env.PreservesWriting R) (fuel : Nat) (fragments : List Fragment) :
    Emit.Follows R (env.writeFragments fuel fragments) := by
  induction fuel generalizing fragments with
  | zero => exact Emit.Follows.throwFault _
  | succ fuel ih =>
    rw [writeFragments_succ]
    exact Emit.Follows.forM fragments (follows_writeFragment h fuel ⟨ih, follows_writePartial h ih⟩)

theorem follows_access (h : env.PreservesWriting R) (fuel : Nat) : (env.access fuel).Follows R :=
  ⟨follows_writeFragments h fuel, follows_writePartial h (follows_writeFragments h fuel)⟩

end Environment

end PageTemplates
