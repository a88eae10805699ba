import PageTemplates.Proofs.Evaluation.Bounds
import PageTemplates.Proofs.Evaluation.Fragments
import PageTemplates.Proofs.Evaluation.Pipelines

/-!
# Larger bounds change nothing

Under a larger bound an evaluation does what it does under a smaller one within which it stays. Filters see the bound only
through what they ask of the evaluation, so it is enough that they do the same when this does. Main statements: the built-in
filters grow with what they ask (`BuiltIn.monotone_body`), and so do evaluating (`belowAt`), writing (`below_writeFragments`)
and whole renders (`Site.below_writeTo`).
-/

namespace PageTemplates

/-- One evaluation is below another. -/
abbrev Eval.Below {α : Type} (x y : Eval α) : Prop :=
  Emit.Below (Emit.ofEval x) (Emit.ofEval y)

/-- What a context filter can ask is below something else to ask. -/
structure ScopeAccess.Below (access access' : ScopeAccess) : Prop where
  lookup : ∀ name, Eval.Below (access.lookup name) (access'.lookup name)
  evaluateBinding : ∀ path, Eval.Below (access.evaluateBinding path) (access'.evaluateBinding path)

/-- What a block filter can ask is below something else to ask. -/
structure BlockAccess.Below (access access' : BlockAccess) : Prop where
  writeFragments : ∀ fragments, Emit.Below (access.writeFragments fragments) (access'.writeFragments fragments)
  writePartial : ∀ name locals, Emit.Below (access.writePartial name locals) (access'.writePartial name locals)

/-- A filter grows with what it asks. -/
def FilterBody.Monotone : FilterBody → Prop
  | .value _ => True
  | .remembering _ _ => True
  | .context run => ∀ access access' : ScopeAccess, access.Below access' → ∀ v args,
      Eval.Below (run access v args) (run access' v args)
  | .block run => ∀ access access' : BlockAccess, access.Below access' → ∀ v args,
      Emit.Below (run access v args) (run access' v args)

/-! ## Built-in filters -/

theorem Scoping.below_assignTo {access access' : ScopeAccess} (h : access.Below access') (v : Value) (args : List Value) :
    Eval.Below (assignTo access v args) (assignTo access' v args) := by
  have hroot : ∀ head, Eval.Below (takeRoot access head) (takeRoot access' head) := by
    intro head
    simp only [Eval.Below, takeRoot, Emit.ofEval_bind]
    refine (Emit.Below.refl _).bind fun scope => ?_
    cases Table.get? scope.locals head with
    | some root => exact Emit.Below.refl _
    | none =>
      simp only [Emit.ofEval_bind]
      exact (h.lookup head).bind fun v => Emit.Below.refl _
  unfold assignTo
  split
  · exact Emit.Below.refl _
  · simp only [Eval.Below, Emit.ofEval_bind]
    refine (Emit.Below.refl _).bind fun target => ?_
    unfold assign
    split
    · exact Emit.Below.refl _
    · simp only [Emit.ofEval_bind]
      exact (hroot target.head).bind fun root => Emit.Below.refl _

/-- The context filters grow with what they ask. -/
theorem Scoping.monotone_filters : ∀ d ∈ filters, d.body.Monotone := by
  intro d hd
  rcases List.mem_cons.1 hd with rfl | hd
  · exact fun access access' h v args => below_assignTo h v args
  · obtain rfl := List.mem_singleton.1 hd
    exact fun access access' _ v args => Emit.Below.refl _

namespace Blocks

theorem below_forItems {f g : Value → Nat → Emit Session Unit} (h : ∀ item i, Emit.Below (f item i) (g item i)) (i : Nat)
    (items : List Value) : Emit.Below (forItems f i items) (forItems g i items) := by
  induction items generalizing i with
  | nil => exact Emit.Below.refl _
  | cons item items ih => exact (h item i).bind fun _ => ih (i + 1)

theorem below_writePage {access access' : BlockAccess} (h : access.Below access') (v : Value) (args : List Value) :
    Emit.Below (writePage access v args) (writePage access' v args) := by
  unfold writePage
  split
  · exact Emit.Below.refl _
  · exact (Emit.Below.refl _).bind fun locals => h.writePartial _ locals

theorem below_selectPartial {access access' : BlockAccess} (h : access.Below access') (v : Value) (args : List Value) :
    Emit.Below (selectPartial access v args) (selectPartial access' v args) :=
  (Emit.Below.refl _).bind fun _ => below_forItems (fun _ _ => h.writePartial _ _) 0 _

theorem below_select {access access' : BlockAccess} (h : access.Below access') (v : Value) (args : List Value) :
    Emit.Below (select access v args) (select access' v args) := by
  refine (Emit.Below.refl _).bind fun text => (Emit.Below.refl _).bind fun fragments => ?_
  refine (Emit.Below.refl _).bind fun scope => (Emit.Below.refl _).bind fun _ => ?_
  refine Emit.Below.attempt_bind ?_ (fun _ => Emit.Below.refl _) fun _ => rfl
  exact below_forItems (fun _ _ => (Emit.Below.refl _).bind fun _ => h.writeFragments fragments) 0 _

/-- The block filters grow with what they ask. -/
theorem monotone_filters : ∀ d ∈ filters, d.body.Monotone := by
  intro d hd
  simp only [filters, List.mem_cons, List.not_mem_nil, or_false] at hd
  rcases hd with rfl | rfl | rfl | rfl
  · exact fun access access' h v args => below_writePage h v args
  · exact fun access access' h v args => below_writePage h v args
  · exact fun access access' h v args => below_selectPartial h v args
  · exact fun access access' h v args => below_select h v args

end Blocks

/-- Value filters ask nothing. -/
theorem BuiltIn.monotone_valueFilters : ∀ d ∈ valueFilters, d.body.Monotone := by
  simp [valueFilters, arithmetic, texts, collections, logic, datesAndMoney, value, ofUnknown, FilterBody.Monotone]

/-- **Built-in filters.** They grow with what they ask. -/
theorem BuiltIn.monotone_body : ∀ d ∈ filters, d.body.Monotone := by
  intro d hd
  simp only [filters, List.mem_append] at hd
  rcases hd with (hd | hd) | hd
  · exact monotone_valueFilters d hd
  · exact Scoping.monotone_filters d hd
  · exact Blocks.monotone_filters d hd

/-! ## Expressions -/

/-- A filter that is found is one of the render or of the site. -/
theorem Environment.find?_of_findFilterOfKind {env : Environment} {name : String} {arity : Nat} {kind : FilterKind}
    {d : FilterDef} (h : env.findFilterOfKind name arity kind = some d) :
    env.filters.find? kind name arity = some d ∨ env.site.filters.find? kind name arity = some d := by
  unfold findFilterOfKind at h
  cases hr : env.filters.find? kind name arity with
  | some d' =>
    rw [hr] at h
    exact Or.inl h
  | none =>
    rw [hr] at h
    exact Or.inr h

/-- A filter that is found has the kind, the name and the number of values that were looked for. -/
theorem Environment.answers_of_findFilterOfKind {env : Environment} {name : String} {arity : Nat} {kind : FilterKind}
    {d : FilterDef} (h : env.findFilterOfKind name arity kind = some d) : d.kind = kind ∧ d.name = name ∧ d.arity = arity := by
  have hregistry : ∀ r : FilterRegistry, r.find? kind name arity = some d → d.answers kind name arity = true :=
    fun r hr => List.find?_some (p := fun d : FilterDef => d.answers kind name arity) hr
  have hanswers := (find?_of_findFilterOfKind h).elim (hregistry _) (hregistry _)
  simp only [FilterDef.answers, Bool.and_eq_true, decide_eq_true_eq, and_assoc] at hanswers
  exact hanswers

/-- An environment whose filters grow with what they ask. -/
def Environment.Monotone (env : Environment) : Prop :=
  ∀ name arity kind d, env.findFilterOfKind name arity kind = some d → d.body.Monotone

namespace Environment

variable {env : Environment} {n m : Nat}

theorem Monotone.findFilter (h : env.Monotone) {name : String} {arity : Nat} {d : FilterDef}
    (hd : env.findFilter name arity = some d) : d.body.Monotone := by
  obtain ⟨kind, hkind⟩ := exists_kind_of_findFilter hd
  exact h name arity kind d hkind

/-- An environment is monotone if the filters of the render and of the site are. -/
theorem monotone_of_mem (hrender : ∀ d ∈ env.filters.defs, d.body.Monotone)
    (hsite : ∀ d ∈ env.site.filters.defs, d.body.Monotone) : env.Monotone := by
  intro name arity kind d hd
  rcases find?_of_findFilterOfKind hd with hd | hd
  · exact hrender d (List.mem_of_find?_eq_some hd)
  · exact hsite d (List.mem_of_find?_eq_some hd)

theorem below_walk {resolve resolve' : Value → Eval Value} {key key' : Expression → Eval Value}
    (hresolve : ∀ v, Eval.Below (resolve v) (resolve' v)) (hkey : ∀ e, Eval.Below (key e) (key' e))
    (steps : List (Accessor Expression)) (v : Value) : Eval.Below (walk resolve key steps v) (walk resolve' key' steps v) := by
  induction steps generalizing v with
  | nil => exact hresolve v
  | cons step steps ih =>
    simp only [Eval.Below, walk, Emit.ofEval_bind]
    refine (hresolve v).bind fun v => ?_
    split
    · exact Emit.Below.refl _
    · cases step with
      | member name => exact ih _
      | index e =>
        simp only [Emit.ofEval_bind]
        exact (hkey e).bind fun k => ih _

/-- Evaluating within one bound is below evaluating within another. -/
structure BelowAt (env : Environment) (n m : Nat) : Prop where
  expression : ∀ e, Eval.Below (env.evalExpression n e) (env.evalExpression m e)
  argument : ∀ e, Eval.Below (env.evalArgument n e) (env.evalArgument m e)
  call : ∀ call, Eval.Below (env.callFilter n call) (env.callFilter m call)
  resolve : ∀ v, Eval.Below (env.resolve n v) (env.resolve m v)
  resolveNested : ∀ v, Eval.Below (env.resolveNested n v) (env.resolveNested m v)
  binding : ∀ path, Eval.Below (env.evaluateBinding n path) (env.evaluateBinding m path)

theorem BelowAt.access (h : env.BelowAt n m) :
    ScopeAccess.Below { lookup := env.lookup, evaluateBinding := env.evaluateBinding n }
      { lookup := env.lookup, evaluateBinding := env.evaluateBinding m } :=
  ⟨fun _ => Emit.Below.refl _, h.binding⟩

theorem below_evalExpression (h : env.BelowAt n m) (e : Expression) :
    Eval.Below (env.evalExpression (n + 1) e) (env.evalExpression (m + 1) e) := by
  cases e with
  | literal l => exact Emit.Below.refl _
  | binding path => exact h.binding path.text
  | array items =>
    simp only [Eval.Below, evalExpression, Emit.ofEval_bind, Emit.ofEval_mapM]
    refine (Emit.Below.mapM items fun item => ?_).bind fun values => Emit.Below.refl _
    exact (h.expression item).bind fun v => Emit.Below.refl _
  | object entries =>
    simp only [Eval.Below, evalExpression, Emit.ofEval_bind, Emit.ofEval_mapM]
    refine (Emit.Below.mapM entries fun entry => ?_).bind fun fields => Emit.Below.refl _
    exact (h.expression entry.2).bind fun v => Emit.Below.refl _
  | call call => exact h.call call

theorem below_evalArgument (h : env.BelowAt n m) (e : Expression) :
    Eval.Below (env.evalArgument (n + 1) e) (env.evalArgument (m + 1) e) := by
  simp only [Eval.Below, evalArgument, Emit.ofEval_bind]
  exact (h.expression e).bind fun v => h.resolve _

theorem below_callFilter (henv : env.Monotone) (h : env.BelowAt n m) (call : FilterCall Expression) :
    Eval.Below (env.callFilter (n + 1) call) (env.callFilter (m + 1) call) := by
  rw [callFilter, callFilter]
  cases hd : env.findFilter call.name call.args.length with
  | none => exact Emit.Below.refl _
  | some d =>
    have hbody := henv.findFilter hd
    simp only [Eval.Below, Emit.ofEval_bind, Emit.ofEval_mapM]
    refine (Emit.Below.mapM call.args h.argument).bind fun values => ?_
    cases hb : d.body with
    | value run => exact Emit.Below.refl _
    | remembering memory run => exact Emit.Below.refl _
    | context run =>
      rw [hb] at hbody
      simp only [Emit.ofEval_bind, Emit.ofEval_inFilter]
      exact (Emit.Below.inFilter call.name (hbody _ _ h.access _ _)).bind fun output => Emit.Below.refl _
    | block run => exact Emit.Below.refl _

theorem below_resolve (h : env.BelowAt n m) (v : Value) : Eval.Below (env.resolve (n + 1) v) (env.resolve (m + 1) v) := by
  rw [Environment.resolve, Environment.resolve]
  split
  · exact Emit.Below.refl _
  · simp only [Eval.Below, Emit.ofEval_bind, Emit.ofEval_attempt]
    refine (Emit.Below.refl _).bind fun _ => ?_
    exact Emit.Below.attempt_bind (h.resolveNested v) (fun _ => Emit.Below.refl _) fun _ => rfl

theorem below_resolveNested (h : env.BelowAt n m) (v : Value) :
    Eval.Below (env.resolveNested (n + 1) v) (env.resolveNested (m + 1) v) := by
  cases v with
  | expression e =>
    simp only [Eval.Below, Environment.resolveNested, Emit.ofEval_bind]
    exact (h.expression e).bind fun v => h.resolve _
  | array items =>
    simp only [Eval.Below, Environment.resolveNested, Emit.ofEval_bind, Emit.ofEval_mapM]
    exact (Emit.Below.mapM items h.resolve).bind fun items => Emit.Below.refl _
  | object fields =>
    simp only [Eval.Below, Environment.resolveNested, Emit.ofEval_bind, Emit.ofEval_mapM]
    refine (Emit.Below.mapM fields fun field => ?_).bind fun fields => Emit.Below.refl _
    exact (h.resolve field.2).bind fun v => Emit.Below.refl _
  | null | bool b | int i | float x | string s | raw s => exact Emit.Below.refl _

theorem below_evaluateBinding (h : env.BelowAt n m) (path : String) :
    Eval.Below (env.evaluateBinding (n + 1) path) (env.evaluateBinding (m + 1) path) := by
  simp only [Eval.Below, Environment.evaluateBinding, Emit.ofEval_bind]
  refine (Emit.Below.refl _).bind fun found => ?_
  cases found with
  | none => exact Emit.Below.refl _
  | some v =>
    simp only [Emit.ofEval_bind]
    refine (h.resolve v).bind fun root => ?_
    split
    · exact Emit.Below.refl _
    · simp only [Emit.ofEval_bind]
      refine (Emit.Below.refl _).bind fun binder => ?_
      cases binder with
      | constant v => exact Emit.Below.refl _
      | walk steps =>
        simp only [Emit.ofEval_bind]
        exact (below_walk h.resolve h.argument steps root).bind fun v => Emit.Below.refl _

/-- **Evaluation.** A larger bound makes no difference to an evaluation that stays within a smaller one. -/
theorem belowAt (henv : env.Monotone) (hnm : n ≤ m) : env.BelowAt n m := by
  induction n generalizing m with
  | zero =>
    exact ⟨fun _ => Emit.Below.exhausted _, fun _ => Emit.Below.exhausted _, fun _ => Emit.Below.exhausted _,
      fun _ => Emit.Below.exhausted _, fun _ => Emit.Below.exhausted _, fun _ => Emit.Below.exhausted _⟩
  | succ n ih =>
    obtain ⟨m, rfl⟩ := Nat.exists_eq_add_of_le' hnm
    have h := ih (m := m + n) (Nat.le_add_left n m)
    exact ⟨below_evalExpression h, below_evalArgument h, below_callFilter henv h, below_resolve h, below_resolveNested h,
      below_evaluateBinding h⟩

/-! ## Pipelines -/

theorem below_stageArgs (henv : env.Monotone) (hnm : n ≤ m) (stage : Stage) :
    Emit.Below (env.stageArgs n stage) (env.stageArgs m stage) := by
  unfold stageArgs
  simp only [Emit.ofEval_mapM]
  exact Emit.Below.mapM stage.args (belowAt henv hnm).argument

theorem Monotone.blockFilter (h : env.Monotone) {stage : Stage} {run : BlockAccess → Value → List Value → Emit Session Unit}
    (hr : env.blockFilter? stage = some run) : (FilterBody.block run).Monotone := by
  unfold blockFilter? at hr
  split at hr
  · rename_i run' hd
    obtain rfl := Option.some.inj hr
    exact h _ _ _ _ hd
  · simp at hr

variable {access access' : BlockAccess}

theorem below_writeChain (henv : env.Monotone) (hnm : n ≤ m) (ha : access.Below access') (buffer : Bytes)
    (stages : List Stage) : Emit.Below (env.writeChain n access buffer stages) (env.writeChain m access' buffer stages) := by
  induction stages generalizing buffer with
  | nil => exact Emit.Below.refl _
  | cons stage stages ih =>
    rw [writeChain, writeChain]
    split
    · rename_i run hr
      refine (Emit.Below.refl _).bind fun text => (below_stageArgs henv hnm stage).bind fun args => ?_
      have hwriting := Emit.Below.inFilter stage.name (henv.blockFilter hr _ _ ha (.string text) args)
      split
      · exact hwriting
      · exact hwriting.capture.bind fun next => ih next.2
    · split
      · exact (Emit.Below.refl _).bind fun next => ih next
      · exact Emit.Below.refl _

theorem below_runStages (henv : env.Monotone) (hnm : n ≤ m) (ha : access.Below access') (position : Nat) (stages : List Stage)
    (v : Value) : Emit.Below (env.runStages n access position stages v) (env.runStages m access' position stages v) := by
  induction stages generalizing position v with
  | nil => exact Emit.Below.refl _
  | cons stage stages ih =>
    have hnext : ∀ v, Emit.Below
        (do env.runStages n access (position + 1) stages (← Emit.ofEval (env.resolve n v)))
        (do env.runStages m access' (position + 1) stages (← Emit.ofEval (env.resolve m v))) := fun v =>
      ((belowAt henv hnm).resolve v).bind fun v => ih _ v
    rw [runStages, runStages]
    cases hd : env.findFilter stage.name stage.arity with
    | none => exact Emit.Below.refl _
    | some d =>
      have hbody := henv.findFilter hd
      refine (below_stageArgs henv hnm stage).bind fun args => ?_
      cases hb : d.body with
      | value run => exact (Emit.Below.refl _).bind hnext
      | remembering memory run => exact (Emit.Below.refl _).bind hnext
      | context run =>
        rw [hb] at hbody
        simp only [Emit.ofEval_inFilter]
        refine (Emit.Below.inFilter stage.name (hbody _ _ (belowAt henv hnm).access v args)).bind fun output => ?_
        cases output with
        | value v => exact hnext v
        | ignore => exact Emit.Below.refl _
        | stop => exact Emit.Below.refl _
      | block run =>
        rw [hb] at hbody
        have hwriting := Emit.Below.inFilter stage.name (hbody _ _ ha v args)
        simp only
        split
        · exact hwriting.bind fun _ => Emit.Below.refl _
        · refine hwriting.capture.bind fun next => ?_
          exact (below_writeChain henv hnm ha next.2 stages).bind fun _ => Emit.Below.refl _

theorem below_resolveBase (henv : env.Monotone) (hnm : n ≤ m) (stages : List Stage) (base : Option Value) :
    Emit.Below (env.resolveBase n stages base) (env.resolveBase m stages base) := by
  cases base with
  | some v => exact ((belowAt henv hnm).resolve v).bind fun v => Emit.Below.refl _
  | none => exact Emit.Below.refl _

theorem below_entryValue (henv : env.Monotone) (hnm : n ≤ m) (first : Option Expression) (stages : List Stage) :
    Emit.Below (env.entryValue n first stages) (env.entryValue m first stages) := by
  have hbase : Emit.Below (env.baseValue n first) (env.baseValue m first) := by
    cases first with
    | none => exact Emit.Below.refl _
    | some e => exact (belowAt henv hnm).expression e
  exact hbase.bind (below_resolveBase henv hnm stages)

theorem below_runEntry (henv : env.Monotone) (hnm : n ≤ m) (ha : access.Below access') (stages : List Stage)
    (v : Option Value) : Emit.Below (env.runEntry n access stages v) (env.runEntry m access' stages v) := by
  cases v with
  | some v => exact below_runStages henv hnm ha 0 stages v
  | none => exact Emit.Below.refl _

/-- What comes of a pipeline within a bound comes of it within every larger one. -/
theorem below_evaluatePipeline (henv : env.Monotone) (hnm : n ≤ m) (ha : access.Below access') (initial : Expression)
    (calls : List (FilterCall Expression)) :
    Emit.Below (env.evaluatePipeline n access initial calls) (env.evaluatePipeline m access' initial calls) := by
  rw [evaluatePipeline_eq, evaluatePipeline_eq]
  split
  · exact Emit.Below.refl _
  · exact (below_entryValue henv hnm _ _).bind (below_runEntry henv hnm ha _)

/-! ## Fragments -/

theorem below_writeVariable (henv : env.Monotone) (hnm : n ≤ m) (ha : access.Below access') (v : Variable) :
    Emit.Below (env.writeVariable n access v) (env.writeVariable m access' v) := by
  have hevaluate := below_evaluatePipeline henv hnm ha v.initial v.stages
  refine Emit.Below.attempt_bind hevaluate (fun _ => Emit.Below.refl _) fun s => ?_
  rfl

theorem below_writeFragment (henv : env.Monotone) (hnm : n ≤ m) (ha : access.Below access') (f : Fragment) :
    Emit.Below (env.writeFragment n access f) (env.writeFragment m access' f) := by
  cases f with
  | text s => exact Emit.Below.refl _
  | var v => exact below_writeVariable henv hnm ha v

theorem below_writePartial {write write' : List Fragment → Emit Session Unit}
    (h : ∀ fragments, Emit.Below (write fragments) (write' fragments)) (name : String) (locals : Table Value) :
    Emit.Below (env.writePartial write name locals) (env.writePartial write' name locals) := by
  rw [writePartial_eq, writePartial_eq]
  refine (Emit.Below.refl _).bind fun scope => ?_
  split
  · exact Emit.Below.refl _
  · exact (Emit.Below.refl _).bind fun page => Emit.Below.withScope _ (h page.content.fragments)

/-- **Writing.** A larger bound makes no difference to what is written within a smaller one. -/
theorem below_writeFragments (henv : env.Monotone) (hnm : n ≤ m) (fragments : List Fragment) :
    Emit.Below (env.writeFragments n fragments) (env.writeFragments m fragments) := by
  induction n generalizing m fragments with
  | zero => exact Emit.Below.exhausted _
  | succ n ih =>
    obtain ⟨m, rfl⟩ := Nat.exists_eq_add_of_le' hnm
    have hnm : n ≤ m + n := Nat.le_add_left n m
    have haccess : (env.access n).Below (env.access (m + n)) := ⟨ih hnm, below_writePartial (ih hnm)⟩
    rw [writeFragments_succ, ← Nat.add_assoc, writeFragments_succ]
    exact Emit.Below.forM fragments (below_writeFragment henv hnm haccess)

theorem below_access (henv : env.Monotone) (hnm : n ≤ m) : (env.access n).Below (env.access m) :=
  ⟨below_writeFragments henv hnm, below_writePartial (below_writeFragments henv hnm)⟩

end Environment

/-! ## Renders -/

namespace Site

variable {site : Site} {plan : RenderPlan} {env : Environment} {n m : Nat}

theorem below_writePage (henv : env.Monotone) (hnm : n ≤ m) (content : PageContent) :
    Emit.Below (writePage env plan n content) (writePage env plan m content) := by
  have hwrite := Environment.below_writeFragments henv hnm content.fragments
  unfold writePage
  split
  · exact hwrite
  · exact hwrite.capture.bind fun next => Emit.Below.refl _

theorem below_writeLayoutFragment (henv : env.Monotone) (hnm : n ≤ m) (page layout : LoadedPage) (f : Fragment) :
    Emit.Below (writeLayoutFragment env plan n page layout f) (writeLayoutFragment env plan m page layout f) := by
  cases f with
  | text s => exact Emit.Below.refl _
  | var v =>
    simp only [writeLayoutFragment]
    split
    · refine (Emit.Below.refl _).bind fun _ => ?_
      exact Emit.Below.attempt_bind (below_writePage henv hnm page.content) (fun _ => Emit.Below.refl _) fun _ => rfl
    · exact Environment.below_writeVariable henv hnm (Environment.below_access henv hnm) v

theorem below_writeBody (henv : (plan.environment site).Monotone) (hnm : n ≤ m) (page : LoadedPage)
    (layout : Option LoadedPage) : Emit.Below (site.writeBody plan n page layout) (site.writeBody plan m page layout) := by
  cases layout with
  | none => exact Emit.Below.inScope _ (below_writePage henv hnm page.content)
  | some layout =>
    exact Emit.Below.inScope _ (Emit.Below.forM _ (below_writeLayoutFragment henv hnm page layout))

/-- **Renders.** A larger bound makes no difference to a render that stays within a smaller one. -/
theorem below_writeTo (henv : (plan.environment site).Monotone) (hnm : n ≤ m) (cancelled : Bool) :
    Emit.Below (site.writeTo plan n cancelled) (site.writeTo plan m cancelled) := by
  refine (Emit.Below.refl _).bind fun pages => ?_
  have hbody := below_writeBody henv hnm pages.1 pages.2
  cases cancelled with
  | true => exact Emit.Below.refl _
  | false =>
    simp only [Bool.false_eq_true, if_false]
    split
    · exact hbody
    · exact hbody.capture.bind fun next => Emit.Below.refl _

theorem below_renderText (henv : (plan.environment site).Monotone) (hnm : n ≤ m) :
    Emit.Below (site.renderText plan n) (site.renderText plan m) :=
  (below_writeTo henv hnm false).capture.bind fun _ => Emit.Below.refl _

end Site

end PageTemplates
