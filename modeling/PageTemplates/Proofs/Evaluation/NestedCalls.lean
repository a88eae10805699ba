import PageTemplates.Proofs.Evaluation.Monotone

/-!
# Pipelines and nested calls

A chain of value filters can be written as a pipeline or as calls inside one another. The stages of a pipeline and the calls of
an expression are evaluated by different functions, which resolve lazy values, evaluate arguments and name the filter of an
error at the same points. Main statement: for a value that is present, the pipeline and the nested call come to the same
(`evaluatePipeline_applied`).
-/

namespace PageTemplates

open Emit

/-- The nested call of a chain of filters: each filter gets what the one before it gives as its first argument. -/
def Expression.applied (x : Expression) (calls : List (FilterCall Expression)) : Expression :=
  calls.foldl (fun e call => .call { name := call.name, args := e :: call.args }) x

theorem Expression.applied_concat (x : Expression) (calls : List (FilterCall Expression)) (last : FilterCall Expression) :
    x.applied (calls ++ [last]) = .call { name := last.name, args := x.applied calls :: last.args } := by
  simp only [applied, List.foldl_append, List.foldl_cons, List.foldl_nil]

namespace Environment

variable {env : Environment}

/-! ## One value filter -/

/-- A value filter is found before the filters of other kinds. -/
theorem findFilter_of_value {name : String} {arity : Nat} {d : FilterDef}
    (h : env.findFilterOfKind name arity .value = some d) : env.findFilter name arity = some d := by
  simp only [findFilter, FilterKind.precedence, List.findSome?_cons, h]

/-- What a value filter gives, with its name in its errors. -/
def applyValue (env : Environment) (name : String) (d : FilterDef) (v : Value) (args : List Value) : Emit Session Value :=
  match d.body with
  | .value run => inFilter name (ofEval (env.callValue run v args))
  | .remembering memory run => inFilter name (ofEval (callRemembering memory run v args))
  | _ => pure v

/-- What a stage with a value filter hands on: its arguments are evaluated, the filter is called, and the value is resolved. -/
def handOn (env : Environment) (fuel : Nat) (d : FilterDef) (stage : Stage) (v : Value) : Emit Session Value := do
  let args ← env.stageArgs fuel stage
  let v ← env.applyValue stage.name d v args
  Emit.ofEval (env.resolve fuel v)

/-- A stage with a value filter hands on a value to the stages after it. -/
theorem runStages_value {stage : Stage} {d : FilterDef} (hd : env.findFilterOfKind stage.name stage.arity .value = some d)
    (fuel : Nat) (access : BlockAccess) (position : Nat) (stages : List Stage) (v : Value) :
    env.runStages fuel access position (stage :: stages) v =
      env.handOn fuel d stage v >>= env.runStages fuel access (position + 1) stages := by
  have hkind : d.body.kind = .value := (answers_of_findFilterOfKind hd).1
  rw [runStages, findFilter_of_value hd]
  simp only [handOn, applyValue, bind_assoc]
  refine bind_congr fun args => ?_
  cases hb : d.body with
  | value run => simp only [ofEval_inFilter]
  | remembering memory run => simp only [ofEval_inFilter]
  | context run => simp [hb, FilterBody.kind] at hkind
  | block run => simp [hb, FilterBody.kind] at hkind

/-- For the last stage it makes no difference where it stands, if it is a value filter. -/
theorem runStages_last {call : FilterCall Expression} {d : FilterDef}
    (hd : env.findFilterOfKind call.name (call.args.length + 1) .value = some d) (fuel : Nat) (access : BlockAccess)
    (position position' : Nat) :
    env.runStages fuel access position [Stage.ofCall call] = env.runStages fuel access position' [Stage.ofCall call] := by
  have hstage : env.findFilterOfKind (Stage.ofCall call).name (Stage.ofCall call).arity .value = some d := hd
  funext v
  rw [runStages_value hstage, runStages_value hstage]
  rfl

/-- A call of a value filter in an expression: its arguments are evaluated, and the filter is called. -/
theorem callFilter_value {name : String} {args : List Expression} {d : FilterDef}
    (hd : env.findFilterOfKind name args.length .value = some d) (fuel : Nat) :
    ofEval (env.callFilter (fuel + 1) { name, args }) =
      ofEval (args.mapM (env.evalArgument fuel)) >>= fun values =>
        env.applyValue name d (values.head?.getD .null) values.tail >>= fun v => pure (some v) := by
  have hkind : d.body.kind = .value := (answers_of_findFilterOfKind hd).1
  rw [callFilter, findFilter_of_value hd]
  simp only [ofEval_bind]
  refine bind_congr fun values => ?_
  unfold applyValue
  cases hb : d.body with
  | value run => simp only [ofEval_bind, ofEval_inFilter, ofEval_pure]
  | remembering memory run => simp only [ofEval_bind, ofEval_inFilter, ofEval_pure]
  | context run => simp [hb, FilterBody.kind] at hkind
  | block run => simp [hb, FilterBody.kind] at hkind

/-- A call of a value filter in an argument: the first argument is evaluated, then the others, then the filter is called and the
value is resolved. -/
theorem evalArgument_call {name : String} {x : Expression} {args : List Expression} {d : FilterDef}
    (hd : env.findFilterOfKind name (args.length + 1) .value = some d) (fuel : Nat) :
    ofEval (env.evalArgument (fuel + 3) (.call { name, args := x :: args })) =
      ofEval (env.evalArgument fuel x) >>= fun v => ofEval (args.mapM (env.evalArgument fuel)) >>= fun args =>
        env.applyValue name d v args >>= fun v => ofEval (env.resolve (fuel + 2) v) := by
  have hcall : env.findFilterOfKind name (x :: args).length .value = some d := hd
  rw [evalArgument, ofEval_bind, evalExpression, callFilter_value hcall]
  simp only [List.mapM_cons, ofEval_bind, ofEval_pure, bind_assoc, pure_bind, List.head?_cons, List.tail_cons, Option.getD_some]

/-- A call of a value filter is never missing. -/
theorem evalExpression_call_ne_none {name : String} {args : List Expression} {d : FilterDef}
    (hd : env.findFilterOfKind name args.length .value = some d) {s : Session} {r : Emission Session (Option Value)}
    (hr : Yields (fun n => ofEval (env.evalExpression n (.call { name, args }))) s r) : r.outcome ≠ .ok none := by
  have hsome : ∀ x : Emit Session Value, ((x >>= fun v => pure (some v)).run s).outcome ≠ .ok none := by
    intro x hnone
    cases hx : (x.run s).outcome with
    | error fault =>
      rw [Emit.Stable.run_bind_error hx] at hnone
      simp at hnone
    | ok v =>
      rw [Emit.Stable.run_bind_ok hx] at hnone
      simp [Pure.pure, Emit.pure] at hnone
  obtain ⟨n, hn⟩ := hr.eventually
  have hrun := hn (n + 2) (by omega)
  rw [evalExpression, callFilter_value hd, ← bind_assoc] at hrun
  exact hrun ▸ hsome _

/-! ## Chains -/

theorem Monotone.growing_argument (h : env.Monotone) (e : Expression) : Growing fun n => ofEval (env.evalArgument n e) :=
  fun _ _ hnm => (belowAt h hnm).argument e

theorem Monotone.growing_resolve (h : env.Monotone) (v : Value) : Growing fun n => ofEval (env.resolve n v) :=
  fun _ _ hnm => (belowAt h hnm).resolve v

theorem Monotone.growing_stages (h : env.Monotone) (position : Nat) (stages : List Stage) (v : Value) :
    Growing fun n => env.runStages n (env.access n) position stages v :=
  fun _ _ hnm => below_runStages h hnm (below_access h hnm) position stages v

/-- A call of a value filter in an argument comes to what a stage hands on. -/
theorem sameFrom_evalArgument_call (h : env.Monotone) {call : FilterCall Expression} {x : Expression} {d : FilterDef}
    (hd : env.findFilterOfKind call.name (call.args.length + 1) .value = some d) (s : Session) :
    SameFrom s (fun n => ofEval (env.evalArgument n (.call { name := call.name, args := x :: call.args })))
      fun n => ofEval (env.evalArgument n x) >>= env.handOn n d (Stage.ofCall call) := by
  have hargs : Growing fun n => ofEval (call.args.mapM (env.evalArgument n)) :=
    fun n m hnm => below_stageArgs h hnm (Stage.ofCall call)
  have happly : ∀ v args, Growing fun _ => env.applyValue call.name d v args := fun _ _ _ _ _ => Below.refl _
  have hresolve : ∀ v, SameFrom s (fun n => ofEval (env.resolve (n + 2) v)) fun n => ofEval (env.resolve n v) :=
    fun v => SameFrom.shift (h.growing_resolve v) 2
  have hcall := fun v args => (happly v args).bind fun v => (hresolve v).growing_left
  have hcall' := fun v args => (happly v args).bind h.growing_resolve
  refine (SameFrom.shift (h.growing_argument _) 3).symm.trans ?_
  simp only [evalArgument_call hd]
  refine SameFrom.bind_right (h.growing_argument x) (fun v => hargs.bind fun args => hcall v args)
    (fun v => hargs.bind fun args => hcall' v args) fun _ v _ _ => ?_
  refine SameFrom.bind_right hargs (fun args => hcall v args) (fun args => hcall' v args) fun _ args _ _ => ?_
  exact SameFrom.bind_right (happly v args) (fun v => (hresolve v).growing_left) h.growing_resolve
    fun _ v _ _ => SameFrom.shift (h.growing_resolve v) 2

/-- Every filter of a chain is a value filter. -/
def ValueChain (env : Environment) (calls : List (FilterCall Expression)) : Prop :=
  ∀ call ∈ calls, (env.findFilterOfKind call.name (call.args.length + 1) .value).isSome = true

/-- A nested call of value filters is never missing if the expression inside is not. -/
theorem applied_ne_none {x : Expression} {calls : List (FilterCall Expression)} (hcalls : env.ValueChain calls) {s : Session}
    (hpresent : ∀ r, Yields (fun n => ofEval (env.evalExpression n x)) s r → r.outcome ≠ .ok none) :
    ∀ r, Yields (fun n => ofEval (env.evalExpression n (x.applied calls))) s r → r.outcome ≠ .ok none := by
  rcases List.eq_nil_or_concat calls with rfl | ⟨init, last, rfl⟩
  · exact hpresent
  · rw [List.concat_eq_append] at hcalls ⊢
    obtain ⟨d, hd⟩ := Option.isSome_iff_exists.1 (hcalls last (by simp))
    intro r hr
    rw [Expression.applied_concat] at hr
    exact evalExpression_call_ne_none hd hr

/-- Stages after a nested call come to the same as after the call's own stages. -/
theorem sameFrom_applied (h : env.Monotone) (calls : List (FilterCall Expression)) (hcalls : env.ValueChain calls)
    (x : Expression) (position : Nat) (stages : List Stage) (s : Session) :
    SameFrom s
      (fun n => ofEval (env.evalArgument n (x.applied calls)) >>=
        env.runStages n (env.access n) (position + calls.length) stages)
      (fun n => ofEval (env.evalArgument n x) >>=
        env.runStages n (env.access n) position (calls.map Stage.ofCall ++ stages)) := by
  -- The first call of the chain joins the expression that the other calls are applied to.
  induction calls generalizing x position with
  | nil => exact SameFrom.refl ((h.growing_argument x).bind (h.growing_stages _ _))
  | cons call calls ih =>
    obtain ⟨d, hd⟩ := Option.isSome_iff_exists.1 (hcalls call List.mem_cons_self)
    have hrest := ih (fun c hc => hcalls c (List.mem_cons_of_mem call hc)) (.call { name := call.name, args := x :: call.args })
      (position + 1)
    have hposition : position + (call :: calls).length = position + 1 + calls.length := by
      rw [List.length_cons]
      omega
    have hstage : ∀ n, env.runStages n (env.access n) position ((call :: calls).map Stage.ofCall ++ stages) =
        fun v => env.handOn n d (Stage.ofCall call) v >>=
          env.runStages n (env.access n) (position + 1) (calls.map Stage.ofCall ++ stages) :=
      fun n => funext (runStages_value hd n (env.access n) position _)
    rw [hposition]
    refine hrest.trans ?_
    simp only [hstage, ← bind_assoc]
    exact (sameFrom_evalArgument_call h hd s).bind (h.growing_stages _ _) (h.growing_stages _ _)
      fun _ _ _ _ => SameFrom.refl (h.growing_stages _ _ _)

/-! ## Pipelines -/

/-- The part of a pipeline after an expression with a value: its stages run on the value as an argument. -/
theorem sameFrom_entry (h : env.Monotone) (e : Expression) (stages : List Stage) {s : Session}
    (he : ∀ r, Yields (fun n => ofEval (env.evalExpression n e)) s r → r.outcome ≠ .ok none) :
    SameFrom s (fun n => env.entryValue n (some e) stages >>= env.runEntry n (env.access n) stages)
      fun n => ofEval (env.evalArgument n e) >>= env.runStages n (env.access n) 0 stages := by
  have hvalue : Growing fun n => ofEval (env.evalExpression n e) := fun _ _ hnm => (belowAt h hnm).expression e
  have hstages := h.growing_stages 0 stages
  have hargument : SameFrom s (fun n => ofEval (env.evalExpression n e) >>= fun v => ofEval (env.resolve n (v.getD .null)))
      fun n => ofEval (env.evalArgument n e) := by
    have hshift := SameFrom.shift (s := s) (h.growing_argument e) 1
    simpa only [evalArgument, ofEval_bind] using hshift
  have hentry : ∀ base, Growing fun n => env.resolveBase n stages base >>= env.runEntry n (env.access n) stages :=
    fun base => Growing.bind (fun _ _ hnm => below_resolveBase h hnm stages base)
      fun v _ _ hnm => below_runEntry h hnm (below_access h hnm) stages v
  refine SameFrom.trans ?_ (hargument.bind hstages hstages fun _ _ _ _ => SameFrom.refl (hstages _))
  simp only [entryValue, baseValue, bind_assoc]
  refine SameFrom.bind_right hvalue hentry (fun base => (h.growing_resolve _).bind hstages) fun r base hr hbase => ?_
  cases base with
  | none => exact absurd hbase (he r hr)
  | some v =>
    simp only [resolveBase, runEntry, bind_assoc, pure_bind, Option.getD_some]
    exact SameFrom.refl ((h.growing_resolve v).bind hstages)

/-- A pipeline that starts with anything but a call runs its stages on the value of this as an argument. -/
theorem sameFrom_pipeline (h : env.Monotone) {x : Expression} (hx : ∀ call, x ≠ .call call)
    (calls : List (FilterCall Expression)) {s : Session}
    (hpresent : ∀ r, Yields (fun n => ofEval (env.evalExpression n x)) s r → r.outcome ≠ .ok none) :
    SameFrom s (fun n => env.evaluatePipeline n (env.access n) x calls)
      fun n => ofEval (env.evalArgument n x) >>= env.runStages n (env.access n) 0 (calls.map Stage.ofCall) := by
  have hstart : env.start? x calls = some (some x, calls.map Stage.ofCall) := by
    cases x with
    | call call => exact absurd rfl (hx call)
    | literal l => rfl
    | binding path => rfl
    | array items => rfl
    | object entries => rfl
  simp only [evaluatePipeline_eq, hstart]
  exact sameFrom_entry h x (calls.map Stage.ofCall) hpresent

/-- A pipeline of nothing but a call of a value filter runs this filter on its first argument. -/
theorem sameFrom_pipeline_call (h : env.Monotone) {e : Expression} {call : FilterCall Expression} {d : FilterDef}
    (hd : env.findFilterOfKind call.name (call.args.length + 1) .value = some d) {s : Session}
    (hpresent : ∀ r, Yields (fun n => ofEval (env.evalExpression n e)) s r → r.outcome ≠ .ok none) :
    SameFrom s
      (fun n => env.evaluatePipeline n (env.access n) (.call { name := call.name, args := e :: call.args }) [])
      fun n => ofEval (env.evalArgument n e) >>= env.runStages n (env.access n) 0 [Stage.ofCall call] := by
  have hfind : env.findFilter call.name (e :: call.args).length = some d := findFilter_of_value hd
  have hstart : env.start? (.call { name := call.name, args := e :: call.args }) [] =
      some (some e, [Stage.ofCall call]) := by
    simp only [start?, hfind]
    rfl
  simp only [evaluatePipeline_eq, hstart]
  exact sameFrom_entry h e [Stage.ofCall call] hpresent

/-- **Pipelines and nested calls.** For an expression that is no call and has a value, and a chain of value filters, the
pipeline and the nested call of the chain come to the same: the same value or the same error, with the same filters named in it,
and they leave the same session. -/
theorem evaluatePipeline_applied (h : env.Monotone) {x : Expression} (hx : ∀ call, x ≠ .call call)
    {calls : List (FilterCall Expression)} (hcalls : env.ValueChain calls) {s : Session}
    {base : Emission Session (Option Value)} {v : Value}
    (hbase : Yields (fun n => ofEval (env.evalExpression n x)) s base) (hv : base.outcome = .ok (some v))
    (r : Emission Session Outcome) :
    Yields (fun n => env.evaluatePipeline n (env.access n) x calls) s r ↔
      Yields (fun n => env.evaluatePipeline n (env.access n) (x.applied calls) []) s r := by
  have hpresent : ∀ r, Yields (fun n => ofEval (env.evalExpression n x)) s r → r.outcome ≠ .ok none := by
    intro r hr
    rw [hr.unique hbase, hv]
    simp
  rcases List.eq_nil_or_concat calls with rfl | ⟨init, last, rfl⟩
  · exact Iff.rfl
  · rw [List.concat_eq_append] at hcalls ⊢
    obtain ⟨d, hd⟩ := Option.isSome_iff_exists.1 (hcalls last (by simp))
    have hinit : env.ValueChain init := fun call hc => hcalls call (List.mem_append_left [last] hc)
    -- The last filter of the chain is a stage in both; the others are stages on one side and a nested call on the other.
    have hchain := sameFrom_applied h init hinit x 0 [Stage.ofCall last] s
    simp only [runStages_last hd _ _ (0 + init.length) 0] at hchain
    rw [Expression.applied_concat]
    rw [← List.map_singleton, ← List.map_append] at hchain
    have hpipeline := (sameFrom_pipeline h hx _ hpresent).trans hchain.symm
    have hsame := hpipeline.trans (sameFrom_pipeline_call h hd (applied_ne_none hinit hpresent)).symm
    exact hsame.yields_iff r

/-! ## Prices -/

/-- An environment with the built-in filters and a price. -/
def pricesEnvironment : Environment where
  site := Site.build
  args := [("price", .int 2)]

/-- A session on a site without files, in the scope of an empty page. -/
def emptyPageSession : Session where
  engine := { initialized := true }
  scope := Site.pageScope
    { format := .html, content := { path := "page.html", args := [], fragments := [], layout := none, stamp := 0 } } none

/-- A chain of filters of which the second one fails. -/
def priceCalls : List (FilterCall Expression) :=
  [{ name := "add", args := [.literal (.int 1)] }, { name := "divide", args := [.literal (.int 0)] },
   { name := "upper", args := [] }]

theorem monotone_pricesEnvironment : pricesEnvironment.Monotone :=
  monotone_of_mem nofun fun d hd => BuiltIn.monotone_body d (mem_of_mem_ofList hd)

/-- The pipeline `price | add(1) | divide(0) | upper` and the call `upper(divide(add(price, 1), 0))` fail in the same filter. -/
theorem evaluatePipeline_applied_prices :
    (pricesEnvironment.ValueChain priceCalls ∧ ∃ base,
      Yields (fun n => ofEval (pricesEnvironment.evalExpression n (.binding (.ofName "price")))) emptyPageSession base ∧
        base.outcome = .ok (some (.int 2))) ∧
    ∃ r, Yields (fun n => pricesEnvironment.evaluatePipeline n (pricesEnvironment.access n) (.binding (.ofName "price"))
        priceCalls) emptyPageSession r ∧
      Yields (fun n => pricesEnvironment.evaluatePipeline n (pricesEnvironment.access n)
        ((Expression.binding (.ofName "price")).applied priceCalls) []) emptyPageSession r ∧
      r.error? = some (.filter "divide" (.invalidArgument "division by zero")) := by
  have henv := monotone_pricesEnvironment
  have hchain : pricesEnvironment.ValueChain priceCalls := by
    unfold ValueChain
    decide +kernel
  have hrun : ((ofEval (pricesEnvironment.evalExpression 5 (.binding (.ofName "price")))).run emptyPageSession).outcome =
      .ok (some (.int 2)) := rfl
  have hbase := Yields.of_growing (x := fun n => ofEval (pricesEnvironment.evalExpression n (.binding (.ofName "price"))))
    (s := emptyPageSession) (fun _ _ hnm => (belowAt henv hnm).expression _) (n := 5) rfl (by rw [hrun]; simp)
  have herror : ((pricesEnvironment.evaluatePipeline 20 (pricesEnvironment.access 20) (.binding (.ofName "price"))
      priceCalls).run emptyPageSession).error? = some (.filter "divide" (.invalidArgument "division by zero")) := by
    decide +kernel
  have hpipeline := Yields.of_growing (s := emptyPageSession)
    (x := fun n => pricesEnvironment.evaluatePipeline n (pricesEnvironment.access n) (.binding (.ofName "price")) priceCalls)
    (fun _ _ hnm => below_evaluatePipeline henv hnm (below_access henv hnm) _ _) (n := 20) rfl
    (by rw [Emission.error?_eq_some.1 herror]; simp)
  exact ⟨⟨hchain, _, hbase, hrun⟩, _, hpipeline,
    (evaluatePipeline_applied henv (by simp) hchain hbase hrun _).1 hpipeline, herror⟩

end Environment

end PageTemplates
