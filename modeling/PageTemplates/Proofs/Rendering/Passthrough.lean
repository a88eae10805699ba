import PageTemplates.Proofs.Rendering.Layers
import PageTemplates.Proofs.Rendering.Sources
import PageTemplates.Proofs.Syntax.Paths

/-!
# Expressions that mean nothing

An expression is written as its source if it means nothing where it stands: it is a path and nothing has the name of its head,
or it is a call and there is no such filter. Main statements: nothing else has this outcome (`outcome_eq_unhandled_iff`), and
evaluating such an expression changes nothing (`MeansNothing.run_evaluatePipeline`). A missing value that stages follow is
ignored instead, and stages that run come to another outcome whatever they do.
-/

namespace PageTemplates

open Emit

/-! ## Outcomes that never come -/

namespace Emit

variable {σ α β : Type}

/-- A computation of two parts has a value exactly when both parts have one. -/
theorem outcome_bind_eq_ok {x : Emit σ α} {f : α → Emit σ β} {s : σ} {b : β} :
    ((x >>= f).run s).outcome = .ok b ↔
      ∃ a, (x.run s).outcome = .ok a ∧ ((f a).run (x.run s).state).outcome = .ok b := by
  cases h : (x.run s).outcome with
  | error fault =>
    rw [Emit.Stable.run_bind_error h]
    exact iff_of_false nofun nofun
  | ok a =>
    rw [Emit.Stable.run_bind_ok h]
    simp

/-- A computation never has a value. -/
def Never (x : Emit σ α) (a : α) : Prop :=
  ∀ s, (x.run s).outcome ≠ .ok a

namespace Never

theorem pure {a b : α} (h : a ≠ b) : Never (Pure.pure a : Emit σ α) b :=
  fun _ hb => h (Except.ok.inj hb)

/-- What is there is not missing. -/
theorem pure_some (a : α) : Never (Pure.pure (some a) : Emit σ (Option α)) none :=
  .pure (Option.some_ne_none a)

theorem fail (e : TemplateError) (b : α) : Never (Emit.fail e : Emit σ α) b :=
  fun _ hb => nomatch hb

/-- What comes last decides. -/
theorem bind {x : Emit σ α} {f : α → Emit σ β} {b : β} (hf : ∀ a, Never (f a) b) : Never (x >>= f) b := by
  intro s hb
  obtain ⟨a, -, hlast⟩ := outcome_bind_eq_ok.1 hb
  exact hf a _ hlast

/-- An evaluation that finds something never finds nothing. -/
theorem found (x : Eval α) : Never (ofEval (do return some (← x))) none := by
  rw [ofEval_bind]
  exact .bind fun a => .pure_some _

end Never

end Emit

namespace Environment

variable {env : Environment}

/-! ## Missing values -/

/-- A path has no value exactly when the name before its steps has none. -/
theorem outcome_evaluateBinding_eq_none_iff (fuel : Nat) (path : String) (s : Session) :
    ((ofEval (env.evaluateBinding (fuel + 1) path)).run s).outcome = .ok none ↔
      ((ofEval (env.lookup (String.ofList (splitBinding path.toList).1))).run s).outcome = .ok none := by
  rw [evaluateBinding, ofEval_bind, outcome_bind_eq_ok]
  constructor
  · rintro ⟨found, hfound, hrest⟩
    cases found with
    | none => exact hfound
    | some v =>
      -- Once the name has a value, the path has one wherever its steps lead.
      exfalso
      revert hrest
      simp only [ofEval_bind]
      refine Never.bind (fun root => ?_) _
      split
      · exact .pure_some _
      · rw [ofEval_bind]
        refine .bind fun binder => ?_
        cases binder with
        | constant v => exact .pure_some _
        | walk steps => exact .found _
  · intro h
    exact ⟨none, h, rfl⟩

/-- Only a path or a call can have no value. -/
theorem never_evalExpression_none (fuel : Nat) {e : Expression} (hpath : ∀ path, e ≠ .binding path)
    (hcall : ∀ call, e ≠ .call call) :
    Never (ofEval (env.evalExpression fuel e)) none := by
  cases fuel with
  | zero => exact fun _ h => nomatch h
  | succ fuel =>
    cases e with
    | literal l => exact .pure_some _
    | binding path => exact absurd rfl (hpath path)
    | array items =>
      rw [evalExpression, ofEval_bind]
      exact .bind fun values => .pure_some _
    | object entries =>
      rw [evalExpression, ofEval_bind]
      exact .bind fun fields => .pure_some _
    | call call => exact absurd rfl (hcall call)

/-! ## Outcomes of stages -/

/-- Stages come to a value, to nothing by intention, or to output that is written. -/
theorem never_runStages_unhandled (fuel : Nat) (access : BlockAccess) (position : Nat) (stages : List Stage) (v : Value) :
    Never (env.runStages fuel access position stages v) .unhandled := by
  induction stages generalizing position v with
  | nil => exact .pure (by simp)
  | cons stage stages ih =>
    rw [runStages]
    cases env.findFilter stage.name stage.arity with
    | none =>
      by_cases hposition : position = 0
      · simp only [hposition, if_true]
        exact .pure (by simp)
      · simp only [hposition, if_false]
        exact .fail _ _
    | some d =>
      refine .bind fun args => ?_
      cases d.body with
      | value run => exact .bind fun v => .bind fun w => ih _ _
      | remembering memory run => exact .bind fun v => .bind fun w => ih _ _
      | context run =>
        refine .bind fun output => ?_
        cases output with
        | value v => exact .bind fun w => ih _ _
        | ignore => exact .pure (by simp)
        | stop => exact .pure (by simp)
      | block run =>
        simp only
        split
        · exact .bind fun _ => .pure (by simp)
        · exact .bind fun _ => .bind fun _ => .pure (by simp)

/-- A pipeline that starts means nothing exactly when its first value is missing and it has no stages. -/
theorem outcome_runEntry_eq_unhandled_iff (fuel : Nat) (access : BlockAccess) (first : Option Expression) (stages : List Stage)
    (s : Session) :
    ((env.entryValue fuel first stages >>= env.runEntry fuel access stages).run s).outcome = .ok .unhandled ↔
      stages = [] ∧ ((env.baseValue fuel first).run s).outcome = .ok none := by
  rw [outcome_bind_eq_ok]
  constructor
  · rintro ⟨entry, hentry, hrun⟩
    cases entry with
    | some v => exact absurd hrun (never_runStages_unhandled fuel access 0 stages v _)
    | none =>
      have hstages : stages = [] := by
        by_contra hne
        have hignored : env.runEntry fuel access stages none = pure .ignored := by
          simp [runEntry, hne]
        rw [hignored] at hrun
        cases hrun
      obtain ⟨base, hbase, hresolve⟩ := outcome_bind_eq_ok.1 hentry
      cases base with
      | none => exact ⟨hstages, hbase⟩
      | some v =>
        have hnever : Never (env.resolveBase fuel stages (some v)) none := .bind fun w => .pure_some _
        exact absurd hresolve (hnever _)
  · rintro ⟨rfl, hbase⟩
    refine ⟨none, ?_, rfl⟩
    rw [entryValue, outcome_bind_eq_ok]
    exact ⟨none, hbase, rfl⟩

/-! ## Expressions that mean nothing -/

/-- An expression means nothing where names are looked up in some tables: it is a path without stages, and no table and no value
filter has the name of its head, or it is a call of a filter that there is not. -/
inductive MeansNothing (env : Environment) (tables : List (Table Value)) (v : Variable) : Prop
  | path {path : BindingPath Expression} (initial : v.initial = .binding path) (stages : v.stages = [])
      (unbound : ∀ table ∈ tables, Table.get? table path.head = none)
      (filter : env.findFilterOfKind path.head 0 .value = none)
  | call {call : FilterCall Expression} (initial : v.initial = .call call)
      (filter : env.findFilter call.name call.args.length = none)

/-- The paths that expressions start with are looked up by their heads. -/
theorem head_of_isSpanOf {v : Variable} {inner : List Char} (h : v.IsSpanOf inner) {path : BindingPath Expression}
    (hv : v.initial = .binding path) : String.ofList (splitBinding path.text.toList).1 = path.head := by
  have hstands : path.StandsInPipeline { initial := v.initial, stages := v.stages } := by
    refine Or.inl ?_
    rw [hv]
    exact .self
  rw [(splitsBack_of_parsePipeline h.pipeline hstands).split, String.ofList_toList]

/-- A path has no value exactly if no table and no value filter has the name of its head. -/
theorem outcome_path_eq_none_iff (fuel : Nat) {path : BindingPath Expression}
    (hhead : String.ofList (splitBinding path.text.toList).1 = path.head) (s : Session) :
    ((ofEval (env.evalExpression (fuel + 2) (.binding path))).run s).outcome = .ok none ↔
      (∀ table ∈ env.layers s.scope.rootPage s.scope.layout s.scope, Table.get? table path.head = none) ∧
        env.findFilterOfKind path.head 0 .value = none := by
  rw [evalExpression, outcome_evaluateBinding_eq_none_iff, hhead, run_lookup, outcome_firstValue_eq_none_iff]

/-- **Unknown expressions.** Evaluating the span of a text comes to no meaning exactly if the expression means nothing in the
tables of the scope. -/
theorem outcome_eq_unhandled_iff {v : Variable} {inner : List Char} (hv : v.IsSpanOf inner) (fuel : Nat) (access : BlockAccess)
    (s : Session) :
    ((env.evaluatePipeline (fuel + 2) access v.initial v.stages).run s).outcome = .ok .unhandled ↔
      env.MeansNothing (env.layers s.scope.rootPage s.scope.layout s.scope) v := by
  -- What is neither a path nor a call has a value, and so means something.
  have hvalue : (∀ path, v.initial ≠ .binding path) → (∀ call, v.initial ≠ .call call) →
      env.start? v.initial v.stages = some (some v.initial, v.stages.map Stage.ofCall) →
      (((env.evaluatePipeline (fuel + 2) access v.initial v.stages).run s).outcome = .ok .unhandled ↔
        env.MeansNothing (env.layers s.scope.rootPage s.scope.layout s.scope) v) := by
    intro hpath hcall hstart
    rw [evaluatePipeline_eq, hstart]
    simp only [outcome_runEntry_eq_unhandled_iff]
    refine iff_of_false ?_ ?_
    · rintro ⟨-, hnone⟩
      exact never_evalExpression_none (fuel + 2) hpath hcall s hnone
    · rintro (⟨hinitial, -, -, -⟩ | ⟨hinitial, -⟩)
      · exact hpath _ hinitial
      · exact hcall _ hinitial
  cases hinitial : v.initial with
  | literal l => exact hinitial ▸ hvalue (by simp [hinitial]) (by simp [hinitial]) (by rw [hinitial]; rfl)
  | array items => exact hinitial ▸ hvalue (by simp [hinitial]) (by simp [hinitial]) (by rw [hinitial]; rfl)
  | object entries => exact hinitial ▸ hvalue (by simp [hinitial]) (by simp [hinitial]) (by rw [hinitial]; rfl)
  | binding path =>
    rw [evaluatePipeline_eq]
    simp only [start?, outcome_runEntry_eq_unhandled_iff, baseValue, List.map_eq_nil_iff,
      outcome_path_eq_none_iff fuel (head_of_isSpanOf hv hinitial)]
    constructor
    · rintro ⟨hstages, hunbound, hfilter⟩
      exact .path hinitial hstages hunbound hfilter
    · rintro (⟨hpath, hstages, hunbound, hfilter⟩ | ⟨hcall, -⟩)
      · obtain rfl := Expression.binding.inj (hinitial.symm.trans hpath)
        exact ⟨hstages, hunbound, hfilter⟩
      · cases hinitial.symm.trans hcall
  | call call =>
    rw [evaluatePipeline_eq]
    simp only [start?]
    cases hfilter : env.findFilter call.name call.args.length with
    | none =>
      simp only [Option.isNone_none, if_true]
      exact iff_of_true rfl (.call hinitial hfilter)
    | some d =>
      simp only [Option.isNone_some, Bool.false_eq_true, if_false, outcome_runEntry_eq_unhandled_iff]
      refine iff_of_false (fun h => List.cons_ne_nil _ _ h.1) ?_
      rintro (⟨hpath, -, -, -⟩ | ⟨hcall, hnone⟩)
      · cases hinitial.symm.trans hpath
      · obtain rfl := Expression.call.inj (hinitial.symm.trans hcall)
        rw [hfilter] at hnone
        cases hnone

/-! ## Writing them -/

/-- A name that nothing has is looked up without changing anything. -/
theorem run_lookup_of_unknown {name : String} {s : Session} (hbound : env.bound? s.scope name = none)
    (hfilter : env.findFilterOfKind name 0 .value = none) :
    (ofEval (env.lookup name)).run s = { output := [], outcome := .ok none, state := s } := by
  rw [run_lookup_of_unbound hbound, callNullary, hfilter]
  rfl

/-- Evaluating an expression that means nothing changes nothing. -/
theorem MeansNothing.run_evaluatePipeline {v : Variable} {s : Session}
    (h : env.MeansNothing (env.layers s.scope.rootPage s.scope.layout s.scope) v) {inner : List Char} (hv : v.IsSpanOf inner)
    (fuel : Nat) (access : BlockAccess) :
    (env.evaluatePipeline (fuel + 2) access v.initial v.stages).run s =
      { output := [], outcome := .ok .unhandled, state := s } := by
  rw [evaluatePipeline_eq]
  cases h with
  | @path path hinitial hstages hunbound hfilter =>
    have hbound : env.bound? s.scope path.head = none := by
      rw [bound?_eq]
      exact List.findSome?_eq_none_iff.2 hunbound
    have hlookup := run_lookup_of_unknown hbound hfilter
    have hbase : (ofEval (env.evalExpression (fuel + 2) (.binding path))).run s =
        { output := [], outcome := .ok none, state := s } := by
      rw [evalExpression, evaluateBinding, ofEval_bind, head_of_isSpanOf hv hinitial,
        Emit.Stable.run_bind_ok (congrArg Emission.outcome hlookup), hlookup]
      rfl
    rw [hinitial, hstages]
    simp only [start?, List.map_nil, entryValue, baseValue]
    rw [bind_assoc, Emit.Stable.run_bind_ok (congrArg Emission.outcome hbase), hbase]
    rfl
  | @call call hinitial hfilter =>
    rw [hinitial]
    simp only [start?, hfilter, Option.isNone_none, if_true]
    rfl

/-- With the usual text for unknown expressions, an expression that means nothing is written as its source. -/
theorem MeansNothing.run_writeVariable (hsource : env.site.unhandled = none) {v : Variable} {s : Session}
    (h : env.MeansNothing (env.layers s.scope.rootPage s.scope.layout s.scope) v) {inner : List Char} (hv : v.IsSpanOf inner)
    (fuel : Nat) :
    (env.writeVariable (fuel + 2) (env.access (fuel + 2)) v).run s =
      { output := Utf8.encode v.source, outcome := .ok (), state := s } := by
  have hevaluate := h.run_evaluatePipeline hv fuel (env.access (fuel + 2))
  have hattempt : (attempt (env.evaluate v (fuel + 2))).run s =
      { output := [], outcome := .ok (.ok .unhandled), state := s } := by
    simp only [attempt, evaluate, hevaluate]
  have htext : env.outcomeText? s.scope.format v .unhandled = some v.source := by
    simp only [outcomeText?, Site.unhandledText, hsource]
  rw [writeVariable_eq, Emit.Stable.run_bind_ok (congrArg Emission.outcome hattempt), hattempt]
  simp only [run_writeOutcome_ok, htext]
  rfl

/-- A body whose expressions mean nothing is written as it stands. -/
theorem run_writeFragments_of_meansNothing (hsource : env.site.unhandled = none) {body : List Char} {s : Session}
    (h : ∀ v, .var v ∈ parseTemplate body → env.MeansNothing (env.layers s.scope.rootPage s.scope.layout s.scope) v)
    (fuel : Nat) :
    (env.writeFragments (fuel + 3) (parseTemplate body)).run s =
      { output := Utf8.encode (String.ofList body), outcome := .ok (), state := s } := by
  have hcuts := cuts_parseTemplate body
  have hbody : sourcesOf (parseTemplate body) = body := hcuts.sourcesOf_eq
  have hwrite : ∀ f ∈ parseTemplate body, (env.writeFragment (fuel + 2) (env.access (fuel + 2)) f).run s =
      { output := Utf8.encode f.source, outcome := .ok (), state := s } := by
    intro f hf
    cases f with
    | text text => rfl
    | var v =>
      obtain ⟨inner, hv⟩ := hcuts.isSpanOf v hf
      exact (h v hf).run_writeVariable hsource hv fuel
  rw [writeFragments_succ, Emit.run_forM_sources hwrite, hbody]

end Environment

end PageTemplates
