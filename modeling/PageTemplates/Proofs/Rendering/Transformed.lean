import PageTemplates.Proofs.Rendering.Passthrough
import PageTemplates.Proofs.Rendering.Sandwich

/-!
# Output through transformers

A render without transformers writes straight to its destination. With transformers it writes to a buffer, and what they make
of the buffer is written in the end, so a failure leaves nothing behind. Main statements: a chain of transformers fails with
the error of the first that fails (`applyAll_eq_error_iff`), buffers inside each other are one buffer
(`transformed_transformed`), and a render writes what its transformers make of its output without them, or nothing
(`writeTo_transformed`).
-/

namespace PageTemplates

namespace Transformer

variable {input : Bytes} {error : TemplateError}

/-- A chain goes on with what its first part made. -/
theorem applyAll_append (first second : List Transformer) (input : Bytes) :
    applyAll (first ++ second) input = applyAll first input >>= applyAll second :=
  List.foldlM_append

/-- The error of the first transformer that fails, on what those before it make of the input. -/
def FirstError (transformers : List Transformer) (input : Bytes) (error : TemplateError) : Prop :=
  ∃ before transform after bytes, transformers = before ++ transform :: after ∧
    applyAll before input = .ok bytes ∧ transform bytes = .error error

/-- A chain fails with the error of the first transformer that fails. -/
theorem applyAll_eq_error_iff {transformers : List Transformer} :
    applyAll transformers input = .error error ↔ FirstError transformers input error := by
  constructor
  · intro h
    induction transformers generalizing input with
    | nil => cases h
    | cons transform transformers ih =>
      rw [applyAll_cons] at h
      cases hfirst : transform input with
      | error e =>
        rw [hfirst] at h
        obtain rfl : e = error := Except.error.inj h
        exact ⟨[], transform, transformers, input, rfl, rfl, hfirst⟩
      | ok bytes =>
        rw [hfirst] at h
        obtain ⟨before, next, after, bytes', rfl, hbefore, hfails⟩ := ih h
        refine ⟨transform :: before, next, after, bytes', rfl, ?_, hfails⟩
        rw [applyAll_cons, hfirst]
        exact hbefore
  · rintro ⟨before, transform, after, bytes, rfl, hbefore, hfails⟩
    have hlast : applyAll (transform :: after) bytes = .error error := by
      rw [applyAll_cons, hfails]
      rfl
    rw [applyAll_append, hbefore]
    exact hlast

end Transformer

/-! ## Buffers -/

namespace Emission

variable {σ : Type} {transformers : List Transformer}

/-- What a run through transformers comes to, next to the run without them. It writes what they make of the whole output, or
nothing: if one of them fails, the error is that of the first, and if the run fails, they are not asked. -/
structure Transformed (transformers : List Transformer) (direct whole : Emission σ Unit) : Prop where
  written : direct.outcome = .ok () →
    (∃ bytes, Transformer.applyAll transformers direct.output = .ok bytes ∧ whole.outcome = .ok () ∧ whole.output = bytes) ∨
      ∃ error, Transformer.FirstError transformers direct.output error ∧ whole.outcome = .error (.error error) ∧
        whole.output = []
  failed : ∀ fault, direct.outcome = .error fault → whole.outcome = .error fault ∧ whole.output = []
  state : whole.state = direct.state

/-- The run whose output goes through transformers. -/
def through (transformers : List Transformer) (direct : Emission σ Unit) : Emission σ Unit :=
  match direct.outcome with
  | .error fault => { output := [], outcome := .error fault, state := direct.state }
  | .ok _ =>
    match Transformer.applyAll transformers direct.output with
    | .ok bytes => { output := bytes, outcome := .ok (), state := direct.state }
    | .error error => { output := [], outcome := .error (.error error), state := direct.state }

theorem transformed_through (transformers : List Transformer) (direct : Emission σ Unit) :
    Transformed transformers direct (direct.through transformers) := by
  obtain ⟨output, fault | _, state⟩ := direct
  · refine ⟨nofun, fun fault' hfault => ?_, rfl⟩
    obtain rfl : fault = fault' := Except.error.inj hfault
    exact ⟨rfl, rfl⟩
  · unfold through
    cases happly : Transformer.applyAll transformers output with
    | ok bytes => exact ⟨fun _ => Or.inl ⟨bytes, happly, rfl, rfl⟩, nofun, rfl⟩
    | error error => exact ⟨fun _ => Or.inr ⟨error, Transformer.applyAll_eq_error_iff.1 happly, rfl, rfl⟩, nofun, rfl⟩

/-- One chain after another is the chain of both. -/
theorem through_through (first second : List Transformer) (direct : Emission σ Unit) :
    (direct.through first).through second = direct.through (first ++ second) := by
  obtain ⟨output, fault | _, state⟩ := direct
  · rfl
  · simp only [through, Transformer.applyAll_append]
    cases Transformer.applyAll first output <;> rfl

/-- What fails before it writes anything fails with the same fault through transformers. -/
theorem transformed_of_error {run : Emission σ Unit} {fault : Fault} (houtput : run.output = [])
    (houtcome : run.outcome = .error fault) : Transformed transformers run run := by
  refine ⟨fun hok => ?_, fun fault' hfault => ⟨hfault, houtput⟩, rfl⟩
  cases houtcome.symm.trans hok

end Emission

namespace Emit

variable {σ α : Type} {transformers : List Transformer}

/-- A computation whose output is kept in a buffer and goes through transformers, if there are any. -/
def transformed (transformers : List Transformer) (x : Emit σ Unit) : Emit σ Unit := do
  if transformers.isEmpty then x
  else
    let (_, buffer) ← Emit.capture x
    Emit.write (← Emit.ofExcept (Transformer.applyAll transformers buffer))

@[simp]
theorem transformed_nil (x : Emit σ Unit) : transformed [] x = x := rfl

theorem run_transformed (h : transformers ≠ []) (x : Emit σ Unit) (s : σ) :
    (transformed transformers x).run s = (x.run s).through transformers := by
  have hcapture : ∀ outcome, (x.run s).outcome = outcome →
      ((capture x).run s).outcome = outcome.map fun a => (a, (x.run s).output) := fun _ hx => congrArg (Except.map _) hx
  unfold transformed Emission.through
  rw [if_neg (by simpa using h)]
  cases hx : (x.run s).outcome with
  | error fault =>
    rw [Emit.Stable.run_bind_error (hcapture _ hx)]
    rfl
  | ok u =>
    rw [Emit.Stable.run_bind_ok (hcapture _ hx)]
    cases happly : Transformer.applyAll transformers (x.run s).output <;> simp only [happly] <;> rfl

/-- Buffers inside each other are one buffer. -/
theorem transformed_transformed (first second : List Transformer) (x : Emit σ Unit) :
    transformed second (transformed first x) = transformed (first ++ second) x := by
  by_cases hfirst : first = []
  · rw [hfirst, transformed_nil, List.nil_append]
  by_cases hsecond : second = []
  · rw [hsecond, transformed_nil, List.append_nil]
  ext s : 2
  rw [run_transformed hsecond, run_transformed hfirst, run_transformed (by simp [hfirst]), Emission.through_through]

/-- A scope makes no difference to the transformers. -/
theorem inScope_transformed (scope : Scope) (transformers : List Transformer) (x : Emit Session Unit) :
    inScope scope (transformed transformers x) = transformed transformers (inScope scope x) := by
  by_cases h : transformers = []
  · rw [h, transformed_nil, transformed_nil]
  ext e : 2
  rw [run_transformed h, inScope]
  simp only [inScope, run_transformed h, Emission.through]
  cases (x.run { engine := e, scope }).outcome with
  | error fault => rfl
  | ok u => cases Transformer.applyAll transformers (x.run { engine := e, scope }).output <;> rfl

/-- What comes first and writes nothing makes no difference to the transformers of what comes next. -/
theorem transformed_bind {x : Emit σ α} {direct whole : α → Emit σ Unit} {s : σ} (hx : (x.run s).output = [])
    (h : ∀ a, (x.run s).outcome = .ok a →
      Emission.Transformed transformers ((direct a).run (x.run s).state) ((whole a).run (x.run s).state)) :
    Emission.Transformed transformers ((x >>= direct).run s) ((x >>= whole).run s) := by
  cases houtcome : (x.run s).outcome with
  | error fault =>
    rw [Emit.Stable.run_bind_error houtcome, Emit.Stable.run_bind_error houtcome]
    exact Emission.transformed_of_error hx rfl
  | ok a =>
    rw [Emit.Stable.run_bind_ok houtcome, Emit.Stable.run_bind_ok houtcome, hx]
    exact h a houtcome

end Emit

/-! ## Renders -/

/-- The same render with other transformers of the page and of the whole output. -/
def RenderPlan.withTransformers (plan : RenderPlan) (pageTransformers outputTransformers : List Transformer) : RenderPlan :=
  { plan with pageTransformers, outputTransformers }

namespace Site

variable {site : Site} {plan : RenderPlan} {e : Engine}

/-- What comes before a render writes anything: it is prepared, and it can be cancelled. -/
def begun (site : Site) (plan : RenderPlan) (cancelled : Bool) : Emit Engine (LoadedPage × Option LoadedPage) := do
  let prepared ← Emit.ofLoad (site.prepare plan)
  if cancelled then Emit.fail .cancelled
  return prepared

/-- The body is written with the transformers of the page only, and goes through those of the whole output. -/
theorem writeTo_withTransformers (site : Site) (plan : RenderPlan) (fuel : Nat) (cancelled : Bool)
    (pageTransformers outputTransformers : List Transformer) :
    site.writeTo (plan.withTransformers pageTransformers outputTransformers) fuel cancelled =
      (site.begun plan cancelled >>= fun prepared =>
        Emit.transformed outputTransformers
          (site.writeBody (plan.withTransformers pageTransformers []) fuel prepared.1 prepared.2)) := by
  unfold begun
  rw [bind_assoc]
  cases cancelled <;> rfl

theorem output_begun (plan : RenderPlan) (cancelled : Bool) (e : Engine) : ((site.begun plan cancelled).run e).output = [] := by
  unfold begun
  cases hprepare : ((Emit.ofLoad (site.prepare plan)).run e).outcome with
  | error fault =>
    rw [Emit.Stable.run_bind_error hprepare]
    rfl
  | ok prepared =>
    rw [Emit.Stable.run_bind_ok hprepare]
    cases cancelled <;> rfl

/-- A render that begins was prepared. -/
theorem prepares_of_begun {cancelled : Bool} {prepared : LoadedPage × Option LoadedPage}
    (h : ((site.begun plan cancelled).run e).outcome = .ok prepared) : site.Prepares plan e prepared.1 prepared.2 := by
  unfold begun at h
  obtain ⟨loaded, hload, hrest⟩ := Emit.outcome_bind_eq_ok.1 h
  have hloaded : loaded = prepared := by
    cases cancelled with
    | false => exact Except.ok.inj hrest
    | true => cases hrest
  obtain rfl := hloaded
  cases hrun : Load.runOn (site.prepare plan) e with
  | mk outcome e' =>
    have houtcome : outcome.mapError Fault.error = .ok loaded := by
      rw [← hload]
      exact congrArg (fun r => Except.mapError Fault.error r.1) hrun.symm
    cases outcome with
    | error error => cases houtcome
    | ok a =>
      obtain rfl : a = loaded := Except.ok.inj houtcome
      exact ⟨e', hrun⟩

/-- Without a layout, the body of a render goes through the transformers of the page. -/
theorem writeBody_withTransformers (site : Site) (plan : RenderPlan) (pageTransformers : List Transformer) (fuel : Nat)
    (page : LoadedPage) :
    site.writeBody (plan.withTransformers pageTransformers []) fuel page none =
      Emit.transformed pageTransformers (site.writeBody (plan.withTransformers [] []) fuel page none) :=
  Emit.inScope_transformed _ _ _

/-- A render has no layout if it selects none, or if its page has none. -/
def WithoutLayout (site : Site) (plan : RenderPlan) (e : Engine) : Prop :=
  ∀ page layout, ¬site.Prepares plan e page (some layout)

/-- A render that selects no layout has none. -/
theorem withoutLayout_of_none (h : plan.layout = .none) : site.WithoutLayout plan e := by
  rintro page layout ⟨e', hprepare⟩
  unfold prepare at hprepare
  obtain ⟨⟨⟩, e₁, -, hprepare⟩ := Load.exists_of_runOn_bind hprepare
  obtain ⟨content, e₂, -, hprepare⟩ := Load.exists_of_runOn_bind hprepare
  obtain ⟨loaded, e₃, -, hprepare⟩ := Load.exists_of_runOn_bind hprepare
  have hselect : site.selectLayout plan content = pure none := by
    unfold selectLayout
    rw [h]
  rw [hselect] at hprepare
  cases hprepare

/-- **Transformers.** With transformers of the whole output, a render writes what they make of its output without them, in
order, or it writes nothing and fails with the first error of a transformer; if the render fails without them, it fails with
the same fault and writes nothing. So does a render without a layout that has transformers of the page, which come before
those of the whole output. -/
theorem writeTo_transformed (site : Site) (plan : RenderPlan) (fuel : Nat) (cancelled : Bool) (e : Engine)
    (pageTransformers outputTransformers : List Transformer) :
    (outputTransformers ≠ [] →
      Emission.Transformed outputTransformers
        ((site.writeTo (plan.withTransformers pageTransformers []) fuel cancelled).run e)
        ((site.writeTo (plan.withTransformers pageTransformers outputTransformers) fuel cancelled).run e)) ∧
      (pageTransformers ≠ [] → site.WithoutLayout plan e →
        Emission.Transformed (pageTransformers ++ outputTransformers)
          ((site.writeTo (plan.withTransformers [] []) fuel cancelled).run e)
          ((site.writeTo (plan.withTransformers pageTransformers outputTransformers) fuel cancelled).run e)) := by
  rw [writeTo_withTransformers, writeTo_withTransformers, writeTo_withTransformers]
  constructor
  · intro houtput
    refine Emit.transformed_bind (output_begun plan cancelled e) fun prepared _ => ?_
    rw [Emit.run_transformed houtput]
    exact Emission.transformed_through _ _
  · intro hpage halone
    refine Emit.transformed_bind (output_begun plan cancelled e) fun prepared hbegun => ?_
    obtain ⟨page, layout⟩ := prepared
    have hprepares := prepares_of_begun hbegun
    cases layout with
    | some layout => exact absurd hprepares (halone page layout)
    | none =>
      have hboth : pageTransformers ++ outputTransformers ≠ [] := by simp [hpage]
      rw [writeBody_withTransformers site plan pageTransformers, Emit.transformed_transformed, Emit.run_transformed hboth]
      exact Emission.transformed_through _ _

end Site

/-- Adds an exclamation mark. -/
def exclaim : Transformer := fun input =>
  .ok (input ++ Utf8.encode "!")

/-- The transformers of the output come after the layout, and those of a page without a layout before them. -/
theorem exclaimed_page :
    (([Transformer.htmlEncode, exclaim] : List Transformer) ≠ [] ∧ [exclaim] ≠ [] ∧
      plainSite.WithoutLayout (framedPlan.withLayout .none) framedEngine) ∧
    Emission.Transformed [Transformer.htmlEncode, exclaim]
      ((plainSite.writeTo (framedPlan.withTransformers [] []) 100).run framedEngine)
      ((plainSite.writeTo (framedPlan.withTransformers [] [Transformer.htmlEncode, exclaim]) 100).run framedEngine) ∧
    Emission.Transformed ([exclaim] ++ [])
      ((plainSite.writeTo ((framedPlan.withLayout .none).withTransformers [] []) 100).run framedEngine)
      ((plainSite.writeTo ((framedPlan.withLayout .none).withTransformers [exclaim] []) 100).run framedEngine) ∧
    ((plainSite.writeTo (framedPlan.withTransformers [] [Transformer.htmlEncode, exclaim]) 100).run framedEngine).output =
      Utf8.encode "[Home]!" ∧
    ((plainSite.writeTo ((framedPlan.withLayout .none).withTransformers [exclaim] []) 100).run framedEngine).output =
      Utf8.encode "Home!" := by
  have houtput : ([Transformer.htmlEncode, exclaim] : List Transformer) ≠ [] := by simp
  have hpage : [exclaim] ≠ [] := by simp
  have halone : plainSite.WithoutLayout (framedPlan.withLayout .none) framedEngine := Site.withoutLayout_of_none rfl
  have hwhole := (Site.writeTo_transformed plainSite framedPlan 100 false framedEngine [] _).1 houtput
  have hbody := (Site.writeTo_transformed plainSite (framedPlan.withLayout .none) 100 false framedEngine _ []).2 hpage halone
  exact ⟨⟨houtput, hpage, halone⟩, hwhole, hbody, by decide +kernel, by decide +kernel⟩

end PageTemplates
