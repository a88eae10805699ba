import Mathlib
import PageTemplates.Proofs.Evaluation.Monotone
import PageTemplates.Proofs.Evaluation.Scopes
import PageTemplates.Proofs.Pages.Known
import PageTemplates.Proofs.Rendering.Fallbacks

/-!
# Failures of expressions

An expression that fails with an error is replaced by the fallback of the page format if the error counts as recoverable, and
the template around it fails otherwise. A template that fails makes the block filter fail that writes it, under whose name the
error then looks like a failure of a value. Main statement: an operation that is not supported fails the render from any depth,
an error that is not recoverable fails it from the page and the layout, and inside the templates of block filters such an error
is replaced by the fallback of the expression around them (`Site.failure_of_expression`).
-/

namespace PageTemplates

open Emit

namespace Environment

variable {env : Environment}

theorem isRecoverable_of_isNotSupported {e : TemplateError} (h : e.isNotSupported = true) : e.isRecoverable = false := by
  cases e <;> simp_all [TemplateError.isNotSupported, TemplateError.isRecoverable]

/-- An operation that is not supported fails every expression around it, with the same cause. -/
theorem Nests.fails {k : Nat} {v w : Variable} {s t : Session} (h : env.Nests k v s w t) {e : TemplateError}
    (he : Fails (env.evaluate w) t e) (hnot : e.isNotSupported = true) :
    ∃ e', Fails (env.evaluate v) s e' ∧ e'.isNotSupported = true ∧ e'.cause = e.cause := by
  have hstep : ∀ {v w : Variable} {s s' t : Session} {kind : TemplateKind} {fragments : List Fragment} {e : TemplateError},
      env.StartsTemplate v s kind fragments s' → env.ComesTo fragments s' w t → Fails (env.evaluate w) t e →
        e.isNotSupported = true → ∃ e', Fails (env.evaluate v) s e' ∧ e'.isNotSupported = true ∧ e'.cause = e.cause := by
    intro v w s s' t kind fragments e hstart hcomes he hnot
    have hwrite := Fails.writeVariable he (isRecoverable_of_isNotSupported hnot)
    obtain ⟨name, hfails⟩ := hstart.fails (hcomes.fails hwrite)
    exact ⟨.filter name e, hfails, hnot, rfl⟩
  induction h with
  | refl => exact ⟨e, he, hnot, rfl⟩
  | page hstart hcomes _ ih =>
    obtain ⟨e', he', hnot', hcause⟩ := ih he
    obtain ⟨e'', he'', hnot'', hcause'⟩ := hstep hstart hcomes he' hnot'
    exact ⟨e'', he'', hnot'', hcause'.trans hcause⟩
  | inline hstart hcomes _ ih =>
    obtain ⟨e', he', hnot', hcause⟩ := ih he
    obtain ⟨e'', he'', hnot'', hcause'⟩ := hstep hstart hcomes he' hnot'
    exact ⟨e'', he'', hnot'', hcause'.trans hcause⟩

end Environment

/-! ## Renders -/

namespace Site

variable {site : Site} {plan : RenderPlan} {e : Engine}

/-- A render fails with the error of an expression of its page or of its layout. -/
theorem ComesTo.renderFails {v : Variable} {s : Session} (h : site.ComesTo plan e v s) {error : TemplateError}
    (he : Fails (fun n => (plan.environment site).writeVariable n ((plan.environment site).access n) v) s error) :
    site.RenderFails plan e error :=
  .of_writeTo (h.fails he)

/-- **Failures.** For an expression of the page or the layout of a render: an operation that is not supported, in it or at any
depth inside it, fails the render, with the cause unchanged; an error of its own that is not recoverable fails the render as it
is. An expression at any depth that starts a template in which another one fails with an error of the latter kind, and not of
the former, fails with this error under the name of a block filter, and what its format offers for it is written instead. -/
theorem failure_of_expression {v : Variable} {s : Session} (h : site.ComesTo plan e v s) :
    (∀ k w t error, (plan.environment site).Nests k v s w t → Fails ((plan.environment site).evaluate w) t error →
      error.isNotSupported = true → ∃ error', site.RenderFails plan e error' ∧ error'.cause = error.cause) ∧
    (∀ error, Fails ((plan.environment site).evaluate v) s error → error.isRecoverable = false →
      site.RenderFails plan e error) ∧
    ∀ k w t kind fragments t' u u' error, (plan.environment site).Nests k v s w t →
      (plan.environment site).StartsTemplate w t kind fragments t' → (plan.environment site).ComesTo fragments t' u u' →
      Fails ((plan.environment site).evaluate u) u' error → error.isRecoverable = false → error.isNotSupported = false →
      ∃ name r, Yields ((plan.environment site).evaluate w) t r ∧ r.outcome = .error (.error (.filter name error)) ∧
        ∀ value, r.state.scope.format.fallback site.settings (.filter name error) = some value →
          Yields (fun n => (plan.environment site).writeVariable n ((plan.environment site).access n) w) t
            { output := r.output ++
                (((plan.environment site).outcomeText? r.state.scope.format w (.value value)).map Utf8.encode).getD []
              outcome := .ok ()
              state := r.state } := by
  refine ⟨?_, ?_, ?_⟩
  · intro k w t error hnests he hnot
    obtain ⟨error', he', hnot', hcause⟩ := hnests.fails he hnot
    have hrecoverable := Environment.isRecoverable_of_isNotSupported hnot'
    exact ⟨error', h.renderFails (Environment.Fails.writeVariable he' hrecoverable), hcause⟩
  · intro error he hnot
    exact h.renderFails (Environment.Fails.writeVariable he hnot)
  · intro k w t kind fragments t' u u' error _ hstart hcomes he hrecoverable hnot
    obtain ⟨name, r, hr, hout⟩ := hstart.fails (hcomes.fails (Environment.Fails.writeVariable he hrecoverable))
    refine ⟨name, r, hr, hout, fun value hvalue => Environment.yields_writeVariable_fallback hr hout ?_⟩
    have hwrapped : (TemplateError.filter name error).isRecoverable = true := by simp [TemplateError.isRecoverable, hnot]
    rw [Environment.fallback?, hwrapped]
    exact hvalue

end Site

/-! ## A missing transformer inside an inline template -/

/-- A site in debug mode. -/
def reportingSite : Site :=
  Site.build { debugMode := true }

/-- A template that writes an inline template. -/
def outerText : String :=
  "\x7b\x7b 1 | select('\x7b it | select(\"a\") | zip \x7d') \x7d\x7d"

/-- The inline template, in which a transformer is missing. -/
def innerText : String :=
  "\x7b it | select(\"a\") | zip \x7d"

/-- A page with the template. -/
def missingTransformerFiles : MemoryFiles where
  files := [("main.html", { bytes := Utf8.encode outerText, stamp := 0 })]

/-- The site once it was asked for the page. -/
def missingTransformerEngine : Engine :=
  (Load.runOn (reportingSite.getPage "main") (Engine.over (.memory missingTransformerFiles))).2

/-- The render of the page. -/
def missingTransformerPlan : RenderPlan where
  page := { kind := .page, key := "main" }

/-- The environment of the render. -/
def reportingEnvironment : Environment :=
  missingTransformerPlan.environment reportingSite

/-- The expression of the page. -/
def outerVariable : Variable where
  source := outerText
  initial := .literal (.int 1)
  binding := none
  stages := [{ name := "select", args := [.string innerText] }]

/-- The expression of the inline template. -/
def innerVariable : Variable where
  source := "\x7b\x7b it | select(\"a\") | zip \x7d\x7d"
  initial := .binding (.ofName "it")
  binding := some "it"
  stages := [{ name := "select", args := [.string "a"] }, { name := "zip", args := [] }]

/-- The page as it is loaded. -/
def missingTransformerPage : LoadedPage where
  format := .html
  content := { path := "main.html", args := [], fragments := [.var outerVariable], layout := none, stamp := 0 }

/-- The session in which the page is written. -/
def outerSession : Session where
  engine := (Load.runOn (reportingSite.prepare missingTransformerPlan) missingTransformerEngine).2
  scope := Site.pageScope missingTransformerPage none

/-- What comes of parsing the inline template. -/
def innerParsed : Emission Session (List Fragment) :=
  (ofEval (Scoping.parsed .inlineTemplate innerText (.ok (Blocks.parseInline innerText)))).run outerSession

/-- The session in which the inline template is written. -/
def innerSession : Session :=
  (innerParsed.state.inside Environment.outsideItems).inside (Environment.itemScope (.int 1) 0)

theorem monotone_reportingEnvironment : reportingEnvironment.Monotone :=
  Environment.monotone_of_mem nofun fun d hd => BuiltIn.monotone_body d (mem_of_mem_ofList hd)

theorem toPageRules_reportingSite :
    reportingSite.toPageRules = { settings := { debugMode := true }, formats := [.html, .markdown] } := rfl

theorem knows_missingTransformer :
    reportingSite.Knows (.memory missingTransformerFiles) missingTransformerPlan.page .html missingTransformerEngine := by
  have hformat : reportingSite.formatOf? (Engine.over (.memory missingTransformerFiles)) "main" = .ok (some .html) := rfl
  have hpath : reportingSite.pathId "main" = missingTransformerPlan.page := by
    decide +kernel
  have hready := PageRules.ready_over reportingSite.toPageRules (.memory missingTransformerFiles)
  have hknows := PageRules.Knows.of_getPage hready hformat
  rwa [hpath] at hknows

theorem initAnswer_missingTransformer :
    reportingSite.initAnswer (.memory missingTransformerFiles) missingTransformerPlan.page .html =
      .ok missingTransformerPage.content := by
  rw [toPageRules_reportingSite]
  cbv

/-- The caches of the site tell the truth when the page is written. -/
theorem truthful_outerSession : outerSession.engine.Truthful := by
  have hkept := Engine.Truthful.keptByLoading reportingSite.toPageRules
  exact Engine.Truthful.keeps_prepare reportingSite missingTransformerPlan _ (hkept.getPage "main" _ (truthful_over _))

/-- The render comes to the expression of the page. -/
theorem comesTo_outerVariable :
    reportingSite.ComesTo missingTransformerPlan missingTransformerEngine outerVariable outerSession := by
  obtain ⟨r, e', hprepare, -, -, halone⟩ :=
    knows_missingTransformer.prepare initAnswer_missingTransformer rfl (Or.inl rfl)
  obtain rfl := halone (Or.inr rfl)
  have hrun : Load.runOn (reportingSite.prepare missingTransformerPlan) missingTransformerEngine =
      (.ok (missingTransformerPage, none), outerSession.engine) := by
    rw [outerSession, hprepare]
    rfl
  have hbegins : reportingSite.BeginsPage missingTransformerPlan missingTransformerEngine missingTransformerPage outerSession :=
    .alone hrun
  exact .ofPage hbegins (Environment.comesTo_head outerVariable [] outerSession)

/-- The expression of the page uses `select`. -/
theorem calls_select : reportingEnvironment.Calls outerVariable outerSession
    { name := "select", run := Blocks.select, value := .int 1, args := [.string innerText],
      session := outerSession } := by
  have hfirst : Yields (fun n => reportingEnvironment.entryValue n (some (.literal (.int 1)))
      [Stage.ofCall { name := "select", args := [.string innerText] }]) outerSession
      { output := [], outcome := .ok (some (.int 1)), state := outerSession } :=
    Yields.of_growing (fun _ _ hnm => Environment.below_entryValue monotone_reportingEnvironment hnm _ _) (n := 1) rfl (by simp)
  have hargs : Yields (fun n => reportingEnvironment.stageArgs n
      (Stage.ofCall { name := "select", args := [.string innerText] })) outerSession
      { output := [], outcome := .ok [.string innerText], state := outerSession } :=
    Yields.of_growing (fun _ _ hnm => Environment.below_stageArgs monotone_reportingEnvironment hnm _) (n := 2) rfl (by simp)
  have hfilter : reportingEnvironment.findFilter "select" 2 =
      some { name := "select", arity := 2, body := .block Blocks.select } := by
    rw [Environment.findFilter_ofList [] _ rfl (Site.filters_build _ _ _ _)]
    rfl
  exact .intro rfl hfirst rfl (.here hfilter rfl (.intro hargs rfl))

theorem parseInline_innerText : Blocks.parseInline innerText = [.var innerVariable] := by
  cbv

/-- The expression of the page starts the inline template. -/
theorem startsTemplate_inner : reportingEnvironment.StartsTemplate outerVariable outerSession .inline [.var innerVariable]
    innerSession := by
  have hparsed : (ofEval (Scoping.parsed .inlineTemplate innerText (.ok (Blocks.parseInline innerText)))).run outerSession =
      innerParsed := rfl
  have hparse : CachedText.parse .inlineTemplate innerText = .ok [.var innerVariable] :=
    congrArg Except.ok parseInline_innerText
  obtain ⟨hbuilt, -⟩ := truthful_outerSession.getOrBuild .inlineTemplate innerText
  have hfragments : innerParsed.outcome = .ok [.var innerVariable] := by
    rw [innerParsed, Scoping.run_parsed]
    change Except.mapError Fault.error (outerSession.engine.cache.getOrBuild .inlineTemplate innerText
      (CachedText.parse .inlineTemplate innerText)).1 = _
    rw [hbuilt, hparse]
    rfl
  have hitems : Blocks.itemsOf (.int 1) = [] ++ .int 1 :: [] := rfl
  have hnothing : Yields (fun n => Blocks.forItems (reportingEnvironment.inlineItem [.var innerVariable] n) 0 [])
      (innerParsed.state.inside Environment.outsideItems)
      { output := [], outcome := .ok (), state := innerParsed.state.inside Environment.outsideItems } :=
    Yields.of_run rfl (by simp)
  exact .intro calls_select (.ofSelect rfl rfl hparsed hfragments hitems hnothing rfl)

/-- The expression of the inline template fails, since there is no transformer of the name. -/
theorem fails_innerVariable :
    Fails (reportingEnvironment.evaluate innerVariable) innerSession (.transformerNotFound "zip") := by
  have herror : ((reportingEnvironment.evaluate innerVariable 10).run innerSession).error? =
      some (.transformerNotFound "zip") := by
    decide +kernel
  have hout := Emission.error?_eq_some.1 herror
  refine ⟨_, Yields.of_growing (fun _ _ hnm => ?_) (n := 10) rfl (by rw [hout]; simp), hout⟩
  exact Environment.below_evaluatePipeline monotone_reportingEnvironment hnm
    (Environment.below_access monotone_reportingEnvironment hnm) _ _

/-- The report that the format offers is written in place of the expression of the page, for the failure of the one inside. -/
theorem failure_of_expression_reported :
    ∃ name r, Yields (reportingEnvironment.evaluate outerVariable) outerSession r ∧
      r.outcome = .error (.error (.filter name (.transformerNotFound "zip"))) ∧
      ∀ value, r.state.scope.format.fallback reportingSite.settings (.filter name (.transformerNotFound "zip")) = some value →
        Yields (fun n => reportingEnvironment.writeVariable n (reportingEnvironment.access n) outerVariable) outerSession
          { output := r.output ++
              ((reportingEnvironment.outcomeText? r.state.scope.format outerVariable (.value value)).map Utf8.encode).getD []
            outcome := .ok ()
            state := r.state } :=
  (Site.failure_of_expression comesTo_outerVariable).2.2 0 outerVariable outerSession .inline [.var innerVariable] innerSession
    innerVariable innerSession (.transformerNotFound "zip") (.refl _ _) startsTemplate_inner
    (Environment.comesTo_head innerVariable [] innerSession) fails_innerVariable rfl rfl

/-- A missing transformer does not always fail the render: an expression of an inline template fails with it, and the render
writes a report in place of the expression around the template. -/
theorem missing_transformer_replaced :
    (∃ v s w t, reportingSite.ComesTo missingTransformerPlan missingTransformerEngine v s ∧
      (missingTransformerPlan.environment reportingSite).Nests 1 v s w t ∧
      Fails ((missingTransformerPlan.environment reportingSite).evaluate w) t (.transformerNotFound "zip")) ∧
    ∃ r, Yields (fun n => reportingSite.renderText missingTransformerPlan n) missingTransformerEngine r ∧
      r.outcome.toOption = some ("<pre class=\"pagewright-error\">filter &#39;select&#39; failed: " ++
        "filter transformer &#39;zip&#39; not found</pre>") := by
  have hnests : reportingEnvironment.Nests 1 outerVariable outerSession innerVariable innerSession :=
    .inline startsTemplate_inner (Environment.comesTo_head innerVariable [] innerSession) (.refl _ _)
  have htext : ((reportingSite.renderText missingTransformerPlan 10).run missingTransformerEngine).outcome.toOption =
      some ("<pre class=\"pagewright-error\">filter &#39;select&#39; failed: " ++
        "filter transformer &#39;zip&#39; not found</pre>") := by
    decide +kernel
  refine ⟨⟨_, _, _, _, comesTo_outerVariable, hnests, fails_innerVariable⟩, _,
    Yields.of_growing (fun _ _ hnm => Site.below_renderText monotone_reportingEnvironment hnm) (n := 10) rfl ?_, htext⟩
  intro hout
  rw [hout] at htext
  simp [Except.toOption] at htext

end PageTemplates
