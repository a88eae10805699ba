import Mathlib.Data.List.Induction
import PageTemplates.Proofs.Rendering.Fallbacks
import PageTemplates.Proofs.Rendering.Sessions

/-!
# When rendering ends

Evaluating an expression ends if the templates do that it starts, and a template if its expressions do. Pages nest only as
deep as the settings allow, but nothing limits how deep inline templates nest. Main statements: an expression ends if only so
many inline templates nest in it (`Environment.ends_evaluate`), a render ends if that is so of its expressions
(`Site.ends_writeTo_of_nests`), and within a bound no more of them nest than the bound (`Environment.Nests.exhausted`).
-/

namespace PageTemplates

open Emit

namespace Environment

variable {env : Environment} {I : Engine → Prop}

/-! ## Stages -/

theorem ends_stageArgs (henv : env.Standard) (h : env.Keeps I) (stage : Stage) {s : Session} (hs : I s.engine) :
    Ends (fun n => env.stageArgs n stage) s := by
  unfold stageArgs
  simp only [ofEval_mapM]
  exact (Settles.mapM stage.args fun e _ => settles_argument (henv.settling h) _ e).ends s hs rfl

/-- What writes ends, and so do the stages that get its output. -/
theorem ends_passOn {writing : Nat → Emit Session Unit} {stages : List Stage} {s : Session} (hwriting : Ends writing s)
    (hnext : ∀ r, Yields writing s r → r.outcome = .ok () → stages ≠ [] →
      Ends (fun n => env.writeChain n (env.access n) r.output stages) r.state) :
    Ends (fun n => env.passOn n (env.access n) (writing n) stages) s := by
  unfold passOn
  split
  · exact hwriting
  · rename_i hne
    obtain ⟨r, hr⟩ := hwriting
    cases hok : r.outcome with
    | error fault =>
      have hfailed : (r.outcome.map fun a => (a, r.output)) = .error fault := by rw [hok]; rfl
      exact ⟨_, hr.capture.bind_error hfailed⟩
    | ok a =>
      obtain ⟨r', hr'⟩ := hnext r hr hok (by simpa using hne)
      exact ⟨_, hr.capture.bind (a := ((), r.output)) (by simp only [hok, Except.map]) hr'⟩

/-- Passing output through stages ends if the uses of block filters do that it comes to. -/
theorem ends_writeChain (henv : env.Standard) (h : env.Keeps I) {buffer : Bytes} {stages : List Stage} {s : Session}
    (hs : I s.engine) (hcalls : ∀ c, env.ChainCalls buffer stages s c → Ends (env.writeCall c) c.session) :
    Ends (fun n => env.writeChain n (env.access n) buffer stages) s := by
  induction stages generalizing buffer s with
  | nil => exact Ends.of_run (x := Emit.write buffer) (by simp [Emit.write])
  | cons stage stages ih =>
    cases hrun : env.blockFilter? stage with
    | some run =>
      obtain ⟨d, hd, hbody⟩ := exists_of_blockFilter? hrun
      simp only [writeChain_block _ _ _ hrun]
      cases htext : Utf8.decode buffer with
      | error fault => exact Ends.fail _ s
      | ok text =>
        refine (ends_stageArgs henv h stage hs).bind fun r args hr hargs => ?_
        have hcall : env.StageCall run stage (.string text) s _ := .intro hr hargs
        have huses := hcall.uses h.maintainsWriting hd hbody
        refine ends_passOn (hcalls _ (.here hrun htext hcall)) fun r' hr' hok hne => ?_
        refine ih ((huses.session.trans (hr'.steady (huses.steady h.maintainsWriting))).engine hs) fun c hc => ?_
        exact hcalls c (.afterFilter hrun htext hcall hr' hok hne hc)
    | none =>
      simp only [writeChain_transformer _ _ _ hrun]
      cases htransform : env.transformer? stage.name with
      | none => exact Ends.fail _ s
      | some transform =>
        simp only
        cases hok : transform buffer with
        | error e => exact Ends.fail e s
        | ok next => exact ih hs fun c hc => hcalls c (.afterTransformer hrun htransform hok hc)

/-- Running stages ends if the uses of block filters do that it comes to. -/
theorem ends_runStages (henv : env.Standard) (h : env.Keeps I) {position : Nat} {stages : List Stage} {v : Value} {s : Session}
    (hs : I s.engine) (hcalls : ∀ c, env.StagesCall position stages v s c → Ends (env.writeCall c) c.session) :
    Ends (fun n => env.runStages n (env.access n) position stages v) s := by
  induction stages generalizing position v s with
  | nil => exact Ends.pure _ s
  | cons stage stages ih =>
    by_cases hblock : env.IsBlock stage
    · obtain ⟨d, run, hd, hrun⟩ := hblock
      obtain ⟨kind, hkind⟩ := exists_kind_of_findFilter hd
      simp only [runStages_block _ _ _ hd hrun]
      refine (ends_stageArgs henv h stage hs).bind fun r args hr hargs => ?_
      have hcall : env.StageCall run stage v s _ := .intro hr hargs
      have huses := hcall.uses h.maintainsWriting hkind hrun
      refine (ends_passOn (hcalls _ (.here hd hrun hcall)) fun r' hr' hok hne => ?_).bind fun r' _ _ _ => Ends.pure _ _
      have hafter := huses.session.trans (hr'.steady (huses.steady h.maintainsWriting))
      refine ends_writeChain henv h (hafter.engine hs) fun c hc => ?_
      exact hcalls c (.afterBlock hd hrun hcall hr' hok hne hc)
    · rw [funext fun n => runStages_cons env n (env.access n) hblock position stages v]
      have hstage := settles_stage (henv.settling h) hblock s.scope.nesting env.access position v
      refine (hstage.ends s hs rfl).bind fun r outcome hr hok => ?_
      have hsteady := hr.steady fun n => steady_stage h.maintains hblock n (env.access n) position v
      cases outcome with
      | value next => exact ih (hsteady.engine hs) fun c hc => hcalls c (.afterValue hblock hr hok hc)
      | ignored => exact Ends.pure _ _
      | unhandled => exact Ends.pure _ _
      | written => exact Ends.pure _ _

/-- **Expressions.** Evaluating an expression ends if the uses of block filters do that it comes to. -/
theorem ends_evaluate_of_calls (henv : env.Standard) (h : env.Keeps I) {v : Variable} {s : Session} (hs : I s.engine)
    (hcalls : ∀ c, env.Calls v s c → Ends (env.writeCall c) c.session) : Ends (env.evaluate v) s := by
  unfold evaluate
  simp only [evaluatePipeline_eq]
  cases hstart : env.start? v.initial v.stages with
  | none => exact Ends.pure _ s
  | some entry =>
    obtain ⟨first, stages⟩ := entry
    have hentry := settles_entryValue (henv.settling h) s.scope.nesting first stages
    refine (hentry.ends s hs rfl).bind fun r value hr hvalue => ?_
    cases value with
    | none => exact Ends.pure _ _
    | some value =>
      have hsteady := hr.steady fun n => steady_entryValue h.maintains n first stages
      exact ends_runStages henv h (hsteady.engine hs) fun c hc => hcalls c (.intro hstart hr hvalue hc)

/-! ## Uses of block filters -/

/-- A partial ends if the page does that it begins to write. -/
theorem ends_writePartial {name : String} {locals : Table Value} {s : Session}
    (hpage : ∀ page t, env.Includes name locals s page t → Ends (fun n => env.writeFragments n page.content.fragments) t) :
    Ends (fun n => env.writePartial (env.writeFragments n) name locals) s := by
  simp only [writePartial_eq]
  refine Ends.after_run (a := s.scope) rfl rfl ?_
  by_cases hdepth : env.site.settings.maxPartialDepth ≤ s.scope.depth
  · simp only [if_pos hdepth]
    exact Ends.fail _ s
  · simp only [if_neg hdepth]
    have hrun := run_ofLoad (env.partialContent s.scope.page.path name) s
    change _ = ({ output := []
                  outcome := (Load.runOn (env.partialContent s.scope.page.path name) s.engine).1.mapError .error
                  state := { s with engine := (Load.runOn (env.partialContent s.scope.page.path name) s.engine).2 } } :
                Emission Session LoadedPage) at hrun
    cases hfound : Load.runOn (env.partialContent s.scope.page.path name) s.engine with
    | mk outcome e =>
      rw [hfound] at hrun
      cases outcome with
      | error error => exact Ends.after_error hrun rfl
      | ok page =>
        refine Ends.after_run hrun rfl (Ends.withScope ?_)
        exact hpage page _ ⟨Nat.lt_of_not_le hdepth, hfound, rfl⟩

/-- Going through items ends if what is done for each of them does, once the items before it are done. -/
theorem ends_forItems {f : Nat → Value → Nat → Emit Session Unit} {items : List Value} {s : Session}
    (hitem : ∀ before item after r, items = before ++ item :: after → Yields (fun n => Blocks.forItems (f n) 0 before) s r →
      r.outcome = .ok () → Ends (fun n => f n item before.length) r.state) :
    Ends (fun n => Blocks.forItems (f n) 0 items) s := by
  induction items using List.reverseRecOn with
  | nil => exact Ends.pure _ s
  | append_singleton items item ih =>
    have hbefore : Ends (fun n => Blocks.forItems (f n) 0 items) s := by
      refine ih fun before item' after r heq => ?_
      exact hitem before item' (after ++ [item]) r (by simp [heq])
    simp only [forItems_append, Nat.zero_add]
    refine hbefore.bind fun r _ hr hok => ?_
    exact (hitem items item [] r rfl hr hok).bind fun r' _ _ _ => Ends.pure _ _

section

variable {c : BlockCall}
  (hstarts : ∀ kind fragments t, env.CallStarts c kind fragments t → Ends (fun n => env.writeFragments n fragments) t)
include hstarts

theorem ends_partial (hrun : c.run = Blocks.writePage) : Ends (fun n => c.run (env.access n) c.value c.args) c.session := by
  simp only [hrun, Blocks.writePage]
  cases hname : c.value.text? with
  | none => exact Ends.fail _ _
  | some name =>
    cases hlocals : Blocks.partialLocals c.args with
    | error e => exact Ends.fail e _
    | ok locals =>
      refine Ends.after_run (a := locals) rfl rfl (ends_writePartial ?_)
      intro page t hpage
      exact hstarts _ _ _ (.ofPartial hrun hname hlocals hpage)

theorem ends_selectPartial (hrun : c.run = Blocks.selectPartial) :
    Ends (fun n => c.run (env.access n) c.value c.args) c.session := by
  simp only [hrun, Blocks.selectPartial]
  cases hname : Argument.text "selectPartial" c.args 0 with
  | error e => exact Ends.fail e _
  | ok name =>
    refine Ends.after_run (a := name) rfl rfl (ends_forItems ?_)
    intro before item after r hitems hr hok
    refine ends_writePartial ?_
    intro page t hpage
    exact hstarts _ _ _ (.ofSelectPartial hrun hname hitems hr hok hpage)

theorem ends_select (hrun : c.run = Blocks.select) : Ends (fun n => c.run (env.access n) c.value c.args) c.session := by
  simp only [hrun, Blocks.select]
  cases htext : Argument.text "select" c.args 0 with
  | error e => exact Ends.fail e _
  | ok text =>
    refine Ends.after_run (a := text) rfl rfl ?_
    have hparsed := Scoping.run_parsed .inlineTemplate text (.ok (Blocks.parseInline text)) c.session
    cases hfragments : (c.session.engine.cache.getOrBuild .inlineTemplate text (.ok (Blocks.parseInline text))).1 with
    | error e => exact Ends.after_error hparsed (by rw [hfragments]; rfl)
    | ok fragments =>
      have hok : ((ofEval (Scoping.parsed .inlineTemplate text (.ok (Blocks.parseInline text)))).run c.session).outcome =
          .ok fragments := by
        rw [hparsed, hfragments]
        rfl
      -- The locals of the items are put back however the items end.
      refine Ends.after_run rfl hok (Ends.after_run rfl rfl (Ends.after_run rfl rfl ?_))
      refine Ends.attempt_bind (ends_forItems fun before item after r hitems hr hbefore => ?_) (fun r hr => ?_) fun _ _ => rfl
      · exact Ends.after_run rfl rfl (hstarts _ _ _ (.ofSelect hrun htext rfl hok hitems hr hbefore))
      · refine Ends.after_run rfl rfl (Ends.of_run ?_)
        rw [outcome_resume]
        exact hr.finished

/-- A use of a built-in block filter ends if the templates do that it starts. -/
theorem ends_writeCall {d : FilterDef} (hd : d ∈ Blocks.filters) (hrun : d.body = .block c.run) :
    Ends (env.writeCall c) c.session := by
  suffices hfilter : Ends (fun n => c.run (env.access n) c.value c.args) c.session from hfilter.inFilter c.name
  simp only [Blocks.filters, List.mem_cons, List.not_mem_nil, or_false] at hd
  rcases hd with rfl | rfl | rfl | rfl
  · exact ends_partial hstarts (FilterBody.block.inj hrun).symm
  · exact ends_partial hstarts (FilterBody.block.inj hrun).symm
  · exact ends_selectPartial hstarts (FilterBody.block.inj hrun).symm
  · exact ends_select hstarts (FilterBody.block.inj hrun).symm

end

/-! ## Templates -/

/-- Writing what came of an expression asks for no bound. -/
theorem ends_writeVariable {v : Variable} {s : Session} (h : Ends (env.evaluate v) s) :
    Ends (fun n => env.writeVariable n (env.access n) v) s := by
  simp only [writeVariable_eq]
  refine h.attempt_bind (fun r hr => ?_) fun _ => writeOutcome_exhausted v
  have hfinished := hr.finished
  cases hout : r.outcome with
  | ok outcome => exact ⟨_, Yields.of_run (run_writeOutcome_ok v outcome r.state) (by simp)⟩
  | error fault =>
    cases fault with
    | exhausted => exact absurd hout hfinished
    | error e =>
      cases hfallback : env.fallback? r.state.scope.format e with
      | none => exact ⟨_, Yields.of_run (run_writeOutcome_fail hfallback) (by simp)⟩
      | some value => exact ⟨_, Yields.of_run (run_writeOutcome_fallback hfallback) (by simp)⟩

/-- **Templates.** A template is written if its expressions are evaluated. -/
theorem ends_writeFragments {fragments : List Fragment} {s : Session}
    (hcomes : ∀ v t, env.ComesTo fragments s v t → Ends (env.evaluate v) t) :
    Ends (fun n => env.writeFragments n fragments) s := by
  refine (Ends.succ rfl).1 ?_
  simp only [writeFragments_succ]
  refine Ends.forM fun before fragment after r hfragments hr hok => ?_
  cases fragment with
  | text text => exact Ends.of_run (x := Emit.writeText text) (by simp [Emit.writeText, Emit.write])
  | var v =>
    have hwritten : Yields (fun n => env.writeFragments n before) s r := (Yields.succ rfl).1 hr
    exact ends_writeVariable (hcomes v r.state (.intro hfragments hwritten hok rfl))

/-- Evaluating an expression ends if the expressions do of the templates that it starts. -/
theorem ends_evaluate_of_templates (henv : env.Standard) (h : env.Keeps I) {v : Variable} {s : Session} (hs : I s.engine)
    (hcomes : ∀ kind fragments t w u, env.StartsTemplate v s kind fragments t → env.ComesTo fragments t w u →
      Ends (env.evaluate w) u) : Ends (env.evaluate v) s := by
  refine ends_evaluate_of_calls henv h hs ?_
  intro c hc
  obtain ⟨arity, kind, d, hd, hrun⟩ := (hc.uses h.maintainsWriting).filter
  have hstarts : ∀ kind fragments t, env.CallStarts c kind fragments t → Ends (fun n => env.writeFragments n fragments) t := by
    intro kind fragments t hstart
    exact ends_writeFragments fun w u hw => hcomes kind fragments t w u (.intro hc hstart) hw
  exact ends_writeCall hstarts (henv.block hd (congrArg FilterBody.kind hrun)) hrun

/-- **Nesting.** Evaluating an expression ends if only so many inline templates nest inside it. The induction is on how many
more inline templates and pages may nest: an inline template takes one of the first kind, and a page one of the second. -/
theorem ends_evaluate {Q : Page → Prop} (henv : env.Standard) (h : env.Keeps I)
    (hkept : env.site.toPageRules.KeptByLoading I Q) {k : Nat} {v : Variable} {s : Session} (hs : I s.engine)
    (hnests : ∀ j w t, env.Nests j v s w t → j ≤ k) : Ends (env.evaluate v) s := by
  induction hleft : k + (env.site.settings.maxPartialDepth - s.scope.depth) using Nat.strongRecOn generalizing k v s with
  | ind left ih =>
    refine ends_evaluate_of_templates henv h hs fun kind fragments t w u hstart hcomes => ?_
    have hbegins := hstart.begins h.maintainsWriting hkept hs
    have hsteady := hcomes.steady h.maintainsWriting
    have hu : I u.engine := hsteady.engine hbegins.engine
    have hdepth := hbegins.depth
    cases kind with
    | page =>
      obtain ⟨hlt, heq⟩ := hdepth
      rw [← hsteady.depth] at heq
      refine ih (k + (env.site.settings.maxPartialDepth - u.scope.depth)) (by omega) hu (fun j x y hj => ?_) rfl
      exact hnests j x y (.page hstart hcomes hj)
    | inline =>
      have hone : 0 + 1 ≤ k := hnests _ w u (.inline hstart hcomes (.refl w u))
      have heq : u.scope.depth = s.scope.depth := hsteady.depth.trans hdepth
      refine ih (k - 1 + (env.site.settings.maxPartialDepth - u.scope.depth)) (by omega) hu (fun j x y hj => ?_) rfl
      have := hnests (j + 1) x y (.inline hstart hcomes hj)
      omega

/-! ## Running out of the bound -/

/-- Evaluating an expression within a bound evaluates every expression of the templates that it starts within a smaller one. -/
theorem StartsTemplate.exhausted {v : Variable} {s : Session} {kind : TemplateKind} {fragments : List Fragment} {t : Session}
    {w : Variable} {u : Session} (hstart : env.StartsTemplate v s kind fragments t) (hcomes : env.ComesTo fragments t w u)
    {n : Nat} (hw : ∀ m, n = m + 1 → ((env.evaluate w m).run u).outcome = .error .exhausted) :
    ((env.evaluate v n).run s).outcome = .error .exhausted := by
  obtain ⟨hcall, hstart⟩ := hstart
  refine hcall.exposes.exhausted n (hstart.exposes.exhausted n ?_)
  cases n with
  | zero => rfl
  | succ m => exact hcomes.exposes.exhausted m (exhausted_writeVariable (hw m rfl))

/-- Within a bound, no more inline templates nest than the bound. -/
theorem Nests.exhausted {k : Nat} {v w : Variable} {s t : Session} (hnests : env.Nests k v s w t) {n : Nat} (hn : n < k) :
    ((env.evaluate v n).run s).outcome = .error .exhausted := by
  induction hnests generalizing n with
  | refl => omega
  | page hstart hcomes _ ih => exact hstart.exhausted hcomes fun m hm => ih (by omega)
  | inline hstart hcomes _ ih => exact hstart.exhausted hcomes fun m hm => ih (by omega)

end Environment

/-! ## Renders -/

/-- Caches that tell the truth go on doing so whatever is evaluated. -/
theorem Environment.Standard.keeps_truthful {env : Environment} (henv : env.Standard) : env.Keeps Engine.Truthful := by
  have hkept := Engine.Truthful.keptByLoading env.site.toPageRules
  exact henv.keeps Engine.Truthful.caching (fun _ _ h => h.of_caches rfl rfl) fun page name =>
    hkept.partialContent rfl page name

/-- Passing what was captured through transformers asks for no bound. -/
theorem Emit.Ends.transformed {σ : Type} {x : Nat → Emit σ Unit} {s : σ} (h : Ends x s) (transformers : List Transformer) :
    Ends (fun n => do
      let (_, buffer) ← Emit.capture (x n)
      Emit.write (← Emit.ofExcept (Transformer.applyAll transformers buffer))) s := by
  refine h.capture.bind fun r captured _ _ => ?_
  simp only
  cases Transformer.applyAll transformers captured.2 with
  | error e => exact Ends.fail e _
  | ok bytes => exact Ends.of_run (x := Emit.write bytes) (by simp [Emit.write])

namespace Site

variable {site : Site} {plan : RenderPlan} {I : Engine → Prop} {Q : Page → Prop} {e e' : Engine} {page layout : LoadedPage}

theorem ends_writePage {s : Session}
    (h : Ends (fun n => (plan.environment site).writeFragments n page.content.fragments) s) :
    Ends (fun n => writePage (plan.environment site) plan n page.content) s := by
  unfold writePage
  split
  · exact h
  · exact h.transformed plan.pageTransformers

/-- A layout is written if its expressions are evaluated and the page in its places is written. -/
theorem ends_writeLayout (hprepare : Load.runOn (site.prepare plan) e = (.ok (page, some layout), e'))
    (hcomes : ∀ v t, site.ComesTo plan e v t → Ends ((plan.environment site).evaluate v) t) :
    Ends (fun n => layout.content.fragments.forM (writeLayoutFragment (plan.environment site) plan n page layout))
      { engine := e', scope := layoutScope page layout } := by
  refine Ends.forM fun before fragment after r hfragments hr hok => ?_
  cases fragment with
  | text text => exact Ends.of_run (x := Emit.writeText text) (by simp [Emit.writeText, Emit.write])
  | var v =>
    have hreaches : site.LayoutComesTo plan e page v r.state := .intro hprepare hfragments hr hok rfl
    simp only [writeLayoutFragment]
    split
    · rename_i hhole
      have hpage : Ends (fun n => writePage (plan.environment site) plan n page.content) (r.state.inside (holeScope page)) :=
        ends_writePage (Environment.ends_writeFragments fun w t hw => hcomes w t (.ofPage (.inLayout hreaches hhole) hw))
      refine Ends.after_run (a := ()) rfl rfl (hpage.attempt_bind (fun r' hr' => ?_) fun _ _ => rfl)
      refine Ends.after_run (a := ()) rfl rfl (Ends.of_run ?_)
      rw [outcome_resume]
      exact hr'.finished
    · rename_i hhole
      exact Environment.ends_writeVariable (hcomes v r.state (.ofLayout hreaches (by simpa using hhole)))

/-- A render is written if the expressions of its page and of its layout are evaluated. -/
theorem ends_writeTo (hcomes : ∀ v t, site.ComesTo plan e v t → Ends ((plan.environment site).evaluate v) t) :
    Ends (fun n => site.writeTo plan n) e := by
  cases hprepare : Load.runOn (site.prepare plan) e with
  | mk outcome e' =>
    cases outcome with
    | error error => exact Ends.after_error (run_ofLoad_engine hprepare) rfl
    | ok prepared =>
      obtain ⟨page, layout⟩ := prepared
      have hbody : Ends (fun n => site.writeBody plan n page layout) e' := by
        cases layout with
        | none =>
          refine (ends_writePage (Environment.ends_writeFragments fun v t hv => ?_)).inScope
          exact hcomes v t (.ofPage (.alone hprepare) hv)
        | some layout => exact (ends_writeLayout hprepare hcomes).inScope
      refine Ends.after_run (run_ofLoad_engine hprepare) rfl ?_
      simp only [Bool.false_eq_true, if_false]
      split
      · exact hbody
      · exact hbody.transformed plan.outputTransformers

/-- The text of a render asks for no bound but that of writing it. -/
theorem ends_renderText (h : Ends (fun n => site.writeTo plan n) e) : Ends (fun n => site.renderText plan n) e := by
  refine h.capture.bind fun r captured _ _ => ?_
  cases hdecode : Utf8.decode? captured.2 with
  | some text =>
    simp only [hdecode]
    exact Ends.pure text _
  | none =>
    simp only [hdecode]
    refine Ends.after_run (x := Emit.ofLoad get) (a := r.state) rfl rfl ?_
    cases r.state.page? plan.page with
    | some p => exact Ends.fail _ _
    | none => exact Ends.fail _ _

/-- **Renders.** A render ends if only so many inline templates nest inside its expressions. -/
theorem ends_writeTo_of_nests (henv : (plan.environment site).Standard) (h : (plan.environment site).Keeps I)
    (hkept : site.toPageRules.KeptByLoading I Q) (hprepare : Load.Keeps I (site.prepare plan)) (he : I e) {k : Nat}
    (hnests : ∀ v s j w t, site.ComesTo plan e v s → (plan.environment site).Nests j v s w t → j ≤ k) :
    Ends (fun n => site.writeTo plan n) e := by
  refine ends_writeTo fun v s hv => ?_
  have houter := hv.outermost h.maintainsWriting hprepare he
  exact Environment.ends_evaluate henv h hkept houter.engine fun j w t hw => hnests v s j w t hv hw

/-- Within a bound, a render evaluates each of its expressions within that bound or a smaller one. -/
theorem ComesTo.exhausted {v : Variable} {t : Session} (h : site.ComesTo plan e v t) {n : Nat}
    (hv : ∀ m ≤ n, (((plan.environment site).evaluate v m).run t).outcome = .error .exhausted) :
    ((site.writeTo plan n).run e).outcome = .error .exhausted := by
  cases h with
  | ofPage hbegins hcomes =>
    refine hbegins.exposes.exhausted n ?_
    cases n with
    | zero => rfl
    | succ m => exact hcomes.exposes.exhausted m (Environment.exhausted_writeVariable (hv m (Nat.le_succ m)))
  | ofLayout hlayout hhole =>
    obtain ⟨layout, h⟩ := hlayout.exposes
    refine h.exhausted n ?_
    simp only [writeLayoutFragment, hhole]
    exact Environment.exhausted_writeVariable (hv n (Nat.le_refl n))

end Site

end PageTemplates
