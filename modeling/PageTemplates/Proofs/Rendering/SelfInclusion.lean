import Mathlib
import PageTemplates.Proofs.Pages.Known
import PageTemplates.Proofs.Rendering.Partials
import PageTemplates.Proofs.Rendering.Sources

/-!
# Pages that include themselves

A page that includes itself is written inside itself until it is as deep as the settings allow. Without fallbacks the error of
the innermost one then goes all the way out, through the block filter of every level. Main statements: such a page always fails
so (`Site.fails_of_selfInclusion`), and what is known of partials altogether (`Site.partials_bounded`).
-/

namespace PageTemplates

open Emit

namespace Environment

variable {env : Environment}

/-- An expression that is nothing but `partial` on a name, with arguments that give locals in every session. -/
structure IsPartial (env : Environment) (v : Variable) (name : String) (stage : Stage) : Prop where
  start : env.start? v.initial v.stages = some (some (.literal (.string name)), [stage])
  filter : ∃ d, env.findFilter stage.name stage.arity = some d ∧ d.body = .block Blocks.writePage
  locals : ∀ s, ∃ r args locals, Yields (fun n => env.stageArgs n stage) s r ∧ r.outcome = .ok args ∧
    Blocks.partialLocals args = .ok locals

/-- In every session it comes to a use of `partial` that asks for the name. -/
theorem IsPartial.calls (henv : env.Monotone) {v : Variable} {name : String} {stage : Stage} (h : env.IsPartial v name stage)
    (s : Session) : ∃ c locals, env.Calls v s c ∧ c.run = Blocks.writePage ∧ c.value.text? = some name ∧
      Blocks.partialLocals c.args = .ok locals := by
  obtain ⟨d, hd, hrun⟩ := h.filter
  obtain ⟨r, args, locals, hr, hargs, hlocals⟩ := h.locals s
  have hname : Yields (fun n => env.entryValue n (some (.literal (.string name))) [stage]) s
      { output := [], outcome := .ok (some (.string name)), state := s } :=
    Yields.of_growing (fun _ _ hnm => below_entryValue henv hnm _ _) (n := 1) rfl (by simp)
  exact ⟨_, locals, .intro h.start hname rfl (.here hd hrun (.intro hr hargs)), rfl, rfl, hlocals⟩

/-- A template comes to the expression after its texts. -/
theorem comesTo_after_texts {before after : List Fragment} (h : ∀ fragment ∈ before, ∃ text, fragment = .text text)
    (v : Variable) (s : Session) : env.ComesTo (before ++ .var v :: after) s v s := by
  have hrun := fun n => env.run_writeFragments_texts h n s
  have hbefore : Yields (fun n => env.writeFragments (n + 1) before) s
      { output := Utf8.encode (String.ofList (sourcesOf before)), outcome := .ok (), state := s } :=
    ⟨by simp, fun n => Or.inr (hrun n), 0, fun n _ => hrun n⟩
  exact .intro rfl ((Yields.succ rfl).1 hbefore) rfl rfl

/-- A page of texts and one expression, which includes the page itself. The format of the page has no fallbacks. -/
structure IncludesItself (env : Environment) (files : FileStore) (id : PageId) (f : PageFormat) (c : PageContent)
    (name : String) : Prop where
  content : env.site.initAnswer files id f = .ok c
  template : ∃ before v stage after, c.fragments = before ++ .var v :: after ∧
    (∀ fragment ∈ before ++ after, ∃ text, fragment = .text text) ∧ env.IsPartial v name stage
  names : env.site.Names files c.path name id
  fallback : ∀ error, f.fallback env.site.settings error = none

/-- A property of sites with the page: the caches tell the truth, and the page is known. -/
def KnowsItself (env : Environment) (files : FileStore) (id : PageId) (f : PageFormat) (e : Engine) : Prop :=
  e.Truthful ∧ env.site.Knows files id f e

theorem Standard.keeps_knowsItself (henv : env.Standard) (files : FileStore) (id : PageId) (f : PageFormat) :
    env.Keeps (env.KnowsItself files id f) := by
  have hkept := Engine.Truthful.keptByLoading env.site.toPageRules
  have hcaching : Caching Binder.compile (env.KnowsItself files id f) :=
    Engine.Truthful.caching_and fun _ _ _ h => h.of_pages rfl rfl rfl
  refine henv.keeps hcaching (fun e cells h => ?_) fun page name e h => ?_
  · exact ⟨h.1.of_caches rfl rfl, h.2.of_pages rfl rfl rfl⟩
  · exact ⟨hkept.partialContent rfl page name e h.1, Load.Keeps.partialContent PageRules.Knows.keeps_getPage page name e h.2⟩

variable {files : FileStore} {id : PageId} {f : PageFormat} {c : PageContent} {name : String}

/-- A use of `partial` that asks for the page goes on in it, one deeper, if that is as deep as the settings allow or less. -/
theorem IncludesItself.includes (henv : env.Standard) (h : env.IncludesItself files id f c name) {s : Session}
    (hs : env.KnowsItself files id f s.engine) (hpage : s.scope.page = c)
    (hdepth : s.scope.depth < env.site.settings.maxPartialDepth) (locals : Table Value) :
    ∃ t : Session, env.Includes name locals s { format := f, content := c } t ∧ env.KnowsItself files id f t.engine ∧
      t.scope.page = c ∧ t.scope.format = f ∧ t.scope.depth = s.scope.depth + 1 := by
  have hnames : env.site.Names files s.scope.page.path name id := by
    rw [hpage]
    exact h.names
  obtain ⟨e', hfound⟩ := hs.2.partialContent h.content hnames
  have hknown : env.KnowsItself files id f e' := Load.of_runOn ((henv.keeps_knowsItself files id f).found _ _) hs hfound
  exact ⟨{ engine := e', scope := _ }, ⟨hdepth, hfound, rfl⟩, hknown, rfl, rfl, rfl⟩

/-- The page fails with an error of its expression that looks like a failure of a value. -/
theorem IncludesItself.fails_of_evaluate (henv : env.Standard) (h : env.IncludesItself files id f c name) {s : Session}
    (hformat : s.scope.format = f) {before after : List Fragment} {v : Variable}
    (hfragments : c.fragments = before ++ .var v :: after) (htexts : ∀ fragment ∈ before, ∃ text, fragment = .text text)
    {error : TemplateError} (he : Fails (env.evaluate v) s error) :
    Fails (fun n => env.writeFragments n c.fragments) s error := by
  obtain ⟨r, hr, hout⟩ := he
  have hkeeps := (henv.keeps_knowsItself files id f).maintainsWriting
  have hsteady := hr.steady fun n => steady_evaluatePipeline hkeeps n (steady_access hkeeps n) v.initial v.stages
  have hnone : env.fallback? r.state.scope.format error = none := by
    rw [hsteady.format, hformat]
    simp [fallback?, h.fallback]
  have hcomes : env.ComesTo c.fragments s v s := by
    rw [hfragments]
    exact comesTo_after_texts htexts v s
  exact hcomes.fails (fails_writeVariable hr hout hnone)

/-- **Self-inclusion.** Wherever the page is written, it fails since it nests too deep in the end. The induction is on how much
deeper it may nest. -/
theorem IncludesItself.fails (henv : env.Standard) (h : env.IncludesItself files id f c name) {s : Session}
    (hs : env.KnowsItself files id f s.engine) (hpage : s.scope.page = c) (hformat : s.scope.format = f)
    (hdepth : s.scope.depth ≤ env.site.settings.maxPartialDepth) :
    ∃ error, Fails (fun n => env.writeFragments n c.fragments) s error ∧
      error.cause = .recursivePartial name env.site.settings.maxPartialDepth := by
  have hkeeps := henv.keeps_knowsItself files id f
  obtain ⟨before, v, stage, after, hfragments, htexts, hpartial⟩ := h.template
  induction hleft : env.site.settings.maxPartialDepth - s.scope.depth using Nat.strongRecOn generalizing s with
  | ind left ih =>
    obtain ⟨call, locals, hcall, hrun, hname, hlocals⟩ := hpartial.calls henv.monotone s
    have hsession := (hcall.uses hkeeps.maintainsWriting).session
    have hevaluate : ∃ error, Fails (env.evaluate v) s error ∧
        error.cause = .recursivePartial name env.site.settings.maxPartialDepth := by
      rcases Nat.lt_or_eq_of_le hdepth with hlt | heq
      · obtain ⟨t, hincludes, ht, htpage, htformat, htdepth⟩ :=
          h.includes henv (hsession.engine hs) (by rw [hsession.scope]; exact hpage) (hsession.depth.symm ▸ hlt) locals
        have hdeeper : t.scope.depth = s.scope.depth + 1 := by rw [htdepth, hsession.depth]
        obtain ⟨error, hfails, hcause⟩ := ih _ (by omega) ht htpage htformat (by omega) rfl
        obtain ⟨filter, hfilter⟩ := StartsTemplate.fails (.intro hcall (.ofPartial hrun hname hlocals hincludes)) hfails
        exact ⟨_, hfilter, hcause⟩
      · exact ⟨_, hcall.fails hkeeps (.ofPartial hrun hname hlocals) heq, rfl⟩
    obtain ⟨error, herror, hcause⟩ := hevaluate
    have hbefore : ∀ fragment ∈ before, ∃ text, fragment = .text text := by
      intro fragment hf
      exact htexts fragment (List.mem_append_left _ hf)
    exact ⟨error, h.fails_of_evaluate henv hformat hfragments hbefore herror, hcause⟩

end Environment

namespace Site

variable {site : Site} {plan : RenderPlan} {e : Engine} {f : PageFormat} {c : PageContent} {name : String}

theorem BeginsPage.scope {page : LoadedPage} {s : Session} (h : site.BeginsPage plan e page s) :
    s.scope.page = page.content ∧ s.scope.format = page.format := by
  cases h with
  | alone _ => exact ⟨rfl, rfl⟩
  | inLayout _ _ => exact ⟨rfl, rfl⟩

/-- A render of a known page that has no layout, or comes to a page at all, comes to that page. -/
theorem exists_beginsPage (hknows : site.Knows e.files plan.page f e) (hc : site.initAnswer e.files plan.page f = .ok c)
    (hlayout : plan.layout = .ofPage ∨ plan.layout = .none)
    (hbegins : c.layout = none ∨ ∃ page s, site.BeginsPage plan e page s) :
    ∃ s, site.BeginsPage plan e { format := f, content := c } s := by
  obtain ⟨r, e', hrun, -, hpage, halone⟩ := hknows.prepare hc rfl hlayout
  rcases hbegins with hnone | ⟨page, s, hs⟩
  · obtain rfl := halone (Or.inr hnone)
    exact ⟨_, .alone hrun⟩
  · obtain ⟨layout, e'', hprepared⟩ := hs.prepared
    rw [hrun] at hprepared
    obtain ⟨rfl, rfl⟩ := Prod.mk.inj hprepared
    obtain rfl := hpage page layout rfl
    exact ⟨s, hs⟩

theorem keeps_prepare_knowsItself {files : FileStore} (hc : site.initAnswer files plan.page f = .ok c)
    (hlayout : plan.layout = .ofPage ∨ plan.layout = .none) :
    Load.Keeps ((plan.environment site).KnowsItself files plan.page f) (site.prepare plan) := by
  intro e ⟨htruthful, hknown⟩
  have hknows : site.Knows files plan.page f e := hknown
  obtain ⟨r, e', hrun, hknows', -, -⟩ := hknows.prepare hc rfl hlayout
  have hclosed := Engine.Truthful.keeps_prepare site plan e htruthful
  rw [hrun] at hclosed ⊢
  exact ⟨hclosed, hknows'⟩

/-- **Self-inclusion.** A render of a page that includes itself fails, with its own layout or without one, unless it fails
before it comes to the page. -/
theorem fails_of_selfInclusion (hsite : site.Standard) (hplan : ∀ d ∈ plan.filters, d.kind = .value) (he : e.Truthful)
    (hlayout : plan.layout = .ofPage ∨ plan.layout = .none) (hknows : site.Knows e.files plan.page f e)
    (h : (plan.environment site).IncludesItself e.files plan.page f c name)
    (hbegins : c.layout = none ∨ ∃ page s, site.BeginsPage plan e page s) :
    ∃ error, site.RenderFails plan e error ∧ error.cause = .recursivePartial name site.settings.maxPartialDepth := by
  have henv := hsite.environment hplan
  have hcontent : site.initAnswer e.files plan.page f = .ok c := h.content
  obtain ⟨s, hs⟩ := exists_beginsPage hknows hcontent hlayout hbegins
  have hprepare := keeps_prepare_knowsItself hcontent hlayout
  have houter := hs.outermost (henv.keeps_knowsItself e.files plan.page f).maintainsWriting hprepare ⟨he, hknows⟩
  obtain ⟨hpage, hformat⟩ := hs.scope
  have hdepth : s.scope.depth ≤ site.settings.maxPartialDepth := by
    rw [houter.depth]
    exact Nat.zero_le _
  obtain ⟨error, hfails, hcause⟩ := h.fails henv houter.engine hpage hformat hdepth
  exact ⟨error, .of_writeTo (hs.exposes.fails error hfails), hcause⟩

/-- **Partials.** In a site with the built-in block filters: a render ends if no page uses `select`; no scope of a render is
deeper than the settings allow; an expression that asks for a page at that depth fails with the name of the page and the depth;
and a page without fallbacks that includes itself fails with such an error inside those of block filters. -/
theorem partials_bounded (hsite : site.Standard) (plan : RenderPlan) (hplan : ∀ d ∈ plan.filters, d.kind = .value)
    (he : e.Truthful) :
    (site.WithoutSelect e → Ends (fun n => site.writeTo plan n) e ∧ Ends (fun n => site.renderText plan n) e) ∧
    (∀ s, site.Opens plan e s → s.scope.depth ≤ site.settings.maxPartialDepth) ∧
    (∀ v s c name, (plan.environment site).Calls v s c → s.scope.depth = site.settings.maxPartialDepth → c.Asks name →
      Fails ((plan.environment site).evaluate v) s (.filter c.name (.recursivePartial name site.settings.maxPartialDepth))) ∧
    ∀ f c name, plan.layout = .ofPage ∨ plan.layout = .none → site.Knows e.files plan.page f e →
      (plan.environment site).IncludesItself e.files plan.page f c name →
      (c.layout = none ∨ ∃ page s, site.BeginsPage plan e page s) →
      ∃ error, site.RenderFails plan e error ∧ error.cause = .recursivePartial name site.settings.maxPartialDepth := by
  have henv := hsite.environment hplan
  have hkept := Engine.Truthful.keptByLoading site.toPageRules
  have hprepare := Engine.Truthful.keeps_prepare site plan
  refine ⟨?_, ?_, ?_, ?_⟩
  · intro hpages
    have hwrite := ends_of_withoutSelect hsite hplan he hpages
    exact ⟨hwrite, ends_renderText hwrite⟩
  · intro s hs
    exact hs.depth_le henv.keeps_truthful hkept hprepare he
  · intro v s c name hc hdepth hasks
    exact hc.fails henv.keeps_truthful hasks hdepth
  · intro f c name hlayout hknows h hbegins
    exact fails_of_selfInclusion hsite hplan he hlayout hknows h hbegins

end Site

/-! ## A page that includes itself -/

/-- A site in which at most three partials nest. -/
def loopSite : Site :=
  Site.build { maxPartialDepth := 3 }

/-- A page that includes itself. -/
def loopText : String :=
  "again \x7b\x7b 'loop' | partial \x7d\x7d"

/-- The file of the page. -/
def loopFiles : MemoryFiles where
  files := [("loop.html", { bytes := Utf8.encode loopText, stamp := 5 })]

/-- The site once it was asked for the page. -/
def loopEngine : Engine :=
  (Load.runOn (loopSite.getPage "loop") (Engine.over (.memory loopFiles))).2

/-- The render of the page. -/
def loopPlan : RenderPlan where
  page := { kind := .page, key := "loop" }

/-- The expression with which the page includes itself. -/
def loopVariable : Variable where
  source := "\x7b\x7b 'loop' | partial \x7d\x7d"
  initial := .literal (.string "loop")
  binding := none
  stages := [{ name := "partial", args := [] }]

/-- The page as it is loaded. -/
def loopContent : PageContent where
  path := "loop.html"
  args := []
  fragments := [.text "again ", .var loopVariable]
  layout := none
  stamp := 5

theorem standard_loopSite : loopSite.Standard :=
  Site.standard_build fun _ hd => absurd hd List.not_mem_nil

theorem toPageRules_loopSite :
    loopSite.toPageRules = { settings := { maxPartialDepth := 3 }, formats := [.html, .markdown] } := rfl

theorem knows_loopEngine : loopSite.Knows (.memory loopFiles) loopPlan.page .html loopEngine := by
  have hformat : loopSite.formatOf? (Engine.over (.memory loopFiles)) "loop" = .ok (some .html) := rfl
  have hpath : loopSite.pathId "loop" = loopPlan.page := by
    decide +kernel
  have hknows := PageRules.Knows.of_getPage (PageRules.ready_over loopSite.toPageRules (.memory loopFiles)) hformat
  rwa [hpath] at hknows

theorem initAnswer_loop : loopSite.initAnswer (.memory loopFiles) loopPlan.page .html = .ok loopContent := by
  rw [toPageRules_loopSite]
  cbv

/-- Wherever it is written, the expression asks for the page. -/
theorem isPartial_loop :
    (loopPlan.environment loopSite).IsPartial loopVariable "loop" (Stage.ofCall { name := "partial", args := [] }) where
  start := rfl
  filter := by
    have hfilter : (loopPlan.environment loopSite).findFilter "partial" 1 =
        some { name := "partial", arity := 1, body := .block Blocks.writePage } := by
      rw [Environment.findFilter_ofList [] _ rfl (Site.filters_build _ _ _ _)]
      rfl
    exact ⟨_, hfilter, rfl⟩
  locals s := by
    have hargs : Yields (fun n => (loopPlan.environment loopSite).stageArgs n
        (Stage.ofCall { name := "partial", args := [] })) s { output := [], outcome := .ok [], state := s } :=
      ⟨by simp, fun _ => Or.inr rfl, 0, fun _ _ => rfl⟩
    exact ⟨_, [], [], hargs, rfl, rfl⟩

/-- The page includes itself. -/
theorem includesItself_loop :
    (loopPlan.environment loopSite).IncludesItself (.memory loopFiles) loopPlan.page .html loopContent "loop" where
  content := initAnswer_loop
  template := by
    refine ⟨[.text "again "], loopVariable, _, [], rfl, fun fragment hf => ?_, isPartial_loop⟩
    exact ⟨_, List.mem_singleton.1 hf⟩
  names := by
    have hdirectory : Environment.partialDirectory? loopContent.path "loop" = none := by decide
    unfold PageRules.Names
    rw [hdirectory]
    change loopSite.pathId "loop" = loopPlan.page
    decide +kernel
  fallback _ := rfl

theorem truthful_loopEngine : loopEngine.Truthful := by
  have hkept := Engine.Truthful.keptByLoading loopSite.toPageRules
  exact hkept.getPage "loop" _ (truthful_over _)

/-- No page uses `select`. -/
theorem withoutSelect_loopEngine : loopSite.WithoutSelect loopEngine := by
  have hover : loopSite.WithoutSelect (Engine.over (.memory loopFiles)) := by
    refine Site.withoutSelect_over fun file hfile source hsource f hf v hv => ?_
    obtain rfl := List.mem_singleton.1 hfile
    obtain rfl := Option.some.inj ((Utf8.decode?_encode loopText).symm.trans hsource)
    have hformats : loopSite.formats = [.html, .markdown] := rfl
    have hfragments : (f.parseSource loopText).2 = loopContent.fragments := by
      rw [hformats] at hf
      rcases List.mem_cons.1 hf with rfl | hf
      · cbv
      · obtain rfl := List.mem_singleton.1 hf
        cbv
    rw [hfragments] at hv
    obtain rfl : v = loopVariable := by simpa [loopContent] using hv
    decide
  exact (Site.WithoutSelect.keptByLoading loopSite).getPage "loop" _ hover

/-- A render of the page ends, with the error of the fourth level. -/
theorem partials_bounded_loop :
    (loopSite.Standard ∧ loopEngine.Truthful ∧ loopSite.WithoutSelect loopEngine) ∧
      Ends (fun n => loopSite.renderText loopPlan n) loopEngine ∧
      ∃ error, loopSite.RenderFails loopPlan loopEngine error ∧ error.cause = .recursivePartial "loop" 3 := by
  have hfiles : loopEngine.files = .memory loopFiles := knows_loopEngine.files
  have hknows := knows_loopEngine
  have hincludes := includesItself_loop
  rw [← hfiles] at hknows hincludes
  have hpages := withoutSelect_loopEngine
  obtain ⟨hends, -, -, hself⟩ := Site.partials_bounded standard_loopSite loopPlan nofun truthful_loopEngine
  obtain ⟨-, htext⟩ := hends hpages
  exact ⟨⟨standard_loopSite, truthful_loopEngine, hpages⟩, htext,
    hself .html loopContent "loop" (Or.inl rfl) hknows hincludes (Or.inl rfl)⟩

end PageTemplates
