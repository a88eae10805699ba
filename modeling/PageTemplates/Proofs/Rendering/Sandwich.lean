import PageTemplates.Proofs.Evaluation.Memory
import PageTemplates.Proofs.Pages.Abreast
import PageTemplates.Proofs.Rendering.Layers
import PageTemplates.Proofs.Rendering.Sources
import PageTemplates.Proofs.Rendering.States

/-!
# Pages inside layouts

A layout that is some text, the place of the page and some text again adds these texts around the page and nothing else. The
page is written in a scope with another layout around it, and on a site that has looked for the layout and loaded it, but
neither can be seen from the page. Main statements: preparing a render with another layout leaves a site that answers alike
(`prepare_layouts`), and a render in such a layout writes the page as without it between the texts (`writeTo_sandwich`).
-/

namespace PageTemplates

open PageRules Load

variable {rules : PageRules} {site : Site} {plan : RenderPlan} {e e' e₁ e₂ : Engine}

/-- States that answer alike have the same memory. -/
theorem sameMemory_alike (rules : PageRules) : SameMemory rules.Alike := by
  refine ⟨fun e e' h => ⟨by rw [h.frame], fun _ => ?_⟩, fun e e' h => ⟨by rw [h.frame], fun _ => ?_⟩,
    fun e e' h => ⟨by rw [h.frame], fun _ => ?_⟩⟩
  all_goals exact h.of_same (by rw [h.frame]) (fun _ => rfl) (fun _ => rfl) rfl rfl h.initialized

/-! ## Preparing with and without a layout -/

/-- The same render with another layout. -/
def RenderPlan.withLayout (plan : RenderPlan) (layout : LayoutSelection) : RenderPlan :=
  { plan with layout }

theorem RenderPlan.withLayout_self (plan : RenderPlan) : plan.withLayout plan.layout = plan := rfl

/-- Looking for a named layout and loading it leaves a site that answers alike. -/
theorem PageRules.Alike.of_resolveLayout {id : PageId} {name : String} {found : Option PageId} (h : e.Orderly)
    (hi : e.initialized = true) (hrun : runOn (rules.resolveLayout id (some name)) e = (.ok found, e₁)) :
    rules.Alike e e₁ := by
  unfold resolveLayout at hrun
  rw [runOn_get_bind] at hrun
  split at hrun
  · cases hrun
  · split at hrun
    · cases hrun
    · obtain ⟨layout, e', hfind, hrun⟩ := exists_of_runOn_bind hrun
      have hfound := Alike.of_findLayout h hi hfind
      cases layout with
      | none =>
        cases hrun
        exact hfound
      | some l =>
        obtain ⟨⟨⟩, e'', hdiscard, hrun⟩ := exists_of_runOn_bind hrun
        obtain ⟨c, e''', hrefresh, hdiscard⟩ := exists_of_runOn_bind hdiscard
        cases hdiscard
        cases hrun
        exact hfound.trans (Alike.of_refresh hfound.right hfound.initialized' hrefresh)

theorem PageRules.Alike.of_selectLayout {content : PageContent} {found : Option PageId} (h : e.Orderly)
    (hi : e.initialized = true) (hrun : runOn (site.selectLayout plan content) e = (.ok found, e₁)) : site.Alike e e₁ := by
  unfold Site.selectLayout at hrun
  split at hrun
  · cases hrun
    exact Alike.refl _ h hi
  · cases hrun
    exact Alike.refl _ h hi
  · cases hrun
    exact Alike.refl _ h hi
  · obtain ⟨l, e', hresolve, hrun⟩ := exists_of_runOn_bind hrun
    have hresolved := Alike.of_resolveLayout h hi hresolve
    cases l with
    | none => cases hrun
    | some l =>
      cases hrun
      exact hresolved

namespace Site

/-- A page that is loaded, with its layout. -/
def addLayout (site : Site) (plan : RenderPlan) (content : PageContent) (page : LoadedPage) :
    Load (LoadedPage × Option LoadedPage) := do
  match ← site.selectLayout plan content with
  | none => return (page, none)
  | some id =>
    discard (site.refresh id)
    return (page, some (← loadedPage id))

/-- Preparing a page fails in the same way whatever the layout, or it works without a layout. With another layout it then gives
the same page, on a site that answers alike. -/
theorem prepare_layouts (site : Site) (plan : RenderPlan) (he : e.Orderly) :
    (∃ error e', ∀ layout, runOn (site.prepare (plan.withLayout layout)) e = (.error error, e')) ∨
      ∃ page e₁, runOn (site.prepare (plan.withLayout .none)) e = (.ok (page, none), e₁) ∧
        ∀ layout loaded found e₂, runOn (site.prepare (plan.withLayout layout)) e = (.ok (loaded, found), e₂) →
          loaded = page ∧ site.Alike e₁ e₂ := by
  have hclosed : ({ e with initialized := true } : Engine).Orderly := he.of_same fun _ => rfl
  have hrun : ∀ layout, runOn (site.prepare (plan.withLayout layout)) e =
      runOn (site.initPage plan.page >>= fun content => loadedPage plan.page >>=
        site.addLayout (plan.withLayout layout) content) { e with initialized := true } := fun layout => runOn_modify_bind _ _ _
  unfold addLayout at hrun
  cases hinit : runOn (site.initPage plan.page) { e with initialized := true } with
  | mk r e₁ =>
    cases r with
    | error error => exact Or.inl ⟨error, e₁, fun layout => (hrun layout).trans (runOn_bind_error hinit)⟩
    | ok c =>
      obtain ⟨⟨f, hloaded⟩, h₁, hi₁⟩ := loaded_of_initPage hclosed rfl hinit
      have hpage := run_loadedPage_of_loaded hloaded
      refine Or.inr ⟨{ format := f, content := c }, e₁, ?_, fun layout loaded found e₂ hprepare => ?_⟩
      · rw [hrun, runOn_bind_ok hinit, runOn_bind_ok hpage]
        rfl
      · rw [hrun, runOn_bind_ok hinit, runOn_bind_ok hpage] at hprepare
        obtain ⟨selected, e₃, hselect, hprepare⟩ := exists_of_runOn_bind hprepare
        have hselected := Alike.of_selectLayout h₁ hi₁ hselect
        cases selected with
        | none =>
          cases hprepare
          exact ⟨rfl, hselected⟩
        | some l =>
          obtain ⟨⟨⟩, e₄, hdiscard, hprepare⟩ := exists_of_runOn_bind hprepare
          obtain ⟨c', e₅, hrefresh, hdiscard⟩ := exists_of_runOn_bind hdiscard
          cases hdiscard
          obtain ⟨layout', e₆, hlayout, hanswer⟩ := exists_of_runOn_bind hprepare
          obtain ⟨rfl, -⟩ := page?_of_loadedPage hlayout
          cases hanswer
          exact ⟨rfl, hselected.trans (Alike.of_refresh hselected.right hselected.initialized' hrefresh)⟩

/-! ## Writing with and without a layout -/

/-- A layout without arguments that is a text, the place of the page, and a text. -/
structure IsSandwich (layout : PageContent) (first second : String) : Prop where
  args : layout.args = []
  fragments : ∃ before hole after, layout.fragments = before ++ .var hole :: after ∧ hole.isPageHole = true ∧
    (∀ f ∈ before ++ after, ∃ text, f = .text text) ∧
    first = String.ofList (sourcesOf before) ∧ second = String.ofList (sourcesOf after)

/-- What a run writes and comes to, with a text before the output of another, and a text after it unless that failed. If nothing
was begun, both write nothing. -/
structure Framed (first second : String) (alone whole : Emission Engine Unit) : Prop where
  outcome : whole.outcome = alone.outcome
  written : alone.outcome = .ok () → whole.output = Utf8.encode first ++ alone.output ++ Utf8.encode second
  failed : ∀ fault, alone.outcome = .error fault →
    whole.output = Utf8.encode first ++ alone.output ∨ alone.output = [] ∧ whole.output = []

/-- Writing the page in its place is writing it in a scope of its own. -/
theorem run_writeHole (env : Environment) (plan : RenderPlan) (fuel : Nat) (page layout : LoadedPage) (s : Session) :
    (writeHole env plan fuel page layout).run s =
      let r := (writePage env plan fuel page.content).run (s.inside (holeScope page))
      { r with state := r.state.inside fun scope =>
          { scope with page := layout.content, format := layout.format, inLayout := true } } := by
  rw [writeHole, Emit.Stable.run_bind_ok (a := ()) rfl, Emit.Stable.run_bind_ok (x := Emit.attempt _) rfl,
    Emit.Stable.run_bind_ok (a := ()) rfl]
  have hresume : ∀ (outcome : Except Fault Unit) (t : Session),
      (Emit.resume outcome).run t = { output := [], outcome, state := t } := by
    intro outcome t
    cases outcome <;> rfl
  have hscope : ∀ (f : Scope → Scope) (t : Session),
      (Emit.ofEval (Eval.modifyScope f)).run t = { output := [], outcome := .ok (), state := t.inside f } := fun _ _ => rfl
  simp only [hresume, hscope, Emit.attempt, List.nil_append, List.append_nil]
  rfl

/-- Texts are written in a layout as they are, and change nothing. -/
theorem run_writeLayout_texts (env : Environment) (plan : RenderPlan) (fuel : Nat) (page layout : LoadedPage)
    {fragments : List Fragment} (h : ∀ f ∈ fragments, ∃ text, f = .text text) (s : Session) :
    (fragments.forM (writeLayoutFragment env plan fuel page layout)).run s =
      { output := Utf8.encode (String.ofList (sourcesOf fragments)), outcome := .ok (), state := s } := by
  refine Emit.run_forM_sources fun f hf => ?_
  obtain ⟨text, rfl⟩ := h f hf
  rfl

/-- A sandwich writes the page between its texts. The second text is not written if the page fails. -/
theorem run_writeLayout (env : Environment) (plan : RenderPlan) (fuel : Nat) (page : LoadedPage) {layout : LoadedPage}
    {first second : String} (h : IsSandwich layout.content first second) (s : Session) :
    let r := (writePage env plan fuel page.content).run (s.inside (holeScope page))
    let whole := (layout.content.fragments.forM (writeLayoutFragment env plan fuel page layout)).run s
    whole.outcome = r.outcome ∧
      whole.output = Utf8.encode first ++ (r.output ++ match r.outcome with
        | .ok _ => Utf8.encode second
        | .error _ => []) := by
  obtain ⟨before, hole, after, hfragments, hhole, htexts, rfl, rfl⟩ := h.fragments
  have hbefore := run_writeLayout_texts env plan fuel page layout (fun f hf => htexts f (List.mem_append_left after hf)) s
  have hafter := run_writeLayout_texts env plan fuel page layout (fun f hf => htexts f (List.mem_append_right before hf))
  have hwrite := run_writeHole env plan fuel page layout s
  have hfragment : writeLayoutFragment env plan fuel page layout (.var hole) = writeHole env plan fuel page layout :=
    if_pos hhole
  have hsplit : layout.content.fragments.forM (writeLayoutFragment env plan fuel page layout) = (do
      before.forM (writeLayoutFragment env plan fuel page layout)
      writeHole env plan fuel page layout
      after.forM (writeLayoutFragment env plan fuel page layout)) := by
    rw [hfragments, ← hfragment]
    simp only [List.forM_eq_forM, List.forM_append, List.forM_cons]
  intro r whole
  have hwhole : whole = _ := congrArg (Emit.run · s) hsplit
  rw [hwhole, Emit.Stable.run_bind_ok (congrArg Emission.outcome hbefore), hbefore]
  simp only
  cases hr : r.outcome with
  | error fault =>
    rw [Emit.Stable.run_bind_error ((congrArg Emission.outcome hwrite).trans hr), hwrite]
    simp [r]
  | ok a =>
    rw [Emit.Stable.run_bind_ok ((congrArg Emission.outcome hwrite).trans hr), hafter, hwrite]
    exact ⟨rfl, rfl⟩

/-- The scopes in which a page is written alone and in a layout without arguments are alike. -/
theorem alike_pageScope (page : LoadedPage) {layout : PageContent} (h : layout.args = []) :
    (pageScope page none).Alike (pageScope page (some layout)) :=
  ⟨rfl, h.symm⟩

/-- The body of a page in a sandwich is that of the page alone between the texts. -/
theorem writeBody_framed (hplain : (plan.environment site).Plain site.Alike) (h : site.Alike e₁ e₂)
    (page : LoadedPage) {layout : LoadedPage} {first second : String} (hlayout : IsSandwich layout.content first second) (fuel : Nat) :
    Framed first second ((site.writeBody plan fuel page none).run e₁) ((site.writeBody plan fuel page (some layout)).run e₂) := by
  have hpage := stable_writePage hplain (stable_partialContent_alike (plan.environment site)) plan fuel page.content
    { engine := e₁, scope := pageScope page none } { engine := e₂, scope := pageScope page (some layout.content) }
    ⟨alike_pageScope page hlayout.args, h⟩
  obtain ⟨houtcome, houtput⟩ := run_writeLayout (plan.environment site) plan fuel page hlayout
    { engine := e₂, scope := layoutScope page layout }
  -- The scope of the page in its place is that of a page in the layout, since the layout set no locals.
  have hinside : ({ engine := e₂, scope := layoutScope page layout } : Session).inside (holeScope page) =
      { engine := e₂, scope := pageScope page (some layout.content) } := rfl
  rw [hinside, ← hpage.outcome] at houtcome
  rw [hinside, ← hpage.outcome, ← hpage.output] at houtput
  refine ⟨houtcome, fun hok => ?_, fun fault hfault => Or.inl ?_⟩
  · have hpageOk : ((writePage (plan.environment site) plan fuel page.content).run
        { engine := e₁, scope := pageScope page none }).outcome = .ok () := hok
    rw [hpageOk] at houtput
    exact houtput.trans (List.append_assoc _ _ _).symm
  · have hpageFault : ((writePage (plan.environment site) plan fuel page.content).run
        { engine := e₁, scope := pageScope page none }).outcome = .error fault := hfault
    rw [hpageFault] at houtput
    exact houtput.trans (congrArg _ (List.append_nil _))

/-- A render that could not be prepared writes nothing. -/
theorem run_writeTo_error {error : TemplateError} (hprepare : runOn (site.prepare plan) e = (.error error, e')) (fuel : Nat) :
    (site.writeTo plan fuel).run e = { output := [], outcome := .error (.error error), state := e' } := by
  have hloaded := run_ofLoad_engine hprepare
  unfold writeTo
  rw [Emit.Stable.run_bind_error (congrArg Emission.outcome hloaded), hloaded]

/-- A render without transformers of the whole output writes its body once it is prepared. -/
theorem run_writeTo_prepared {page : LoadedPage} {found : Option LoadedPage} (houtput : plan.outputTransformers = [])
    (hprepare : runOn (site.prepare plan) e = (.ok (page, found), e')) (fuel : Nat) :
    (site.writeTo plan fuel).run e = (site.writeBody plan fuel page found).run e' := by
  have hloaded := run_ofLoad_engine hprepare
  unfold writeTo
  rw [Emit.Stable.run_bind_ok (congrArg Emission.outcome hloaded), hloaded]
  simp only [Bool.false_eq_true, if_false, houtput, List.isEmpty_nil, if_true, List.nil_append]

/-- Where a render can load its page, it writes it in a layout that is a sandwich of two texts. -/
def Sandwiches (site : Site) (plan : RenderPlan) (e : Engine) (first second : String) : Prop :=
  ∀ page, site.Prepares (plan.withLayout .none) e page none →
    ∃ loaded layout, site.Prepares plan e loaded (some layout) ∧ IsSandwich layout.content first second

/-- **Sandwiches.** The filters are functions of their input and of what they ask, as value filters and the built-in ones are. A
render without transformers of the whole output, whose layout is a text, the place of the page and a text and has no arguments,
writes the first text, what it writes without the layout, and the second text. It fails exactly if it fails without the layout,
with the same error: nothing is written if the page cannot be loaded, and the second text is not written if writing the page
fails. -/
theorem writeTo_sandwich
    (hfilters : ∀ d ∈ plan.filters ++ site.filters.defs, d.body.Stable site.Alike)
    (houtput : plan.outputTransformers = []) (he : e.Orderly) {first second : String}
    (hlayout : site.Sandwiches plan e first second) (fuel : Nat) :
    Framed first second ((site.writeTo (plan.withLayout .none) fuel).run e) ((site.writeTo plan fuel).run e) := by
  obtain ⟨error, e', hfailed⟩ | ⟨page, e₁, halone, hwhole⟩ := prepare_layouts site plan he
  · have hplan := hfailed plan.layout
    rw [RenderPlan.withLayout_self] at hplan
    rw [run_writeTo_error (hfailed .none), run_writeTo_error hplan]
    exact ⟨rfl, nofun, fun _ _ => Or.inr ⟨rfl, rfl⟩⟩
  · obtain ⟨loaded, layout, ⟨e₂, hprepare⟩, hsandwich⟩ := hlayout page ⟨e₁, halone⟩
    obtain ⟨rfl, halike⟩ := hwhole plan.layout loaded (some layout) e₂ hprepare
    have hbody := writeBody_framed ((sameMemory_alike site.toPageRules).plain hfilters) halike loaded hsandwich fuel
    have hnone : (plan.withLayout .none).outputTransformers = [] := houtput
    rw [run_writeTo_prepared hnone halone, run_writeTo_prepared houtput hprepare]
    exact hbody

end Site

/-- A page with a partial, and a layout without arguments around it. -/
def framedFiles : MemoryFiles where
  files :=
    [("_layout.html", { bytes := Utf8.encode "[\x7b\x7b page \x7d\x7d]", stamp := 5 }),
     ("main.html", { bytes := Utf8.encode "\x7b\x7b 'part' | partial \x7d\x7d", stamp := 5 }),
     ("part.html", { bytes := Utf8.encode "\x7b\x7b title \x7d\x7d", stamp := 5 })]

/-- The render of the page, with the title that the partial shows. -/
def framedPlan : RenderPlan where
  page := { kind := .page, key := "main" }
  args := [("title", .string "Home")]

/-- The layout as it is loaded. -/
def framedLayout : LoadedPage where
  format := .html
  content :=
    { path := "_layout.html", args := [], fragments := [.text "[", .var holeVariable, .text "]"], layout := none, stamp := 5 }

/-- The site once it was asked for the page. -/
def framedEngine : Engine where
  initialized := true
  files := .memory framedFiles
  pages :=
    [({ kind := .page, key := "main" },
      { id := { kind := .page, key := "main" }, path := "main.html", format := .html, content := some titledPage.content }),
     ({ kind := .layout, key := "_layout" },
      { id := { kind := .layout, key := "_layout" }, path := "_layout.html", format := .html,
        content := some framedLayout.content })]

theorem runOn_getPage_framed :
    Load.runOn (plainSite.getPage "main") (Engine.over (.memory framedFiles)) = (.ok (some framedPlan.page), framedEngine) := by
  rw [toPageRules_plainSite]
  cbv

theorem orderly_framed : framedEngine.Orderly := by
  have hkept := @Engine.InUse.keeps_getPage plainSite.toPageRules "main" (Engine.over (.memory framedFiles))
    ⟨Engine.orderly_over _, rfl⟩
  rw [runOn_getPage_framed] at hkept
  exact hkept.orderly

theorem sandwiches_framed : plainSite.Sandwiches framedPlan framedEngine "[" "]" := by
  have hprepare : Load.runOn (plainSite.prepare framedPlan) framedEngine = (.ok (titledPage, some framedLayout), framedEngine) := by
    rfl
  refine fun _ _ => ⟨titledPage, framedLayout, ⟨framedEngine, hprepare⟩, rfl, [.text "["], holeVariable, [.text "]"], rfl, ?_⟩
  exact ⟨by decide, by simp, by decide, by decide⟩

/-- The layout adds its texts around the page, and the page writes its partial. -/
theorem framed_page :
    ((∀ d ∈ framedPlan.filters ++ plainSite.filters.defs, d.body.Stable plainSite.Alike) ∧
      framedPlan.outputTransformers = [] ∧ framedEngine.Orderly ∧ plainSite.Sandwiches framedPlan framedEngine "[" "]") ∧
    Site.Framed "[" "]" ((plainSite.writeTo (framedPlan.withLayout .none) 100).run framedEngine)
      ((plainSite.writeTo framedPlan 100).run framedEngine) ∧
    ((plainSite.writeTo framedPlan 100).run framedEngine).output = Utf8.encode "[Home]" := by
  have hfilters : ∀ d ∈ framedPlan.filters ++ plainSite.filters.defs, d.body.Stable plainSite.Alike := by
    have hnone : framedPlan.filters = [] := rfl
    rw [hnone, List.nil_append]
    exact (sameMemory_alike plainSite.toPageRules).stable_filters standard_plainSite
  have houtput : framedPlan.outputTransformers = [] := rfl
  have hframed := @Site.writeTo_sandwich plainSite framedPlan framedEngine hfilters houtput orderly_framed _ _ sandwiches_framed 100
  have hwritten : ((plainSite.writeTo framedPlan 100).run framedEngine).output = Utf8.encode "[Home]" := by decide +kernel
  exact ⟨⟨hfilters, houtput, orderly_framed, sandwiches_framed⟩, hframed, hwritten⟩

end PageTemplates
