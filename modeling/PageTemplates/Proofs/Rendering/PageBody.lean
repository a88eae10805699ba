import PageTemplates.Proofs.Rendering.Layers

/-!
# Expressions in the body of a page

A render that was started can be asked for the value of an expression, as if it stood in the body of its page. The names in it
are looked up with the page's own layout, whichever layout the render writes the page in, and without the locals that the
layout sets before the page. Main statement: where that makes no difference, and only there, a name is the same in both places
(`Render.evaluate_in_body`).
-/

namespace PageTemplates

open Load

/-! ## Pages whose files have not changed -/

/-- A page is loaded, and its file has not changed since. -/
structure Engine.Loaded (e : Engine) (id : PageId) (loaded : LoadedPage) : Prop where
  page : ∃ p, e.page? id = some p ∧ p.id = id ∧ p.format = loaded.format ∧ p.content = some loaded.content ∧
    PageRules.Stamped (e.filesFor id.kind) p.path loaded.content

/-- A state after a check for changes, which may have been noted. -/
inductive Engine.Checked (e : Engine) : Engine → Prop
  | same : Checked e e
  | noted {p : Page} (hp : e.page? p.id = some p) (time : Int) : Checked e (e.putPage { p with lastChecked := some time })

namespace Engine

variable {e e' : Engine} {id : PageId} {loaded : LoadedPage}

theorem Loaded.content? (h : e.Loaded id loaded) : e.content? id = some loaded.content := by
  obtain ⟨p, hp, -, -, hcontent, -⟩ := h.page
  rw [Engine.content?, hp]
  exact hcontent

theorem Loaded.run_loadedPage (h : e.Loaded id loaded) : runOn (Site.loadedPage id) e = (.ok loaded, e) := by
  obtain ⟨p, hp, -, hformat, hcontent, -⟩ := h.page
  rw [Environment.run_loadedPage hp hcontent, hformat]

/-- A check leaves every page as it was loaded. -/
theorem Loaded.checked (h : e.Loaded id loaded) (hc : e.Checked e') : e'.Loaded id loaded := by
  cases hc with
  | same => exact h
  | @noted q hq time =>
    obtain ⟨p, hp, hid, hformat, hcontent, hstamped⟩ := h.page
    refine ⟨?_⟩
    rw [page?_putPage_eq, filesFor_putPage]
    by_cases hsame : id = q.id
    · subst hsame
      obtain rfl := Option.some.inj (hp.symm.trans hq)
      rw [if_pos rfl]
      exact ⟨_, rfl, rfl, hformat, hcontent, hstamped⟩
    · rw [if_neg hsame]
      exact ⟨p, hp, hid, hformat, hcontent, hstamped⟩

end Engine

namespace PageRules

variable {rules : PageRules} {e : Engine} {id : PageId} {page : LoadedPage}

theorem checked_dueForCheck (rules : PageRules) {p : Page} (hp : e.page? p.id = some p) :
    ∃ due e', runOn (rules.dueForCheck p) e = (.ok due, e') ∧ e.Checked e' := by
  unfold dueForCheck
  cases rules.settings.checksFreshness with
  | false => exact ⟨false, e, rfl, .same⟩
  | true =>
    cases rules.settings.checkIntervalSeconds with
    | none => exact ⟨true, e, rfl, .same⟩
    | some seconds =>
      simp only [Bool.not_true, Bool.false_eq_true, if_false, runOn_get_bind]
      cases p.lastChecked with
      | none => exact ⟨true, _, rfl, .noted hp e.clock⟩
      | some time =>
        by_cases hearly : e.clock - time < seconds * 1000
        · simp only [if_pos hearly]
          exact ⟨false, e, rfl, .same⟩
        · simp only [if_neg hearly]
          exact ⟨true, _, rfl, .noted hp e.clock⟩

/-- Refreshing a page whose file has not changed gives its content, unless the file cannot be probed. -/
theorem refresh_of_loaded (rules : PageRules) (h : e.Loaded id page) :
    ∃ r e', runOn (rules.refresh id) e = (r, e') ∧ e.Checked e' ∧
      (r = .ok page.content ∨ ∃ path error, (e.filesFor id.kind).info? path = .error error ∧ r = .error (.file error)) := by
  obtain ⟨p, hp, rfl, -, hcontent, hstamped⟩ := h.page
  obtain ⟨due, e', hdue, hchecked⟩ := checked_dueForCheck rules hp
  have hfiles : e'.filesFor p.id.kind = e.filesFor p.id.kind := by
    cases hchecked with
    | same => rfl
    | noted _ _ => exact Engine.filesFor_putPage e _ _
  unfold refresh
  rw [runOn_get_bind]
  simp only [hp, hcontent]
  rw [runOn_bind_ok hdue]
  cases due with
  | false => exact ⟨_, e', rfl, hchecked, Or.inl rfl⟩
  | true =>
    simp only [if_true, runOn_get_bind, hfiles]
    cases hinfo : (e.filesFor p.id.kind).info? p.path with
    | error error => exact ⟨_, e', runOn_ofFile_error_bind error _ e', hchecked, Or.inr ⟨p.path, error, hinfo, rfl⟩⟩
    | ok found =>
      rw [runOn_ofFile_ok_bind]
      cases found with
      | none => exact ⟨_, e', rfl, hchecked, Or.inl rfl⟩
      | some info =>
        simp only [hstamped info hinfo, if_true]
        exact ⟨_, e', rfl, hchecked, Or.inl rfl⟩

/-- A page that a site holds as its file reads is loaded, and the file has not changed. -/
theorem Ready.loaded {f : PageFormat} {c : PageContent} (h : rules.Ready e) (hheld : Holds e id f c)
    (hread : rules.read? e.files id f = .ok c) : e.Loaded id { format := f, content := c } := by
  obtain ⟨p, hp, rfl, hcontent⟩ := hheld
  have hf := h.consistent id p hp
  refine ⟨p, (page?_eq hf.kind).trans hp, hf.identity, rfl, hcontent, fun info hinfo => ?_⟩
  rw [filesFor_eq hf.kind, hf.path] at hinfo
  unfold read? contentOf? at hread
  simp only [hinfo] at hread
  split at hread
  · cases hread
  · split at hread
    · cases hread
    · split at hread
      · cases hread
      · rw [← Except.ok.inj hread]

theorem of_refresh_loaded {c : PageContent} {e' : Engine} (h : e.Loaded id page)
    (hrun : runOn (rules.refresh id) e = (.ok c, e')) : c = page.content ∧ e.Checked e' := by
  obtain ⟨r, e₁, hrefresh, hchecked, hanswer⟩ := refresh_of_loaded rules h
  obtain ⟨rfl, rfl⟩ := Prod.mk.inj (hrefresh.symm.trans hrun)
  rcases hanswer with hcontent | ⟨path, error, -, herror⟩
  · exact ⟨Except.ok.inj hcontent, hchecked⟩
  · cases herror

/-- Loading a page and its layout again gives the content that the page has, and leaves every page as it was loaded. -/
theorem of_initPage_loaded {c : PageContent} {e' : Engine} (h : e.Loaded id page)
    (hlayout : ∀ l, page.content.layout = some l → ∃ layout, e.Loaded l layout)
    (hrun : runOn (rules.initPage id) e = (.ok c, e')) :
    c = page.content ∧ ∀ other held, e.Loaded other held → e'.Loaded other held := by
  obtain ⟨content, e₁, hrefresh, hrun⟩ := exists_of_runOn_bind hrun
  obtain ⟨rfl, hchecked⟩ := of_refresh_loaded h hrefresh
  cases hl : page.content.layout with
  | none =>
    simp only [hl] at hrun
    cases hrun
    exact ⟨rfl, fun other held hother => hother.checked hchecked⟩
  | some l =>
    simp only [hl] at hrun
    obtain ⟨layout, hloaded⟩ := hlayout l hl
    obtain ⟨⟨⟩, e₂, hdiscard, hrun⟩ := exists_of_runOn_bind hrun
    obtain ⟨content, e₃, hrefresh', hpure⟩ := exists_of_runOn_bind hdiscard
    cases hpure
    cases hrun
    obtain ⟨-, hchecked'⟩ := of_refresh_loaded (hloaded.checked hchecked) hrefresh'
    exact ⟨rfl, fun other held hother => (hother.checked hchecked).checked hchecked'⟩

end PageRules

/-! ## Renders in use -/

namespace Render

/-- A render was started: its page is loaded, and so is the page's own layout, if it has one. Their files have not changed
since. -/
structure InUse (r : Render) (e : Engine) (page : LoadedPage) : Prop where
  started : r.started = true
  loaded : e.Loaded r.plan.page page
  layout : ∀ l, page.content.layout = some l → ∃ own, e.Loaded l own

/-- The page's own layout, whichever layout the render writes the page in. -/
def ownLayout (e : Engine) (page : LoadedPage) : Option PageContent :=
  page.content.layout.bind e.content?

variable {site : Site} {r : Render} {e : Engine} {page : LoadedPage}

/-- A render in use writes its page as it was loaded, and if it takes the page's own layout, that as it was loaded. -/
theorem InUse.prepares (h : r.InUse e page) {page' : LoadedPage} {layout : Option LoadedPage}
    (hprepares : site.Prepares r.plan e page' layout) :
    page' = page ∧ (r.plan.layout = .ofPage → layout.map (·.content) = ownLayout e page) := by
  obtain ⟨e', hrun⟩ := hprepares
  obtain ⟨⟨⟩, e₁, hclose, hrun⟩ := exists_of_runOn_bind hrun
  obtain ⟨content, e₂, hinit, hrun⟩ := exists_of_runOn_bind hrun
  obtain ⟨page₂, e₃, hpage, hrun⟩ := exists_of_runOn_bind hrun
  obtain ⟨found, e₄, hselect, hrun⟩ := exists_of_runOn_bind hrun
  have hclosed : ∀ other held, e.Loaded other held → e₁.Loaded other held := by
    cases hclose
    exact fun other held hother => ⟨hother.page⟩
  obtain ⟨rfl, hkept⟩ := PageRules.of_initPage_loaded (hclosed _ _ h.loaded)
    (fun l hl => (h.layout l hl).imp fun own hown => hclosed _ _ hown) hinit
  have hloaded := hkept _ _ (hclosed _ _ h.loaded)
  rw [hloaded.run_loadedPage] at hpage
  cases hpage
  refine ⟨?_, fun hlayout => ?_⟩
  · cases found with
    | none =>
      cases hrun
      rfl
    | some id =>
      obtain ⟨⟨⟩, e₅, -, hrun⟩ := exists_of_runOn_bind hrun
      obtain ⟨layout', e₆, -, hrun⟩ := exists_of_runOn_bind hrun
      cases hrun
      rfl
  · have hfound : site.selectLayout r.plan page.content = pure page.content.layout := by
      unfold Site.selectLayout
      rw [hlayout]
    rw [hfound] at hselect
    cases hselect
    unfold ownLayout
    cases hl : page.content.layout with
    | none =>
      rw [hl] at hrun
      cases hrun
      rfl
    | some id =>
      rw [hl] at hrun
      obtain ⟨own, hown⟩ := h.layout id hl
      have hown₂ := hkept _ _ (hclosed _ _ hown)
      obtain ⟨⟨⟩, e₅, hdiscard, hrun⟩ := exists_of_runOn_bind hrun
      obtain ⟨content, e₆, hrefresh, hpure⟩ := exists_of_runOn_bind hdiscard
      cases hpure
      obtain ⟨-, hchecked⟩ := PageRules.of_refresh_loaded hown₂ hrefresh
      rw [runOn_bind_ok (hown₂.checked hchecked).run_loadedPage] at hrun
      cases hrun
      rw [Option.bind_some, hown.content?]
      rfl

/-- A render of a page of the site is in use once it was started. -/
theorem inUse_of_init (h : site.Ready e) {p : Page} (hp : Table.get? e.pages r.plan.page = some p) {c : PageContent}
    {r' : Render} {e' : Engine} (hinit : r.init site e = (.ok c, r', e')) :
    r'.InUse e' { format := p.format, content := c } := by
  have hrun : runOn (site.initPage r.plan.page) e = (.ok c, e') ∧ r' = r.start := by
    unfold init at hinit
    have hclose : runOn (Site.close >>= fun _ => site.initPage r.plan.page) e = runOn (site.initPage r.plan.page) e :=
      runOn_bind_ok (run_close h.initialized)
    change (_, _, _) = _ at hinit
    rw [Prod.mk.injEq, Prod.mk.injEq] at hinit
    obtain ⟨houtcome, hrender, hstate⟩ := hinit
    exact ⟨hclose.symm.trans (Prod.ext houtcome hstate), hrender.symm⟩
  obtain ⟨hrun, rfl⟩ := hrun
  obtain ⟨content, e₁, hrefresh, hrun⟩ := exists_of_runOn_bind hrun
  obtain ⟨e₂, ha, hheld⟩ := PageRules.answers_refresh h hp
  obtain ⟨hread, rfl⟩ := Prod.mk.inj (ha.run.symm.trans hrefresh)
  have hholds := hheld content hread
  have hread₂ : site.read? e₂.files r.plan.page p.format = .ok content := by rw [ha.later.files, hread]
  cases hl : content.layout with
  | none =>
    simp only [hl] at hrun
    cases hrun
    exact ⟨rfl, ha.ready.loaded hholds hread₂, fun l hcl => by simp [hl] at hcl⟩
  | some l =>
    simp only [hl] at hrun
    obtain ⟨⟨⟩, e₃, hdiscard, hrun⟩ := exists_of_runOn_bind hrun
    cases hrun
    obtain ⟨own, e₄, hrefresh', hpure⟩ := exists_of_runOn_bind hdiscard
    cases hpure
    obtain ⟨q, hq, -, hcontent⟩ := id hholds
    obtain ⟨-, hknown⟩ := (ha.ready.consistent _ q hq).layout c l hcontent hl
    obtain ⟨o, ho⟩ := Option.isSome_iff_exists.1 hknown
    obtain ⟨e₅, ha', hheld'⟩ := PageRules.answers_refresh ha.ready ho
    obtain ⟨hread', rfl⟩ := Prod.mk.inj (ha'.run.symm.trans hrefresh')
    have hpage := ha'.later.held _ _ _ hread₂ hholds
    have hread₅ : site.read? e₅.files r.plan.page p.format = .ok c := by rw [ha'.later.files, hread₂]
    refine ⟨rfl, ha'.ready.loaded hpage hread₅, fun l' hl' => ?_⟩
    obtain rfl := Option.some.inj (hl.symm.trans hl')
    exact ⟨_, ha'.ready.loaded (hheld' own hread') (by rw [ha'.later.files, hread'])⟩

end Render

/-! ## Names in the body of a page -/

namespace Environment

variable (env : Environment)

/-- What a layout, or else the site, binds a name to. -/
def outer? (layout : Option PageContent) (name : String) : Option Value :=
  ((layout.bind fun content => Table.get? content.args name).map .string).orElse fun _ => Table.get? env.site.args name

theorem bound?_pageScope (page : LoadedPage) (layout : Option PageContent) (locals : Table Value) (name : String) :
    env.bound? { Site.pageScope page layout with locals } name =
      (Table.get? locals name).orElse fun _ => (Table.get? env.args name).orElse fun _ =>
        ((Table.get? page.content.args name).map .string).orElse fun _ => env.outer? layout name := by
  have hpages : (page.content :: page.content :: layout.toList).findSome? (fun content => Table.get? content.args name) =
      (Table.get? page.content.args name).or (layout.bind fun content => Table.get? content.args name) := by
    rw [List.findSome?_cons, List.findSome?_cons]
    cases Table.get? page.content.args name with
    | some text => rfl
    | none =>
      cases layout with
      | none => rfl
      | some content =>
        rw [Option.toList_some, List.findSome?_cons, Option.bind_some]
        cases Table.get? content.args name <;> rfl
  unfold bound? Scope.pageArg? Scope.pageLayers outer? Site.pageScope
  simp only [Bool.false_eq_true, if_false, hpages]
  cases Table.get? page.content.args name <;> rfl

/-- What a filter gives for a name does not depend on the scope. -/
theorem stable_callNullary_scope (name : String) :
    Emit.Stable (fun s t : Session => s.engine = t.engine) (Emit.ofEval (env.callNullary name)) := by
  unfold callNullary
  cases env.findFilterOfKind name 0 .value with
  | none => exact Emit.Stable.pure none
  | some d =>
    simp only
    cases d.body with
    | value run =>
      simp only [Emit.ofEval_bind, Emit.ofEval_inFilter]
      refine (Emit.Stable.inFilter name fun s t h => ?_).bind fun _ => Emit.Stable.pure _
      rw [callValue, run_ofExcept, run_ofExcept]
      exact ⟨rfl, rfl, h⟩
    | remembering memory run =>
      simp only [Emit.ofEval_bind, Emit.ofEval_inFilter]
      refine (Emit.Stable.inFilter name fun s t h => ?_).bind fun _ => Emit.Stable.pure _
      rw [run_callRemembering, run_callRemembering, h]
      cases run ((Table.get? t.engine.cells memory).getD .null) .null [] with
      | error error => exact ⟨rfl, rfl, h⟩
      | ok given => exact ⟨rfl, rfl, rfl⟩
    | context run => exact Emit.Stable.pure none
    | block run => exact Emit.Stable.pure none

/-- Scopes that bind a name alike make no difference to looking it up. -/
theorem alike_lookup {name : String} {a b : Scope} (h : env.bound? a name = env.bound? b name) (engine : Engine) :
    Emission.Alike (fun s t : Session => s.engine = t.engine) ((Emit.ofEval (env.lookup name)).run { engine, scope := a })
      ((Emit.ofEval (env.lookup name)).run { engine, scope := b }) := by
  cases hb : env.bound? b name with
  | some v =>
    rw [run_lookup_of_bound (h.trans hb), run_lookup_of_bound hb]
    exact ⟨rfl, rfl, rfl⟩
  | none =>
    rw [run_lookup_of_unbound (h.trans hb), run_lookup_of_unbound hb]
    exact env.stable_callNullary_scope name _ _ rfl

end Environment

namespace Render

variable {site : Site} {r : Render} {e : Engine} {page : LoadedPage}

/-- The value of a pipeline in a scope. Its output is dropped. -/
def valueIn (env : Environment) (fuel : Nat) (scope : Scope) (pipeline : Pipeline) : Emit Engine Value := do
  let (outcome, _) ← Emit.capture
    (Emit.inScope scope (env.evaluatePipeline fuel (env.access fuel) pipeline.initial pipeline.stages))
  match outcome with
  | .value v => return v
  | _ => return .null

/-- A render in use evaluates in the scope of its page and the page's own layout. -/
theorem InUse.run_evaluate (h : r.InUse e page) {text : String} {pipeline : Pipeline}
    (hparse : parsePipeline text.toList = .ok pipeline) (fuel : Nat) :
    (r.evaluate site fuel text).run e =
      (valueIn (r.plan.environment site) fuel (Site.pageScope page (ownLayout e page)) pipeline).run e := by
  have hpage := run_ofLoad_engine h.loaded.run_loadedPage
  unfold evaluate
  simp only [h.started, Bool.not_true, Bool.false_eq_true, if_false]
  rw [Emit.Stable.run_bind_ok (congrArg Emission.outcome hpage), hpage]
  simp only [hparse]
  rw [Emit.Stable.run_bind_ok (x := Emit.ofLoad get) (a := e) rfl]
  rfl

/-- **The body of the page.** A render in use evaluates an expression in the scope of its page and the page's own layout, and
it begins the body of the page in that of the page and the selected layout, with the locals that the layout set before. These
layouts are the same if the render takes the layout from its page. A name that is no such local means the same in both places
exactly if the render or the page has an argument of the name, or if it is the same for both layouts and the site; and then
looking it up gives the same, whatever the site remembers. -/
theorem evaluate_in_body (h : (r.plan.environment site).LeavesScopes) (huse : r.InUse e page) {page' : LoadedPage} {s : Session}
    (hbegins : site.BeginsPage r.plan e page' s) :
    page' = page ∧ ∃ layout, site.Prepares r.plan e page layout ∧
      (∀ fuel text pipeline, parsePipeline text.toList = .ok pipeline →
        (r.evaluate site fuel text).run e =
          (valueIn (r.plan.environment site) fuel (Site.pageScope page (ownLayout e page)) pipeline).run e) ∧
      s.scope = { Site.pageScope page (layout.map (·.content)) with locals := s.scope.locals } ∧
      (r.plan.layout = .ofPage → layout.map (·.content) = ownLayout e page) ∧
      ∀ name, Table.get? s.scope.locals name = none →
        let env := r.plan.environment site
        let own := Site.pageScope page (ownLayout e page)
        (env.bound? own name = env.bound? s.scope name ↔
          (Table.get? env.args name).isSome ∨ (Table.get? page.content.args name).isSome ∨
            env.outer? (ownLayout e page) name = env.outer? (layout.map (·.content)) name) ∧
        (env.bound? own name = env.bound? s.scope name → ∀ engine,
          Emission.Alike (fun s t : Session => s.engine = t.engine)
            ((Emit.ofEval (env.lookup name)).run { engine, scope := own })
            ((Emit.ofEval (env.lookup name)).run { engine, scope := s.scope })) := by
  obtain ⟨layout, hprepares, hscope, -⟩ := hbegins.scope_eq h
  obtain ⟨rfl, hown⟩ := huse.prepares hprepares
  refine ⟨rfl, layout, hprepares, fun fuel text pipeline hparse => huse.run_evaluate hparse fuel, hscope, hown,
    fun name hlocal => ⟨?_, fun hbound engine => (r.plan.environment site).alike_lookup hbound engine⟩⟩
  have hbody := (r.plan.environment site).bound?_pageScope page' (layout.map (·.content)) s.scope.locals name
  have hvalue := (r.plan.environment site).bound?_pageScope page' (ownLayout e page') [] name
  rw [← hscope, hlocal] at hbody
  change (r.plan.environment site).bound? (Site.pageScope page' (ownLayout e page')) name = _ at hvalue
  rw [hvalue, hbody]
  cases Table.get? (r.plan.environment site).args name with
  | some v => exact iff_of_true rfl (Or.inl rfl)
  | none =>
    cases Table.get? page'.content.args name with
    | some text => exact iff_of_true rfl (Or.inr (Or.inl rfl))
    | none => simp [Table.get?]

end Render

/-- The titled page in its own layout. -/
def titledRender : Render where
  plan := titledPlan

/-- The titled page without a layout. -/
def bareRender : Render where
  plan := { titledPlan with layout := .none }

/-- The session in which the page begins that is written without a layout. -/
def bareSession : Session where
  engine := titledEngine
  scope := Site.pageScope titledPage none

theorem runOn_prepare_bare :
    Load.runOn (plainSite.prepare bareRender.plan) titledEngine = (.ok (titledPage, none), titledEngine) := by
  rfl

theorem init_titled {r : Render} (h : r.plan.page = titledPlan.page) :
    r.init plainSite titledEngine = (.ok titledPage.content, r.start, titledEngine) := by
  unfold Render.init
  rw [h]
  rfl

theorem inUse_titled {r : Render} (h : r.plan.page = titledPlan.page) : r.start.InUse titledEngine titledPage := by
  obtain ⟨e, hrun, hopened⟩ :=
    PageRules.answers_getPage (PageRules.ready_over plainSite.toPageRules (.memory titledFiles)) "main"
  obtain ⟨-, rfl⟩ := Prod.mk.inj (hrun.symm.trans runOn_getPage_titled)
  have hpage : Table.get? titledEngine.pages r.plan.page = some
      { id := titledPlan.page, path := "main.html", format := .html, content := some titledPage.content } := by
    rw [h]
    rfl
  exact Render.inUse_of_init hopened.ready hpage (init_titled h)

/-- With the page's own layout, an argument of the layout is the same in both places. -/
theorem evaluate_in_titled_body :
    ((titledPlan.environment plainSite).LeavesScopes ∧ titledRender.start.InUse titledEngine titledPage ∧
      plainSite.BeginsPage titledPlan titledEngine titledPage mainSession) ∧
    ∃ layout, plainSite.Prepares titledPlan titledEngine titledPage layout ∧
      layout.map (·.content) = Render.ownLayout titledEngine titledPage ∧
      (titledPlan.environment plainSite).bound? (Site.pageScope titledPage (Render.ownLayout titledEngine titledPage)) "title" =
        (titledPlan.environment plainSite).bound? mainSession.scope "title" := by
  have hleaves : (titledRender.start.plan.environment plainSite).LeavesScopes := standard_titled.leavesScopes
  have hbegins : plainSite.BeginsPage titledRender.start.plan titledEngine titledPage mainSession := beginsPage_titled
  have huse : titledRender.start.InUse titledEngine titledPage := inUse_titled rfl
  obtain ⟨-, layout, hprepares, -, -, hown, hnames⟩ := Render.evaluate_in_body hleaves huse hbegins
  refine ⟨⟨hleaves, huse, hbegins⟩, layout, hprepares, hown rfl, ?_⟩
  exact (hnames "title" rfl).1.2 (Or.inr (Or.inr (by rw [hown rfl])))

/-- Without a layout, the argument of the page's own layout is found by an expression that is evaluated, and not in the body of
the page. -/
theorem own_layout_outside_body :
    bareRender.init plainSite titledEngine = (.ok titledPage.content, bareRender.start, titledEngine) ∧
      bareRender.start.InUse titledEngine titledPage ∧
      plainSite.BeginsPage bareRender.plan titledEngine titledPage bareSession ∧
      ((bareRender.start.evaluate plainSite 9 "title").run titledEngine).outcome = .ok (.string "Home") ∧
      ((Emit.ofEval ((bareRender.plan.environment plainSite).lookup "title")).run bareSession).outcome = .ok none := by
  refine ⟨init_titled rfl, inUse_titled rfl, .alone runOn_prepare_bare, ?_, ?_⟩
  · have hparse : parsePipeline "title".toList = .ok { initial := .binding (.ofName "title"), stages := [] } := rfl
    rw [(inUse_titled rfl).run_evaluate hparse]
    rfl
  · rw [Environment.run_lookup, Environment.outcome_firstValue_eq_none_iff]
    refine ⟨by decide, ?_⟩
    rw [Environment.findFilterOfKind_ofList [] _ rfl (Site.filters_build _ _ _ _)]
    rfl

end PageTemplates
