import PageTemplates.Proofs.Freshness.Coherence
import PageTemplates.Proofs.Rendering.Writing

/-!
# Renders of coherent sites

A render reads pages, evaluates their expressions, and writes what comes of them. None of these depends on what a coherent site
remembers. Main statement: rendering a page is stable for coherent sites, with the built-in filters (`stable_renderPage`).
-/

namespace PageTemplates

open PageRules Load

variable {rules : PageRules} {m : MemoryFiles} {known : List PageId} {e : Engine}

/-! ## Preparing -/

/-- What comes of preparing a page of a format for a render: its content, and that of its layout. -/
def PageRules.prepareAnswer (rules : PageRules) (files : FileStore) (id : PageId) (f : PageFormat) :
    Except TemplateError (LoadedPage × Option LoadedPage) :=
  match rules.initAnswer files id f with
  | .error e => .error e
  | .ok c =>
    match c.layout with
    | none => .ok ({ format := f, content := c }, none)
    | some l =>
      match files.probe? l.key rules.formats with
      | .ok (some g) =>
        (rules.read? files l g).map fun c' => ({ format := f, content := c }, some { format := g, content := c' })
      | _ => .error (.notInitialized .page)

theorem run_close (h : e.initialized = true) : runOn Site.close e = (.ok (), e) := by
  obtain ⟨initialized⟩ := e
  obtain rfl : initialized = true := h
  rfl

/-- A layout that is registered is loaded as its file reads. -/
theorem Coherent.layout (h : Coherent rules m known e) {l : PageId} (hk : l.kind = .layout)
    (hl : (Table.get? e.pages l).isSome = true) :
    ∃ g e', (FileStore.memory m).probe? l.key rules.formats = .ok (some g) ∧
      runOn (do
        discard (rules.refresh l)
        Site.loadedPage l) e =
        ((rules.read? (.memory m) l g).map fun c => { format := g, content := c }, e') ∧
      Coherent rules m known e' := by
  obtain ⟨q, hq⟩ := Option.isSome_iff_exists.1 hl
  have hprobe := (h.ready.consistent l q hq).probed hk
  obtain ⟨e', ha, hheld⟩ := answers_refresh h.ready hq
  rw [h.files] at hprobe ha hheld
  have hdiscard := ha.discard
  refine ⟨q.format, e', hprobe, ?_, h.grows ha.ready ha.later.toGrows⟩
  cases hr : rules.read? (.memory m) l q.format with
  | error error =>
    rw [hr] at hdiscard
    exact runOn_bind_error hdiscard.run
  | ok c =>
    rw [hr] at hdiscard
    exact (runOn_bind_ok hdiscard.run).trans (run_loadedPage_of_holds (by simp [hk]) (hheld c hr))

/-- Preparing a page that is known answers what the files say, whatever else is remembered. -/
theorem Coherent.prepare {site : Site} (h : Coherent site.toPageRules m known e) {plan : RenderPlan} {p : Page}
    (hlayout : plan.layout = .ofPage) (hp : Table.get? e.pages plan.page = some p) :
    ∃ e', runOn (site.prepare plan) e = (site.prepareAnswer (.memory m) plan.page p.format, e') ∧
      Coherent site.toPageRules m known e' := by
  have hk := (h.ready.consistent _ p hp).kind
  obtain ⟨e₁, ha, hheld⟩ := answers_initPage h.ready hp
  rw [h.files] at ha hheld
  have h₁ := h.grows ha.ready ha.later.toGrows
  unfold Site.prepare
  rw [runOn_bind_ok (run_close h.ready.initialized)]
  cases hc : site.initAnswer (.memory m) plan.page p.format with
  | error error =>
    have hanswer : site.prepareAnswer (.memory m) plan.page p.format = .error error := by simp only [prepareAnswer, hc]
    rw [hc] at ha
    rw [hanswer]
    exact ⟨e₁, runOn_bind_error ha.run, h₁⟩
  | ok c =>
    rw [hc] at ha
    have hheldPage := hheld c hc
    rw [runOn_bind_ok ha.run, runOn_bind_ok (run_loadedPage_of_holds hk hheldPage)]
    have hselect : site.selectLayout plan c = Pure.pure c.layout := by
      unfold Site.selectLayout
      rw [hlayout]
    rw [hselect]
    cases hl : c.layout with
    | none =>
      have hanswer : site.prepareAnswer (.memory m) plan.page p.format = .ok ({ format := p.format, content := c }, none) := by
        simp only [prepareAnswer, hc, hl]
      rw [hanswer]
      exact ⟨e₁, rfl, h₁⟩
    | some l =>
      obtain ⟨q, hq, hqf, hqc⟩ := hheldPage
      obtain ⟨hlk, hlknown⟩ := (h₁.ready.consistent plan.page q hq).layout c l hqc hl
      obtain ⟨g, e', hprobe, hrun, h'⟩ := h₁.layout hlk hlknown
      have hanswer : site.prepareAnswer (.memory m) plan.page p.format =
          (site.read? (.memory m) l g).map fun c' =>
            ({ format := p.format, content := c }, some { format := g, content := c' }) := by
        simp only [prepareAnswer, hc, hl, hprobe]
      rw [hanswer]
      refine ⟨e', ?_, h'⟩
      rw [pure_bind]
      simp only
      rw [← bind_assoc]
      cases hr : site.read? (.memory m) l g with
      | error error =>
        rw [hr] at hrun
        exact runOn_bind_error hrun
      | ok c' =>
        rw [hr] at hrun
        exact runOn_bind_ok hrun

/-- Preparing a page that is known is stable. -/
theorem stable_prepare {site : Site} (hm : OneFormat site.toPageRules m) {plan : RenderPlan} {path : String}
    (hlayout : plan.layout = .ofPage) (hpage : plan.page = site.pathId path) (hknown : plan.page ∈ known) :
    Stable (Engine.Both (Coherent site.toPageRules m known)) (site.prepare plan) := by
  refine stable_of_run fun e e' h h' => ?_
  obtain ⟨p, hp⟩ := Option.isSome_iff_exists.1 (h.known _ hknown)
  obtain ⟨p', hp'⟩ := Option.isSome_iff_exists.1 (h'.known _ hknown)
  obtain ⟨e₁, hrun, h₁⟩ := h.prepare hlayout hp
  obtain ⟨e₁', hrun', h₁'⟩ := h'.prepare hlayout hp'
  rw [hpage] at hp hp'
  rw [← h.format_eq h' hm hp hp'] at hrun'
  exact ⟨_, e₁, e₁', hrun, hrun', h₁, h₁'⟩

/-! ## Rendering -/

/-- The formats and filters of a site are the built-in ones, and paths are compiled in the usual way. -/
structure Site.Usual (site : Site) : Prop where
  formats : site.formats = Site.builtInFormats
  filters : site.filters = FilterRegistry.ofList BuiltIn.filters
  compiler : site.compiler = Binder.compile

theorem Site.Usual.isPlain {site : Site} (h : site.Usual) : ∀ f ∈ site.formats, Path.IsPlain f.extension.toList := by
  intro f hf
  rw [h.formats] at hf
  rcases List.mem_cons.1 hf with rfl | hf
  · exact ⟨by decide, by simp [PageFormat.html, Path.isSeparator]⟩
  · obtain rfl := List.mem_singleton.1 hf
    exact ⟨by decide, by simp [PageFormat.markdown, PageFormat.basic, Path.isSeparator]⟩

/-- The environment of a render without filters of its own is plain. -/
theorem Site.Usual.plain {site : Site} (h : site.Usual) {plan : RenderPlan} (hplan : plan.filters = [])
    (known : List PageId) : (plan.environment site).Plain (Engine.Both (Coherent site.toPageRules m known)) := by
  have hcaching : Caching site.compiler (Coherent site.toPageRules m known) := by
    rw [h.compiler]
    exact Coherent.caching site.toPageRules m known
  refine ⟨hcaching.both, fun name arity kind d hd => ?_⟩
  have hfind : site.filters.find? kind name arity = some d := by
    unfold Environment.findFilterOfKind RenderPlan.environment at hd
    rw [hplan] at hd
    exact hd
  have hmem : d ∈ site.filters.defs := List.mem_of_find?_eq_some hfind
  rw [h.filters] at hmem
  exact BuiltIn.stable_body (Coherent.caching site.toPageRules m known).both d (mem_of_mem_ofList hmem)

/-- The text of a render of a known page is the same for all coherent sites. -/
theorem stable_renderText {site : Site} (h : site.Usual) (hm : OneFormat site.toPageRules m) (plan : RenderPlan)
    {path : String} (hplan : plan.filters = []) (hlayout : plan.layout = .ofPage) (hpage : plan.page = site.pathId path)
    (hknown : plan.page ∈ known) (fuel : Nat) :
    Emit.Stable (Engine.Both (Coherent site.toPageRules m known)) (site.renderText plan fuel) := by
  have hwrite := stable_writeTo (h.plain hplan known) (stable_partialContent (plan.environment site) hm)
    (stable_prepare hm hlayout hpage hknown) fuel
  refine (Emit.Stable.capture hwrite).bind fun captured => ?_
  obtain ⟨_, bytes⟩ := captured
  cases hdecode : Utf8.decode? bytes with
  | some text =>
    simp only [hdecode]
    exact Emit.Stable.pure text
  | none =>
    simp only [hdecode]
    -- The error names the file of the page, whose format the files decide.
    rintro e e' ⟨he, he'⟩
    obtain ⟨p, hp⟩ := Option.isSome_iff_exists.1 (he.known _ hknown)
    obtain ⟨p', hp'⟩ := Option.isSome_iff_exists.1 (he'.known _ hknown)
    have hf := he.ready.consistent _ p hp
    have hf' := he'.ready.consistent _ p' hp'
    have hpath : p.path = p'.path := by
      rw [hf.path, hf'.path, he.format_eq he' hm (hpage ▸ hp) (hpage ▸ hp')]
    rw [Emit.Stable.run_bind_ok (x := Emit.ofLoad get) (s := e) (a := e) rfl,
      Emit.Stable.run_bind_ok (x := Emit.ofLoad get) (s := e') (a := e') rfl]
    have hget : e.page? plan.page = some p := (page?_eq hf.kind).trans hp
    have hget' : e'.page? plan.page = some p' := (page?_eq hf'.kind).trans hp'
    rw [hget, hget']
    simp only [hpath]
    exact ⟨rfl, rfl, he, he'⟩

/-- What comes of asking for a page that must exist. -/
def PageRules.requireAnswer (rules : PageRules) (files : FileStore) (path : String) : Except TemplateError PageId :=
  match rules.pageAnswer files (rules.pathId path) (rules.fileFormat? files path) with
  | .error e => .error e
  | .ok none => .error (.pageNotFound path)
  | .ok (some id) => .ok id

/-- After a page was asked for it is known, and whether there is one does not depend on what is remembered. -/
theorem Coherent.requirePage (h : Coherent rules m known e) (hm : OneFormat rules m) (path : String) :
    ∃ e', runOn (rules.requirePage path) e = (rules.requireAnswer (.memory m) path, e') ∧ Coherent rules m known e' ∧
      ∀ id, rules.requireAnswer (.memory m) path = .ok id → id = rules.pathId path ∧ Coherent rules m [id] e' := by
  obtain ⟨e', hrun, h', hheld⟩ := h.getPage hm path
  refine ⟨e', ?_, h', ?_⟩
  · unfold PageRules.requirePage requireAnswer
    cases hanswer : rules.pageAnswer (.memory m) (rules.pathId path) (rules.fileFormat? (.memory m) path) with
    | error error =>
      rw [hanswer] at hrun
      exact runOn_bind_error hrun
    | ok found =>
      rw [hanswer] at hrun
      rw [runOn_bind_ok hrun]
      cases found <;> rfl
  · intro id hid
    unfold requireAnswer at hid
    cases hf : rules.fileFormat? (.memory m) path with
    | error error => simp [hf, pageAnswer] at hid
    | ok found =>
      cases found with
      | none => simp [hf, pageAnswer] at hid
      | some f =>
        cases hc : rules.initAnswer (.memory m) (rules.pathId path) f with
        | error error => simp [hf, pageAnswer, hc, Except.map] at hid
        | ok c =>
          obtain rfl : rules.pathId path = id := by simpa [hf, pageAnswer, hc, Except.map] using hid
          obtain ⟨p, hp, -⟩ := hheld f c hf hc
          refine ⟨rfl, h'.files, h'.ready, h'.binder, h'.text, fun id hid => ?_⟩
          obtain rfl := List.mem_singleton.1 hid
          rw [hp]
          rfl

theorem run_ofLoad_engine {α : Type} {x : Load α} {r : Except TemplateError α} {e e' : Engine} (h : runOn x e = (r, e')) :
    (Emit.ofLoad x).run e = { output := [], outcome := r.mapError .error, state := e' } := by
  change ({ output := [], outcome := (runOn x e).1.mapError .error, state := (runOn x e).2 } : Emission _ _) = _
  rw [h]

/-- **Rendering.** What a coherent site remembers makes no difference to the text of a page, nor to the error in its place. -/
theorem stable_renderPage {site : Site} (h : site.Usual) (hm : OneFormat site.toPageRules m) (fuel : Nat) (path : String)
    (args : Table Value) :
    Emit.Stable (Engine.Both (Coherent site.toPageRules m [])) (site.renderPage fuel path args) := by
  rintro e e' ⟨he, he'⟩
  obtain ⟨e₁, hrun, h₁, hknown⟩ := he.requirePage hm path
  obtain ⟨e₁', hrun', h₁', hknown'⟩ := he'.requirePage hm path
  have hload := run_ofLoad_engine hrun
  have hload' := run_ofLoad_engine hrun'
  unfold Site.renderPage
  cases hanswer : site.requireAnswer (.memory m) path with
  | error error =>
    rw [hanswer] at hload hload'
    rw [Emit.Stable.run_bind_error (congrArg Emission.outcome hload),
      Emit.Stable.run_bind_error (congrArg Emission.outcome hload'), hload, hload']
    exact ⟨rfl, rfl, h₁, h₁'⟩
  | ok id =>
    rw [hanswer] at hload hload'
    obtain ⟨hid, hc⟩ := hknown id hanswer
    obtain ⟨-, hc'⟩ := hknown' id hanswer
    have htext := stable_renderText h hm { page := id, args } rfl rfl hid List.mem_cons_self fuel e₁ e₁' ⟨hc, hc'⟩
    rw [Emit.Stable.run_bind_ok (congrArg Emission.outcome hload),
      Emit.Stable.run_bind_ok (congrArg Emission.outcome hload'), hload, hload']
    exact ⟨congrArg ([] ++ ·) htext.output, htext.outcome, htext.state.1.mono (by simp), htext.state.2.mono (by simp)⟩

end PageTemplates
