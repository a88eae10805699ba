import PageTemplates.Proofs.Freshness.Renders
import PageTemplates.Proofs.Pages.Loading
import PageTemplates.Proofs.Pages.RequestOrder

/-!
# Pages that are known

A page that was asked for once stays known with its format, and asking for it again gives what the files say of it. Main
statements: every lookup keeps this knowledge (`Knows.keeps_getPage`), a name that stands for the page is found
(`Knows.partialContent`), and preparing a render of the page gives it (`Knows.prepare`).
-/

namespace PageTemplates

open PageRules Load

/-- A site over some files that can be asked for pages, and knows a page with a format. -/
structure PageRules.Knows (rules : PageRules) (files : FileStore) (id : PageId) (f : PageFormat) (e : Engine) : Prop where
  ready : rules.Ready e
  files : e.files = files
  page : ∃ p, Table.get? e.pages id = some p ∧ p.format = f

/-- The directory that a partial is looked for in first, if there is one beside the root. -/
def Environment.partialDirectory? (page name : String) : Option String :=
  if name.toList.head? = some '/' then none else (Path.parent? page).filter (!·.isEmpty)

/-- A name in a page stands for a page: for a path in the directory of the first one, or, if no file is there, from the root. -/
def PageRules.Names (rules : PageRules) (files : FileStore) (page name : String) (id : PageId) : Prop :=
  match Environment.partialDirectory? page name with
  | none => rules.pathId name = id
  | some directory => rules.pathId (Path.join directory name) = id ∨
      rules.fileFormat? files (Path.join directory name) = .ok none ∧ rules.pathId name = id

/-- A render in the layout of its page picks the layout that the page was read with, and a render in none picks none. -/
theorem Site.exists_selectLayout (site : Site) {plan : RenderPlan} (hlayout : plan.layout = .ofPage ∨ plan.layout = .none)
    (c : PageContent) :
    ∃ found, site.selectLayout plan c = pure found ∧ (found = none ∨ plan.layout = .ofPage ∧ found = c.layout) := by
  unfold Site.selectLayout
  rcases hlayout with hlayout | hlayout
  · exact ⟨c.layout, by rw [hlayout], Or.inr ⟨hlayout, rfl⟩⟩
  · exact ⟨none, by rw [hlayout], Or.inl rfl⟩

namespace PageRules.Knows

variable {rules : PageRules} {files : FileStore} {id : PageId} {f : PageFormat} {e e' : Engine}

theorem kind (h : rules.Knows files id f e) : id.kind ≠ .oneTime := by
  obtain ⟨p, hp, -⟩ := h.page
  exact (h.ready.consistent id p hp).kind

theorem grows (h : rules.Knows files id f e) (hready : rules.Ready e') (hgrows : rules.Grows e e') :
    rules.Knows files id f e' := by
  obtain ⟨p, hp, hf⟩ := h.page
  obtain ⟨p', hp', hf'⟩ := hgrows.kept id p hp
  exact ⟨hready, hgrows.files.trans h.files, p', hp', hf'.trans hf⟩

/-- What is remembered beside the pages makes no difference. -/
theorem of_pages (h : rules.Knows files id f e) (hinit : e'.initialized = e.initialized) (hpages : e'.pages = e.pages)
    (hfiles : e'.files = e.files) : rules.Knows files id f e' := by
  refine ⟨⟨hinit.trans h.ready.initialized, ?_, ?_⟩, hfiles.trans h.files, hpages ▸ h.page⟩
  · rw [hpages, hfiles]
    exact h.ready.consistent
  · rw [hpages, hfiles]
    exact h.ready.current

/-- **Lookups.** A page that is known stays known whatever is asked for. -/
theorem keeps_getPage (path : String) : Keeps (rules.Knows files id f) (rules.getPage path) := by
  intro e h
  obtain ⟨e', hrun, hopened⟩ := answers_getPage h.ready path
  rw [hrun]
  exact h.grows hopened.ready hopened.toGrows

/-- A page is known once it was asked for, even if it could not be loaded. -/
theorem of_getPage (h : rules.Ready e) {path : String} (hf : rules.formatOf? e path = .ok (some f)) :
    rules.Knows e.files (rules.pathId path) f (runOn (rules.getPage path) e).2 := by
  obtain ⟨e', hrun, hopened⟩ := answers_getPage h path
  rw [hrun]
  exact ⟨hopened.ready, hopened.files, hopened.format f hf⟩

theorem formatOf? (h : rules.Knows files id f e) {path : String} (hpath : rules.pathId path = id) :
    rules.formatOf? e path = .ok (some f) := by
  obtain ⟨p, hp, rfl⟩ := h.page
  exact formatOf?_eq_of_get? (hpath ▸ hp)

/-- Asking for the page gives it, with the content that the files give it. -/
theorem getPage (h : rules.Knows files id f e) {c : PageContent} (hc : rules.initAnswer files id f = .ok c) {path : String}
    (hpath : rules.pathId path = id) : ∃ e', runOn (rules.getPage path) e = (.ok (some id), e') ∧ Holds e' id f c := by
  obtain ⟨e', hrun, hopened⟩ := answers_getPage h.ready path
  have hformat := h.formatOf? hpath
  rw [hformat, hpath, h.files] at hrun
  have hanswer : rules.pageAnswer files id (.ok (some f)) = .ok (some id) := by
    change (rules.initAnswer files id f).map _ = _
    rw [hc]
    rfl
  rw [hanswer] at hrun
  exact ⟨e', hrun, hpath ▸ hopened.content f c hformat (by rw [hpath, h.files, hc])⟩

/-- Asking for a path without a file changes nothing. -/
theorem getPage_missing (h : rules.Knows files id f e) {path : String} (hnone : rules.fileFormat? files path = .ok none) :
    runOn (rules.getPage path) e = (.ok none, e) := by
  obtain ⟨e', hrun, hopened⟩ := answers_getPage h.ready path
  have hformat : rules.formatOf? e path = .ok none := by
    cases hp : Table.get? e.pages (rules.pathId path) with
    | none => simp only [PageRules.formatOf?, hp, h.files, hnone]
    | some p =>
      have hf := h.ready.consistent _ p hp
      obtain ⟨info, hi, -⟩ := hf.file
      have hmissing := fileFormat?_eq_none_iff.1 hnone p.format hf.member
      rw [hf.path, h.files, hmissing] at hi
      cases hi
  rw [hformat] at hrun
  obtain rfl := hopened.missing fun f => by simp [hformat]
  exact hrun

/-- The page is loaded once it was asked for. -/
theorem requirePage (h : rules.Knows files id f e) {c : PageContent} (hc : rules.initAnswer files id f = .ok c) {path : String}
    (hpath : rules.pathId path = id) : ∃ e', runOn (rules.requirePage path) e = (.ok id, e') ∧ Holds e' id f c := by
  obtain ⟨e', hrun, hheld⟩ := h.getPage hc hpath
  exact ⟨e', runOn_bind_ok hrun, hheld⟩

/-- **Partials.** A name that stands for the page is found. -/
theorem partialContent {env : Environment} (h : env.site.Knows files id f e) {c : PageContent}
    (hc : env.site.initAnswer files id f = .ok c) {page name : String} (hnames : env.site.Names files page name id) :
    ∃ e', runOn (env.partialContent page name) e = (.ok { format := f, content := c }, e') := by
  have hpartial : ∃ e', runOn (env.partialPage page name) e = (.ok id, e') ∧ Holds e' id f c := by
    unfold Names at hnames
    unfold Environment.partialPage
    change ∃ e', runOn (match Environment.partialDirectory? page name with
      | none => _
      | some directory => _) e = _ ∧ _
    cases hdirectory : Environment.partialDirectory? page name with
    | none =>
      rw [hdirectory] at hnames
      exact h.requirePage hc hnames
    | some directory =>
      rw [hdirectory] at hnames
      rcases hnames with hpath | ⟨hnone, hpath⟩
      · obtain ⟨e', hrun, hheld⟩ := h.getPage hc hpath
        exact ⟨e', runOn_bind_ok hrun, hheld⟩
      · obtain ⟨e', hrun, hheld⟩ := h.requirePage hc hpath
        exact ⟨e', (runOn_bind_ok (h.getPage_missing hnone)).trans hrun, hheld⟩
  obtain ⟨e', hrun, hheld⟩ := hpartial
  exact ⟨e', (runOn_bind_ok hrun).trans (run_loadedPage_of_holds h.kind hheld)⟩

/-- Loading the layout of the page beside a page keeps what is known, whether the layout can be loaded or not. -/
theorem loadLayout (h : rules.Knows files id f e) {c : PageContent} (hheld : Holds e id f c) {l : PageId}
    (hl : c.layout = some l) (page : LoadedPage) :
    ∃ r e', runOn (do
        discard (rules.refresh l)
        let layout ← Site.loadedPage l
        return (page, some layout)) e = (r, e') ∧
      rules.Knows files id f e' ∧ ∀ page' layout, r = .ok (page', layout) → page' = page := by
  obtain ⟨p, hp, -, hpc⟩ := hheld
  obtain ⟨hkind, hknown⟩ := (h.ready.consistent id p hp).layout c l hpc hl
  obtain ⟨e₁, hlayout⟩ := answers_refresh_layout h.ready hkind hknown
  have h₁ := h.grows hlayout.ready hlayout.later.toGrows
  cases hanswer : rules.layoutAnswer e.files l with
  | error error =>
    rw [hanswer] at hlayout
    exact ⟨_, e₁, runOn_bind_error hlayout.run, h₁, nofun⟩
  | ok _ =>
    rw [hanswer] at hlayout
    cases hloaded : runOn (Site.loadedPage l) e₁ with
    | mk r e₂ =>
      have h₂ := of_runOn (Keeps.loadedPage l) h₁ hloaded
      cases r with
      | error error => exact ⟨_, e₂, (runOn_bind_ok hlayout.run).trans (runOn_bind_error hloaded), h₂, nofun⟩
      | ok layout =>
        exact ⟨_, e₂, (runOn_bind_ok hlayout.run).trans (runOn_bind_ok hloaded), h₂, fun _ _ hr => by cases hr; rfl⟩

/-- **Preparing.** Preparing a render of the page gives it, with its own layout or without one, unless the layout fails. -/
theorem prepare {site : Site} (h : site.Knows files id f e) {c : PageContent} (hc : site.initAnswer files id f = .ok c)
    {plan : RenderPlan} (hpage : plan.page = id) (hlayout : plan.layout = .ofPage ∨ plan.layout = .none) :
    ∃ r e', runOn (site.prepare plan) e = (r, e') ∧ site.Knows files id f e' ∧
      (∀ page layout, r = .ok (page, layout) → page = { format := f, content := c }) ∧
      (plan.layout = .none ∨ c.layout = none → r = .ok ({ format := f, content := c }, none)) := by
  obtain ⟨p, hp, rfl⟩ := h.page
  obtain ⟨e₁, ha, hheld⟩ := answers_initPage h.ready hp
  rw [h.files, hc] at ha hheld
  have h₁ := h.grows ha.ready ha.later.toGrows
  have hheldPage := hheld c rfl
  obtain ⟨found, hselect, hfound⟩ := site.exists_selectLayout hlayout c
  unfold Site.prepare
  rw [hpage, runOn_bind_ok (run_close h.ready.initialized), runOn_bind_ok ha.run,
    runOn_bind_ok (run_loadedPage_of_holds h.kind hheldPage), hselect, pure_bind]
  cases found with
  | none => exact ⟨_, e₁, rfl, h₁, fun _ _ hr => by cases hr; rfl, fun _ => rfl⟩
  | some l =>
    obtain ⟨hofPage, hl⟩ := hfound.resolve_left (by simp)
    obtain ⟨r, e₂, hrun, h₂, hpage⟩ := h₁.loadLayout hheldPage hl.symm { format := p.format, content := c }
    refine ⟨r, e₂, hrun, h₂, hpage, fun hnone => ?_⟩
    rw [hofPage, ← hl] at hnone
    simp at hnone

end PageRules.Knows

end PageTemplates
