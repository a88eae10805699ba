import PageTemplates.Proofs.Evaluation.Caches
import PageTemplates.Proofs.Pages.Composed

/-!
# What loading pages keeps

Loading changes what a site remembers in a few ways only: pages are registered with a format of the site, checks are noted, and
contents are read from files. So a property of states that these changes keep is kept by every lookup, whatever the state and
however the lookup ends. Main statements: this holds of asking for a path (`KeptByLoading.getPage`), of the pages of partials
(`KeptByLoading.partialContent`), and of preparing a render (`KeptByLoading.prepare`).
-/

namespace PageTemplates

open PageRules

/-! ## Actions that keep a property -/

/-- A state with a property, and the same state. -/
def Engine.Same (I : Engine → Prop) (e e' : Engine) : Prop :=
  e' = e ∧ I e

theorem sameIndex_same (I : Engine → Prop) : SameIndex (Engine.Same I) := by
  refine ⟨?_, ?_, ?_⟩
  · rintro e e' ⟨rfl, -⟩
    rfl
  · rintro e e' ⟨rfl, -⟩
    rfl
  · rintro e e' id ⟨rfl, -⟩
    rfl

namespace Load

variable {α β : Type} {I : Engine → Prop}

/-- An action keeps a property of states, however it ends. -/
def Keeps (I : Engine → Prop) (x : Load α) : Prop :=
  ∀ e, I e → I (runOn x e).2

namespace Keeps

theorem pure (a : α) : Keeps I (Pure.pure a : Load α) :=
  fun _ h => h

theorem throw (error : TemplateError) : Keeps I (MonadExcept.throw error : Load α) :=
  fun _ h => h

theorem modify {f : Engine → Engine} (h : ∀ e, I e → I (f e)) : Keeps I (modifyThe Engine f : Load Unit) :=
  h

theorem bind {x : Load α} {f : α → Load β} (hx : Keeps I x) (hf : ∀ a, Keeps I (f a)) : Keeps I (x >>= f) := by
  intro e he
  have hstate := hx e he
  cases hr : runOn x e with
  | mk r e' =>
    rw [hr] at hstate
    cases r with
    | error error =>
      rw [runOn_bind_error hr]
      exact hstate
    | ok a =>
      rw [runOn_bind_ok hr]
      exact hf a e' hstate

theorem discard {x : Load α} (hx : Keeps I x) : Keeps I (Functor.discard x) := by
  intro e he
  have hstate := hx e he
  cases hr : runOn x e with
  | mk r e' =>
    rw [hr] at hstate
    rw [runOn_discard hr]
    exact hstate

/-- What comes after a look at the state may count on the property. -/
theorem get_bind {f : Engine → Load β} (hf : ∀ e, I e → Keeps I (f e)) : Keeps I (get >>= f) := by
  intro e he
  rw [runOn_get_bind]
  exact hf e he e he

theorem ofFile_bind {r : Except FileError α} {f : α → Load β} (hf : ∀ a, r = .ok a → Keeps I (f a)) :
    Keeps I (ofFile r >>= f) := by
  cases r with
  | error error => exact throw _
  | ok a => exact hf a rfl

/-- Keeping a property is being stable for each state with it and the same state. -/
theorem iff_stable {x : Load α} : Keeps I x ↔ Stable (Engine.Same I) x := by
  refine ⟨fun h => ?_, fun h e he => (h e e ⟨rfl, he⟩).2.2⟩
  rintro e e' ⟨rfl, he⟩
  exact ⟨rfl, rfl, h e' he⟩

theorem requireInitialized : Keeps I Load.requireInitialized :=
  iff_stable.2 (sameIndex_same I).stable_requireInitialized

theorem loadedPage (id : PageId) : Keeps I (Site.loadedPage id) :=
  iff_stable.2 ((sameIndex_same I).stable_loadedPage id)

/-! ## What made-up lookups keep -/

/-- Asking for a page that must exist keeps what asking for pages keeps. -/
theorem requirePage {rules : PageRules} (hget : ∀ path, Keeps I (rules.getPage path)) (path : String) :
    Keeps I (rules.requirePage path) :=
  iff_stable.2 (stable_requirePage (fun path => iff_stable.1 (hget path)) path)

theorem partialPage {env : Environment} (hget : ∀ path, Keeps I (env.site.getPage path)) (page name : String) :
    Keeps I (env.partialPage page name) :=
  iff_stable.2 (stable_partialPage (fun path => iff_stable.1 (hget path)) page name)

/-- Finding the page of a partial keeps what asking for pages keeps. -/
theorem partialContent {env : Environment} (hget : ∀ path, Keeps I (env.site.getPage path)) (page name : String) :
    Keeps I (env.partialContent page name) :=
  iff_stable.2 ((sameIndex_same I).stable_partialPages (fun path => iff_stable.1 (hget path)) page name)

/-- Loading a page and its layout keeps what refreshing pages keeps. -/
theorem initPage {rules : PageRules} (hrefresh : ∀ id, Keeps I (rules.refresh id)) (id : PageId) :
    Keeps I (rules.initPage id) :=
  iff_stable.2 (stable_initPage (fun id => iff_stable.1 (hrefresh id)) id)

/-- Making a one-time page keeps what refreshing pages keeps, if registering the page with its file and removing the file do. -/
theorem oneTimePage {rules : PageRules} (hrefresh : ∀ id, Keeps I (rules.refresh id))
    (hwrite : ∀ e key path, ∀ f ∈ rules.formats, ∀ number bytes, I e →
      I { (e.putPage { id := { kind := .oneTime, key }, path, format := f }) with
            nextTempId := number, tempFiles := e.tempFiles.write path bytes e.clock })
    (hremove : ∀ e path, I e → I { e with tempFiles := e.tempFiles.remove path }) (contents : String)
    (extension : Option String) : Keeps I (rules.oneTimePage contents extension) := by
  refine iff_stable.2 ((sameIndex_same I).stable_oneTimePage (fun id => iff_stable.1 (hrefresh id)) ?_ ?_ contents extension)
  · rintro e e' key path f hf number bytes ⟨rfl, he⟩
    exact ⟨rfl, hwrite e' key path f hf number bytes he⟩
  · rintro e e' path ⟨rfl, he⟩
    exact ⟨rfl, hremove e' path he⟩

section

variable {site : Site} (hrefresh : ∀ id, Keeps I (site.refresh id))
  (hfind : ∀ pageKey name, Keeps I (site.findLayout pageKey name))
include hrefresh hfind

theorem selectLayout (plan : RenderPlan) (content : PageContent) : Keeps I (site.selectLayout plan content) :=
  iff_stable.2 ((sameIndex_same I).stable_selectLayout (fun id => iff_stable.1 (hrefresh id))
    (fun pageKey name => iff_stable.1 (hfind pageKey name)) plan content)

/-- Preparing a render keeps what refreshing pages and looking for layouts keep. -/
theorem prepare (hclose : ∀ e, I e → I { e with initialized := true }) (plan : RenderPlan) : Keeps I (site.prepare plan) := by
  refine iff_stable.2 ((sameIndex_same I).stable_prepare (fun id => iff_stable.1 (hrefresh id))
    (fun pageKey name => iff_stable.1 (hfind pageKey name)) ?_ plan)
  rintro e e' ⟨rfl, he⟩
  exact ⟨rfl, hclose e' he⟩

end

end Keeps

theorem of_runOn {x : Load α} (hx : Keeps I x) {e e' : Engine} {r : Except TemplateError α} (he : I e)
    (hrun : runOn x e = (r, e')) : I e' := by
  have hstate := hx e he
  rw [hrun] at hstate
  exact hstate

/-- An action that gave a value did so in both its parts. -/
theorem exists_of_runOn_bind {x : Load α} {f : α → Load β} {e e' : Engine} {b : β} (h : runOn (x >>= f) e = (.ok b, e')) :
    ∃ a e₁, runOn x e = (.ok a, e₁) ∧ runOn (f a) e₁ = (.ok b, e') := by
  cases hr : runOn x e with
  | mk r e₁ =>
    cases r with
    | error error =>
      rw [runOn_bind_error hr] at h
      cases h
    | ok a =>
      rw [runOn_bind_ok hr] at h
      exact ⟨a, e₁, rfl, h⟩

end Load

open Load

/-! ## Lookups -/

/-- A property of states, with one that all their pages have, which is kept when a page is registered, when its check is
noted, and when its content is read from its file. -/
structure PageRules.KeptByLoading (rules : PageRules) (I : Engine → Prop) (Q : Page → Prop) : Prop where
  page : ∀ e id p, I e → e.page? id = some p → Q p
  put : ∀ e p, I e → Q p → I (e.putPage p)
  registered : ∀ id path, ∀ f ∈ rules.formats, Q { id, path, format := f }
  checked : ∀ p time, Q p → Q { p with lastChecked := some time }
  loaded : ∀ e p q c bytes source, I e → Q p → Q q → (e.filesFor p.id.kind).read p.path = .ok bytes →
    Utf8.decode? bytes = some source → c.fragments = (p.format.parseSource source).2 → Q { q with content := some c }

namespace PageRules.KeptByLoading

variable {rules : PageRules} {I : Engine → Prop} {Q : Page → Prop}

/-- Two properties of states are kept together. -/
theorem and (hI : rules.KeptByLoading I fun _ => True) {J : Engine → Prop} (hJ : rules.KeptByLoading J Q) :
    rules.KeptByLoading (fun e => I e ∧ J e) Q where
  page e id p he hp := hJ.page e id p he.2 hp
  put e p he hp := ⟨hI.put e p he.1 trivial, hJ.put e p he.2 hp⟩
  registered := hJ.registered
  checked := hJ.checked
  loaded e p q c bytes source he := hJ.loaded e p q c bytes source he.2

/-- What comes after probing may count on a format that was probed. -/
theorem probe_bind {α : Type} {key : String} {formats : List PageFormat} {f : Option PageFormat → Load α}
    (hnone : Keeps I (f none)) (hsome : ∀ g ∈ formats, Keeps I (f (some g))) :
    Keeps I (PageRules.probe key formats >>= f) := by
  intro e he
  cases hfound : e.files.probe? key formats with
  | error error =>
    rw [runOn_probe_bind_error hfound]
    exact he
  | ok found =>
    rw [runOn_probe_bind_ok hfound]
    cases found with
    | none => exact hnone e he
    | some g => exact hsome g (probe?_eq_some hfound).1 e he

variable (h : rules.KeptByLoading I Q)
include h

theorem register (kind : PageKind) (key : String) {f : PageFormat} (hf : f ∈ rules.formats) :
    Keeps I (PageRules.register kind key f) := by
  refine Keeps.bind (Keeps.modify fun e he => ?_) fun _ => Keeps.pure _
  exact h.put e _ he (h.registered _ _ f hf)

theorem findLayoutIn (pageKey name : String) (directories : List String) :
    Keeps I (rules.findLayoutIn pageKey name directories) := by
  induction directories with
  | nil => exact Keeps.pure _
  | cons directory directories ih =>
    rw [PageRules.findLayoutIn]
    split
    · exact ih
    · refine Keeps.get_bind fun e _ => ?_
      split
      · exact Keeps.pure _
      · exact probe_bind ih fun f hf => (h.register .layout _ hf).bind fun _ => Keeps.pure _

theorem findLayout (pageKey name : String) : Keeps I (rules.findLayout pageKey name) :=
  Keeps.requireInitialized.bind fun _ => h.findLayoutIn pageKey _ _

theorem dueForCheck {p : Page} (hp : Q p) : Keeps I (rules.dueForCheck p) := by
  have hnote : ∀ time, Keeps I (modify (·.putPage { p with lastChecked := some time }) : Load Unit) := fun time =>
    Keeps.modify fun e he => h.put e _ he (h.checked p time hp)
  unfold PageRules.dueForCheck
  split
  · exact Keeps.pure _
  · split
    · exact Keeps.pure _
    · refine Keeps.get_bind fun e _ => ?_
      split
      · dsimp only
        split
        · exact Keeps.pure _
        · exact (hnote _).bind fun _ => Keeps.pure _
      · exact (hnote _).bind fun _ => Keeps.pure _

theorem load {p : Page} (hp : Q p) : Keeps I (rules.load p) := by
  unfold PageRules.load
  refine Keeps.get_bind fun e he => Keeps.ofFile_bind fun found _ => ?_
  cases found with
  | none => exact Keeps.throw _
  | some info =>
    simp only
    split
    · exact Keeps.pure _
    · refine Keeps.ofFile_bind fun bytes hbytes => ?_
      cases hsource : Utf8.decode? bytes with
      | none => exact Keeps.throw _
      | some source =>
        -- The content is put in the place of the page as it is then, which looking for the layout may have changed.
        have hput : ∀ c : PageContent, c.fragments = (p.format.parseSource source).2 →
            Keeps I (modify fun e' => e'.putPage { (e'.page? p.id).getD p with content := some c } : Load Unit) := by
          intro c hc
          refine Keeps.modify fun e' he' => h.put e' _ he' (h.loaded e p _ c bytes source he hp ?_ hbytes hsource hc)
          cases hq : e'.page? p.id with
          | none => exact hp
          | some q => exact h.page e' _ q he' hq
        simp only
        split
        · refine (h.findLayout _ _).bind fun layout => (hput _ ?_).bind fun _ => Keeps.pure _
          rfl
        · refine (Keeps.pure none).bind fun layout => (hput _ ?_).bind fun _ => Keeps.pure _
          rfl

theorem refresh (id : PageId) : Keeps I (rules.refresh id) := by
  refine Keeps.get_bind fun e he => ?_
  cases hid : e.page? id with
  | none => exact Keeps.throw _
  | some p =>
    have hp := h.page e id p he hid
    obtain ⟨pid, path, format, content, lastChecked⟩ := p
    cases content with
    | none => exact h.load hp
    | some content =>
      refine (h.dueForCheck hp).bind fun due => ?_
      split
      · refine Keeps.get_bind fun e' _ => Keeps.ofFile_bind fun found _ => ?_
        cases found with
        | none => exact Keeps.pure _
        | some info =>
          simp only
          split
          · exact Keeps.pure _
          · exact h.load hp
      · exact Keeps.pure _

theorem initPage (id : PageId) : Keeps I (rules.initPage id) :=
  .initPage h.refresh id

theorem getPage (path : String) : Keeps I (rules.getPage path) := by
  rw [getPage_eq]
  refine Keeps.requireInitialized.bind fun _ => Keeps.get_bind fun e _ => ?_
  split
  · exact (h.initPage _).discard.bind fun _ => Keeps.pure _
  · refine probe_bind (Keeps.pure _) fun f hf => ?_
    refine (h.register .page _ (mem_orderedFormats.1 hf)).bind fun id => ?_
    exact (h.initPage id).discard.bind fun _ => Keeps.pure _

/-- Making a one-time page keeps the property if writing the files of such pages and removing them does. -/
theorem oneTimePage
    (hwrite : ∀ e number path bytes, I e →
      I { e with nextTempId := number, tempFiles := e.tempFiles.write path bytes e.clock })
    (hremove : ∀ e path, I e → I { e with tempFiles := e.tempFiles.remove path }) (contents : String)
    (extension : Option String) : Keeps I (rules.oneTimePage contents extension) :=
  .oneTimePage h.refresh (fun e _ _ f hf _ _ he => hwrite _ _ _ _ (h.put e _ he (h.registered _ _ f hf))) hremove contents
    extension

end PageRules.KeptByLoading

/-- A new site has nothing in its caches. -/
theorem truthful_over (files : FileStore) : (Engine.over files).Truthful :=
  ⟨nofun, nofun⟩

/-- Loading pages does not touch the caches of texts. -/
theorem Engine.Truthful.keptByLoading (rules : PageRules) : rules.KeptByLoading Engine.Truthful fun _ => True := by
  refine ⟨fun _ _ _ _ _ => trivial, fun e p he _ => ?_, fun _ _ _ _ => trivial, fun _ _ _ => trivial,
    fun _ _ _ _ _ _ _ _ _ _ _ _ => trivial⟩
  unfold Engine.putPage
  split <;> exact he.of_caches rfl rfl

/-! ## Loaded pages -/

/-- A loaded page is one of the pages of the state. -/
theorem page?_of_loadedPage {e e' : Engine} {id : PageId} {page : LoadedPage}
    (h : runOn (Site.loadedPage id) e = (.ok page, e')) :
    e' = e ∧ ∃ p, e.page? id = some p ∧ p.format = page.format ∧ p.content = some page.content := by
  cases hid : e.page? id with
  | none =>
    rw [Environment.run_loadedPage_error (by simp [hid])] at h
    cases h
  | some p =>
    cases hc : p.content with
    | none =>
      rw [Environment.run_loadedPage_error (by simp [hid, hc])] at h
      cases h
    | some c =>
      rw [Environment.run_loadedPage hid hc] at h
      cases h
      exact ⟨rfl, p, rfl, rfl, hc⟩

namespace PageRules.KeptByLoading

variable {site : Site} {I : Engine → Prop} {Q : Page → Prop} (h : site.toPageRules.KeptByLoading I Q)
include h

/-- What is loaded from a state with the property is a page of such a state. -/
theorem of_loadedPage {e e' : Engine} {id : PageId} {page : LoadedPage} (he : I e)
    (hrun : runOn (Site.loadedPage id) e = (.ok page, e')) :
    ∃ p, Q p ∧ p.format = page.format ∧ p.content = some page.content := by
  obtain ⟨-, p, hp, hformat, hcontent⟩ := page?_of_loadedPage hrun
  exact ⟨p, h.page e id p he hp, hformat, hcontent⟩

/-- **Partials.** Finding the page of a partial keeps the property. -/
theorem partialContent {env : Environment} (henv : env.site = site) (page name : String) :
    Keeps I (env.partialContent page name) := by
  subst henv
  exact .partialContent h.getPage page name

/-- The page of a partial is a page of a state with the property. -/
theorem of_partialContent {env : Environment} (henv : env.site = site) {name page : String} {e e' : Engine}
    {loaded : LoadedPage} (he : I e) (hrun : runOn (env.partialContent page name) e = (.ok loaded, e')) :
    ∃ p, Q p ∧ p.format = loaded.format ∧ p.content = some loaded.content := by
  subst henv
  obtain ⟨id, e₁, hpage, hloaded⟩ := exists_of_runOn_bind hrun
  exact h.of_loadedPage (of_runOn (Keeps.partialPage h.getPage page name) he hpage) hloaded

variable (hclose : ∀ e, I e → I { e with initialized := true })
include hclose

/-- **Preparing.** Loading the page of a render and its layout keeps the property. -/
theorem prepare (plan : RenderPlan) : Keeps I (site.prepare plan) :=
  .prepare h.refresh h.findLayout hclose plan

/-- The page of a render and its layout are pages of states with the property. -/
theorem of_prepare {plan : RenderPlan} {e e' : Engine} {page : LoadedPage} {layout : Option LoadedPage} (he : I e)
    (hrun : runOn (site.prepare plan) e = (.ok (page, layout), e')) :
    ∀ loaded ∈ page :: layout.toList, ∃ p, Q p ∧ p.format = loaded.format ∧ p.content = some loaded.content := by
  obtain ⟨⟨⟩, e₁, hclosed, hrun⟩ := exists_of_runOn_bind hrun
  obtain ⟨content, e₂, hinit, hrun⟩ := exists_of_runOn_bind hrun
  obtain ⟨page', e₃, hpage, hrun⟩ := exists_of_runOn_bind hrun
  obtain ⟨found, e₄, hselect, hrun⟩ := exists_of_runOn_bind hrun
  have h₂ := of_runOn (h.initPage plan.page) (of_runOn (Keeps.modify hclose) he hclosed) hinit
  have h₄ := of_runOn (Keeps.selectLayout h.refresh h.findLayout plan content) (of_runOn (Keeps.loadedPage plan.page) h₂ hpage) hselect
  have hof := h.of_loadedPage h₂ hpage
  cases found with
  | none =>
    cases hrun
    simpa using hof
  | some id =>
    obtain ⟨⟨⟩, e₅, hrefresh, hrun⟩ := exists_of_runOn_bind hrun
    obtain ⟨layout', e₆, hlayout, hrun⟩ := exists_of_runOn_bind hrun
    cases hrun
    have hof' := h.of_loadedPage (of_runOn (h.refresh id).discard h₄ hrefresh) hlayout
    simpa using ⟨hof, hof'⟩

end PageRules.KeptByLoading

theorem Engine.Truthful.keeps_prepare (site : Site) (plan : RenderPlan) : Keeps Engine.Truthful (site.prepare plan) :=
  (Engine.Truthful.keptByLoading site.toPageRules).prepare (fun _ h => h.of_caches rfl rfl) plan

end PageTemplates
