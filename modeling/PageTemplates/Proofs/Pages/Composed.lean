import PageTemplates.Proofs.Evaluation.Fragments
import PageTemplates.Proofs.Pages.Registry

/-!
# Lookups that are made of others

Most lookups refresh pages, look for layouts and ask for paths, and do nothing else with the state but look at its pages. So
where related states make no difference to these, they make none to the others. Main statements: what preparing a render needs
(`SameIndex.stable_prepare`), what the pages of partials need (`SameIndex.stable_partialPages`), and what a one-time page needs
(`SameIndex.stable_oneTimePage`).
-/

namespace PageTemplates

open PageRules Load

/-! ## Actions -/

section

variable {α β : Type} {R : Engine → Engine → Prop}

/-- What comes after a look at the state is stable if it is the same for related states. -/
theorem stable_get_bind {f : Engine → Load β} (hsame : ∀ e e', R e e' → f e' = f e) (hf : ∀ e, Stable R (f e)) :
    Stable R (get >>= f) := by
  intro e e' h
  have hrun : ∀ e, (get >>= f : Load β).run.run e = (f e).run.run e := fun e => runOn_get_bind f e
  rw [hrun, hrun, hsame e e' h]
  exact hf e e e' h

theorem stable_ofFile (r : Except FileError α) : Stable R (Load.ofFile r) := by
  cases r with
  | ok a => exact Stable.pure a
  | error e => exact Stable.throw _

theorem stable_liftExcept (r : Except TemplateError α) : Stable R (oneTimePage.liftExcept r) := by
  cases r with
  | ok a => exact Stable.pure a
  | error e => exact Stable.throw _

theorem stable_liftExcept_bind {r : Except TemplateError α} {f : α → Load β} (hf : ∀ a, r = .ok a → Stable R (f a)) :
    Stable R (oneTimePage.liftExcept r >>= f) := by
  cases r with
  | error error => exact Stable.throw _
  | ok a => exact hf a rfl

theorem stable_discard {x : Load α} (hx : Stable R x) : Stable R (discard x) :=
  hx.bind fun _ => Stable.pure ()

theorem stable_attempt {x : Load α} (hx : Stable R x) : Stable R (Load.attempt x) := by
  intro e e' h
  obtain ⟨houtcome, hstate⟩ := hx e e' h
  exact ⟨congrArg Except.ok houtcome, hstate⟩

end

/-! ## Lookups -/

theorem PageRules.mem_of_oneTimeFormat {rules : PageRules} {extension : Option String} {f : PageFormat}
    (hf : rules.oneTimeFormat extension = .ok f) : f ∈ rules.formats := by
  unfold PageRules.oneTimeFormat at hf
  split at hf
  · split at hf
    · rename_i g hg
      cases hf
      exact List.mem_of_find?_eq_some hg
    · cases hf
  · split at hf
    · rename_i g formats hformats
      cases hf
      simp [hformats]
    · cases hf

section

variable {R : Engine → Engine → Prop} {rules : PageRules}

/-- Loading a page and its layout is refreshing pages. -/
theorem stable_initPage (hrefresh : ∀ id, Stable R (rules.refresh id)) (id : PageId) : Stable R (rules.initPage id) := by
  refine (hrefresh id).bind fun content => ?_
  split
  · exact (stable_discard (hrefresh _)).bind fun _ => Stable.pure _
  · exact Stable.pure _

/-- Asking for a page that must exist is asking for a path. -/
theorem stable_requirePage (hget : ∀ path, Stable R (rules.getPage path)) (path : String) :
    Stable R (rules.requirePage path) := by
  refine (hget path).bind fun found => ?_
  split
  · exact Stable.pure _
  · exact Stable.throw _

/-- Looking for the page of a partial is asking for paths. -/
theorem stable_partialPage {env : Environment} (hget : ∀ path, Stable R (env.site.getPage path)) (page name : String) :
    Stable R (env.partialPage page name) := by
  unfold Environment.partialPage
  split
  · exact stable_requirePage hget name
  · refine (hget _).bind fun found => ?_
    split
    · exact Stable.pure _
    · exact stable_requirePage hget name

end

/-- Related states have the same pages, and are at the same point. -/
structure SameIndex (R : Engine → Engine → Prop) : Prop where
  initialized : ∀ e e', R e e' → e'.initialized = e.initialized
  nextTempId : ∀ e e', R e e' → e'.nextTempId = e.nextTempId
  page : ∀ e e' id, R e e' → e'.page? id = e.page? id

namespace SameIndex

variable {R : Engine → Engine → Prop} (h : SameIndex R)
include h

theorem stable_requireInitialized : Stable R requireInitialized := by
  refine stable_get_bind (fun e e' hR => by rw [h.initialized e e' hR]) fun e => ?_
  split
  · exact Stable.throw _
  · exact Stable.pure _

theorem stable_loadedPage (id : PageId) : Stable R (Site.loadedPage id) := by
  refine stable_get_bind (fun e e' hR => by rw [h.page e e' id hR]) fun e => ?_
  split
  · exact Stable.pure _
  · exact Stable.throw _

/-- The pages of partials are stable if asking for paths is. -/
theorem stable_partialPages {env : Environment} (hget : ∀ path, Stable R (env.site.getPage path)) (page name : String) :
    Stable R (env.partialContent page name) :=
  (stable_partialPage hget page name).bind fun id => h.stable_loadedPage id

section

variable {rules : PageRules} (hrefresh : ∀ id, Stable R (rules.refresh id))
include hrefresh

theorem stable_resolveLayout (hfind : ∀ pageKey name, Stable R (rules.findLayout pageKey name)) (id : PageId)
    (name : Option String) : Stable R (rules.resolveLayout id name) := by
  refine stable_get_bind (fun e e' hR => by rw [h.page e e' id hR]) fun e => ?_
  split
  · exact Stable.throw _
  · split
    · exact Stable.throw _
    · split
      · exact Stable.pure _
      · refine (hfind _ _).bind fun found => ?_
        split
        · exact Stable.pure _
        · exact (stable_discard (hrefresh _)).bind fun _ => Stable.pure _

/-- Making a one-time page is stable if refreshing pages is, and if registering the page with its file and removing the file
keep states related. -/
theorem stable_oneTimePage
    (hwrite : ∀ e e' key path, ∀ f ∈ rules.formats, ∀ number bytes, R e e' →
      R { (e.putPage { id := { kind := .oneTime, key }, path, format := f }) with
            nextTempId := number, tempFiles := e.tempFiles.write path bytes e.clock }
        { (e'.putPage { id := { kind := .oneTime, key }, path, format := f }) with
            nextTempId := number, tempFiles := e'.tempFiles.write path bytes e'.clock })
    (hremove : ∀ e e' path, R e e' →
      R { e with tempFiles := e.tempFiles.remove path } { e' with tempFiles := e'.tempFiles.remove path })
    (contents : String) (extension : Option String) : Stable R (rules.oneTimePage contents extension) := by
  refine h.stable_requireInitialized.bind fun _ => stable_liftExcept_bind fun f hf => ?_
  refine stable_get_bind (fun e e' hR => by rw [h.nextTempId e e' hR]) fun e => ?_
  have hwritten := fun e e' key path number bytes => hwrite e e' key path f (mem_of_oneTimeFormat hf) number bytes
  refine (Stable.modify fun e e' hR => hwritten e e' _ _ _ _ hR).bind fun _ => ?_
  refine (stable_attempt (stable_initPage hrefresh _)).bind fun loaded => ?_
  refine (Stable.modify fun e e' hR => hremove e e' _ hR).bind fun _ => ?_
  exact (stable_discard (stable_liftExcept loaded)).bind fun _ => Stable.pure _

end

section

variable {site : Site} (hrefresh : ∀ id, Stable R (site.refresh id))
  (hfind : ∀ pageKey name, Stable R (site.findLayout pageKey name))
include hrefresh hfind

theorem stable_selectLayout (plan : RenderPlan) (content : PageContent) : Stable R (site.selectLayout plan content) := by
  unfold Site.selectLayout
  split
  · exact Stable.pure _
  · exact Stable.pure _
  · exact Stable.pure _
  · refine (h.stable_resolveLayout hrefresh hfind _ _).bind fun found => ?_
    split
    · exact Stable.pure _
    · exact Stable.throw _

/-- Preparing a render is stable if refreshing pages and looking for layouts are. -/
theorem stable_prepare (hclose : ∀ e e', R e e' → R { e with initialized := true } { e' with initialized := true })
    (plan : RenderPlan) : Stable R (site.prepare plan) := by
  refine (Stable.modify hclose).bind fun _ => (stable_initPage hrefresh _).bind fun content => ?_
  refine (h.stable_loadedPage _).bind fun page => (h.stable_selectLayout hrefresh hfind plan content).bind fun found => ?_
  split
  · exact Stable.pure _
  · exact (stable_discard (hrefresh _)).bind fun _ => (h.stable_loadedPage _).bind fun layout => Stable.pure _

end

end SameIndex

end PageTemplates
