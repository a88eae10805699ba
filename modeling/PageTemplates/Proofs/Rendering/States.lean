import PageTemplates.Proofs.Freshness.History
import PageTemplates.Proofs.Pages.Abreast
import PageTemplates.Proofs.Rendering.Unnoticed

/-!
# The states of a site

Whatever a site is asked for, it stays orderly: pages are registered under their own identities, and a page is loaded with a
layout only once the layout is registered. Main statements: lookups and renders keep this (`InUse.unnoticed`), and so it holds
after any renders and writes of files (`inUse_after_history`).
-/

namespace PageTemplates

open PageRules Load

/-! ## One state and itself -/

theorem sameMemory_same {I : Engine → Prop} (hbinders : ∀ e binders, I e → I { e with binders })
    (hcache : ∀ e cache, I e → I { e with cache }) (hcells : ∀ e cells, I e → I { e with cells }) :
    SameMemory (Engine.Same I) := by
  refine ⟨?_, ?_, ?_⟩
  · rintro e e' ⟨rfl, he⟩
    exact ⟨rfl, fun binders => ⟨rfl, hbinders e' binders he⟩⟩
  · rintro e e' ⟨rfl, he⟩
    exact ⟨rfl, fun cache => ⟨rfl, hcache e' cache he⟩⟩
  · rintro e e' ⟨rfl, he⟩
    exact ⟨rfl, fun cells => ⟨rfl, hcells e' cells he⟩⟩

/-! ## Lookups -/

/-- A state that can be asked for pages, and is orderly. -/
structure Engine.InUse (e : Engine) : Prop where
  orderly : e.Orderly
  initialized : e.initialized = true

namespace Engine.InUse

variable {rules : PageRules} {site : Site} {plan : RenderPlan} {e e' : Engine}

theorem of_same (h : e.InUse) (hpages : ∀ id, e'.page? id = e.page? id) (hi : e'.initialized = true) : e'.InUse :=
  ⟨h.orderly.of_same hpages, hi⟩

/-- A state that follows one in use is in use. -/
theorem develops {known : PageId → Option Page} (h : e.InUse) (hdevelops : rules.Develops e e' known) : e'.InUse := by
  refine ⟨hdevelops.orderly, ?_⟩
  rw [hdevelops.frame]
  exact h.initialized

/-- What two runs on states that answer alike leave is in use. -/
theorem keeps_of_abreast {α : Type} {x : Load α} {Q : α → Engine → Engine → Prop}
    (h : ∀ e, rules.Alike e e → Abreast rules.Alike x e e Q) : Keeps Engine.InUse x := by
  intro e he
  have hstate := (h e (Alike.refl rules he.orderly he.initialized)).state
  exact ⟨hstate.left, hstate.initialized⟩

theorem keeps_getPage (path : String) : Keeps Engine.InUse (rules.getPage path) :=
  keeps_of_abreast fun _ h => h.getPage path

theorem keeps_refresh (id : PageId) : Keeps Engine.InUse (rules.refresh id) := by
  intro e he
  cases hp : e.page? id with
  | some p =>
    obtain ⟨e', hrun, hdevelops⟩ := leadsTo_refresh rules he.orderly he.initialized hp
    rw [hrun]
    exact he.develops hdevelops
  | none =>
    unfold PageRules.refresh
    rw [runOn_get_bind, hp]
    exact he

theorem keeps_findLayout (pageKey name : String) : Keeps Engine.InUse (rules.findLayout pageKey name) := by
  intro e he
  obtain ⟨e', hrun, hdevelops, -⟩ := develops_findLayout rules he.orderly he.initialized pageKey name
  rw [hrun]
  exact he.develops hdevelops

/-- Making a one-time page keeps a site in use. -/
theorem keeps_oneTimePage (contents : String) (extension : Option String) :
    Keeps Engine.InUse (rules.oneTimePage contents extension) := by
  refine Keeps.oneTimePage keeps_refresh (fun e key path f _ number bytes he => ?_)
    (fun e path he => he.of_same (fun _ => rfl) he.initialized) contents extension
  have hput := he.develops (@develops_putPage rules _ { id := { kind := .oneTime, key }, path, format := f } he.orderly (by simp))
  exact hput.of_same (fun _ => rfl) hput.initialized

/-! ## Renders -/

/-- That a site is in use is kept by lookups, and by the filters. -/
theorem unnoticed (site : Site) : site.Unnoticed (Engine.Same Engine.InUse) where
  toSameMemory := sameMemory_same (fun _ _ h => h.of_same (fun _ => rfl) h.initialized)
    (fun _ _ h => h.of_same (fun _ => rfl) h.initialized) fun _ _ h => h.of_same (fun _ => rfl) h.initialized
  toSameIndex := sameIndex_same _
  close := by
    rintro e e' ⟨rfl, he⟩
    exact ⟨rfl, he.of_same (fun _ => rfl) rfl⟩
  refresh id := Keeps.iff_stable.1 (keeps_refresh id)
  findLayout pageKey name := Keeps.iff_stable.1 (keeps_findLayout pageKey name)
  getPage path := Keeps.iff_stable.1 (keeps_getPage path)
  oneTimePage contents extension := Keeps.iff_stable.1 (keeps_oneTimePage contents extension)

/-- What happens to a site keeps it in use. -/
theorem run_event (h : site.Standard) (he : e.InUse) (event : SiteEvent) : (event.run site e).InUse := by
  cases event with
  | render clock now fuel path args =>
    have hnow : (site.withNow now).Standard := ⟨h.compiler, h.filter⟩
    have htime : (e.atTime clock).InUse := he.of_same (fun _ => rfl) he.initialized
    have hfilters := (unnoticed (site.withNow now)).stable_filters hnow
    obtain ⟨hsame, hstate⟩ := ((unnoticed (site.withNow now)).stable_renderPage hfilters fuel path args _ _ ⟨rfl, htime⟩).state
    exact hstate
  | write clock path bytes => exact he.of_same (fun _ => rfl) he.initialized

end Engine.InUse

/-- **Histories.** After any renders and writes of files, a site with the built-in filters and value filters is in use. -/
theorem inUse_after_history {site : Site} (h : site.Standard) (files : FileStore) (events : List SiteEvent) :
    (events.foldl (SiteEvent.run site) (Engine.over files)).InUse := by
  have hevents : ∀ e : Engine, e.InUse → (events.foldl (SiteEvent.run site) e).InUse := by
    induction events with
    | nil => exact fun _ he => he
    | cons event events ih => exact fun e he => ih _ (he.run_event h event)
  exact hevents _ ⟨Engine.orderly_over files, rfl⟩

end PageTemplates
