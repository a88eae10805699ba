import PageTemplates.Proofs.Pages.Alike

/-!
# Lookups on sites that answer alike

The same lookup on two sites that answer alike has the same outcome, and the sites answer alike after it. Main statements: this
holds of refreshing a page (`Alike.refresh`) and of asking for a path (`Alike.getPage`), so the pages of partials are stable
(`stable_partialContent_alike`).
-/

namespace PageTemplates

/-! ## Two runs -/

namespace Load

/-- Two runs of an action: they have the same outcome, leave related states, and something holds of a value and these. -/
structure Abreast {α : Type} (R : Engine → Engine → Prop) (x : Load α) (e e' : Engine) (Q : α → Engine → Engine → Prop) :
    Prop where
  outcome : (runOn x e).1 = (runOn x e').1
  state : R (runOn x e).2 (runOn x e').2
  value : ∀ a, (runOn x e).1 = .ok a → Q a (runOn x e).2 (runOn x e').2

namespace Abreast

variable {α β : Type} {R : Engine → Engine → Prop} {e e' e₁ e₁' : Engine} {x : Load α} {Q : α → Engine → Engine → Prop}

theorem of_runOn {r : Except TemplateError α} (h : runOn x e = (r, e₁)) (h' : runOn x e' = (r, e₁')) (hR : R e₁ e₁')
    (hQ : ∀ a, r = .ok a → Q a e₁ e₁') : Abreast R x e e' Q := by
  refine ⟨?_, ?_, fun a ha => ?_⟩
  · rw [h, h']
  · rw [h, h']
    exact hR
  · rw [h] at ha
    rw [h, h']
    exact hQ a ha

theorem pure {a : α} (hR : R e e') (hQ : Q a e e') : Abreast R (Pure.pure a) e e' Q :=
  of_runOn rfl rfl hR fun _ ha => Except.ok.inj ha ▸ hQ

theorem throw (error : TemplateError) (hR : R e e') : Abreast R (MonadExcept.throw error) e e' Q :=
  of_runOn rfl rfl hR nofun

theorem bind {f : α → Load β} {Q' : β → Engine → Engine → Prop} (hx : Abreast R x e e' Q)
    (hf : ∀ a e₁ e₁', R e₁ e₁' → Q a e₁ e₁' → Abreast R (f a) e₁ e₁' Q') : Abreast R (x >>= f) e e' Q' := by
  cases hs : runOn x e with
  | mk r e₁ =>
    cases ht : runOn x e' with
    | mk r' e₁' =>
      have houtcome := hx.outcome
      have hstate := hx.state
      have hvalue := hx.value
      rw [hs, ht] at houtcome hstate hvalue
      obtain rfl : r = r' := houtcome
      cases r with
      | error error => exact of_runOn (runOn_bind_error hs) (runOn_bind_error ht) hstate nofun
      | ok a =>
        have hnext := hf a e₁ e₁' hstate (hvalue a rfl)
        have hrun := runOn_bind_ok (f := f) hs
        have hrun' := runOn_bind_ok (f := f) ht
        exact ⟨by rw [hrun, hrun']; exact hnext.outcome, by rw [hrun, hrun']; exact hnext.state,
          by rw [hrun, hrun']; exact hnext.value⟩

theorem discard (hx : Abreast R x e e' Q) : Abreast R (Functor.discard x) e e' fun _ e₁ e₁' => ∃ a, Q a e₁ e₁' :=
  hx.bind (f := fun _ => Pure.pure ()) fun a _ _ hR hQ => Abreast.pure hR ⟨a, hQ⟩

theorem get_bind {f : Engine → Load β} {Q' : β → Engine → Engine → Prop} (h : runOn (f e) e' = runOn (f e') e')
    (hf : Abreast R (f e) e e' Q') : Abreast R (get >>= f) e e' Q' := by
  have hrun := runOn_get_bind f e
  have hrun' := (runOn_get_bind f e').trans h.symm
  exact ⟨by rw [hrun, hrun']; exact hf.outcome, by rw [hrun, hrun']; exact hf.state, by rw [hrun, hrun']; exact hf.value⟩

theorem mono {Q' : α → Engine → Engine → Prop} (hx : Abreast R x e e' Q) (hQ : ∀ a e₁ e₁', Q a e₁ e₁' → Q' a e₁ e₁') :
    Abreast R x e e' Q' :=
  ⟨hx.outcome, hx.state, fun a ha => hQ a _ _ (hx.value a ha)⟩

theorem stable (h : ∀ e e', R e e' → Abreast R x e e' Q) : Stable R x :=
  fun e e' hR => ⟨(h e e' hR).outcome, (h e e' hR).state⟩

end Abreast

end Load

namespace PageRules

open Load

/-- A page has a format and a content, whatever its role. -/
def Loaded (e : Engine) (id : PageId) (f : PageFormat) (c : PageContent) : Prop :=
  ∃ p, e.page? id = some p ∧ p.format = f ∧ p.content = some c

/-- All pages but one are as they were. -/
def KeepsBut (id : PageId) (e e₁ : Engine) : Prop :=
  ∀ other p, other ≠ id → e.page? other = some p → e₁.page? other = some p

section

variable {rules : PageRules} {e e' e₁ e₁' : Engine} {id l : PageId} {p q : Page} {f : PageFormat} {c : PageContent}

theorem KeepsBut.loaded (h : KeepsBut l e e₁) (hid : id ≠ l) (hc : Loaded e id f c) : Loaded e₁ id f c := by
  obtain ⟨p, hp, hf, hpc⟩ := hc
  exact ⟨p, h id p hid hp, hf, hpc⟩

theorem Develops.keepsBut (h : rules.Develops e e₁ (Function.update (rules.known? e) id (some q))) : KeepsBut id e e₁ := by
  intro other p hother hp
  obtain ⟨p', hp'⟩ := Option.isSome_iff_exists.1 (h.kept other (by rw [hp]; rfl))
  have hknown : rules.known? e₁ other = some p' := known?_of_page? hp'
  rw [h.known, Function.update_of_ne hother, known?_of_page? hp] at hknown
  rw [hp', hknown]

/-- The layout that a loaded page was loaded with is registered. -/
theorem Loaded.layout (hc : Loaded e id f c) (h : e.Orderly) (hl : c.layout = some l) :
    id.kind = .page ∧ l.kind = .layout ∧ (e.page? l).isSome = true := by
  obtain ⟨p, hp, -, hpc⟩ := hc
  exact h.layout id p c l hp hpc hl

theorem run_loadedPage_of_loaded (h : Loaded e id f c) :
    runOn (Site.loadedPage id) e = (.ok { format := f, content := c }, e) := by
  obtain ⟨p, hp, rfl, hc⟩ := h
  exact Environment.run_loadedPage hp hc

/-! ## Refreshing -/

/-- Refreshing a page that is registered in two states which answer alike. -/
theorem Alike.refresh (h : rules.Alike e e') (hp : (e.page? id).isSome = true) (hp' : (e'.page? id).isSome = true) :
    Abreast rules.Alike (rules.refresh id) e e' fun c e₁ e₁' =>
      (∃ f, Loaded e₁ id f c ∧ Loaded e₁' id f c) ∧ KeepsBut id e e₁ ∧ KeepsBut id e' e₁' := by
  obtain ⟨p, hp⟩ := Option.isSome_iff_exists.1 hp
  obtain ⟨p', hp'⟩ := Option.isSome_iff_exists.1 hp'
  obtain ⟨houtcome, hpage⟩ := (h.samePage hp hp').refreshed
  obtain ⟨e₁, hrun, h₁⟩ := leadsTo_refresh rules h.left h.initialized hp
  obtain ⟨e₁', hrun', h₁'⟩ := leadsTo_refresh rules h.right h.initialized' hp'
  rw [h.view_eq, ← houtcome] at hrun'
  rw [h.view_eq] at h₁'
  have hsome : (rules.known? e id).isSome = true := isSome_known? (by rw [hp]; rfl)
  have halike : rules.Alike e₁ e₁' :=
    h.develops h₁ h₁' (fun other _ => isSome_update hsome _ other) (rel_update h.known hpage id)
  refine Abreast.of_runOn hrun hrun' halike fun c hc => ⟨⟨p.format, ?_, ?_⟩, h₁.keepsBut, h₁'.keepsBut⟩
  · obtain ⟨content, lastChecked, hq⟩ := refreshed_page rules (rules.view e) p
    exact ⟨_, h₁.page? hp, by rw [hq], (gives_refreshed hc).1⟩
  · obtain ⟨content, lastChecked, hq⟩ := refreshed_page rules (rules.view e) p'
    exact ⟨_, h₁'.page? hp', by rw [hq, (h.samePage hp hp').format], (gives_refreshed (houtcome.symm.trans hc)).1⟩

/-- Loading a page and its layout in two states which answer alike. -/
theorem Alike.initPage (h : rules.Alike e e') (hp : (e.page? id).isSome = true) (hp' : (e'.page? id).isSome = true) :
    Abreast rules.Alike (rules.initPage id) e e' fun c e₁ e₁' => ∃ f, Loaded e₁ id f c ∧ Loaded e₁' id f c := by
  refine (h.refresh hp hp').bind fun c e₁ e₁' h₁ hloaded => ?_
  obtain ⟨⟨f, hc, hc'⟩, -⟩ := hloaded
  cases hl : c.layout with
  | none => exact Abreast.pure h₁ ⟨f, hc, hc'⟩
  | some l =>
    -- The layout of a page that was loaded is registered, and it is no page in the role of one.
    obtain ⟨hk, hlk, hsome⟩ := hc.layout h₁.left hl
    obtain ⟨-, -, hsome'⟩ := hc'.layout h₁.right hl
    have hne : id ≠ l := by
      rintro rfl
      rw [hk] at hlk
      cases hlk
    refine (h₁.refresh hsome hsome').discard.bind fun _ e₂ e₂' h₂ hkept => ?_
    obtain ⟨-, -, hkeeps, hkeeps'⟩ := hkept
    exact Abreast.pure h₂ ⟨f, hkeeps.loaded hne hc, hkeeps'.loaded hne hc'⟩

/-- A page that was loaded with its layout has the content that this gave, in an orderly state. -/
theorem loaded_of_initPage (h : e.Orderly) (hi : e.initialized = true) (hrun : runOn (rules.initPage id) e = (.ok c, e₁)) :
    (∃ f, Loaded e₁ id f c) ∧ e₁.Orderly ∧ e₁.initialized = true := by
  obtain ⟨c', e', hrefresh, -⟩ := exists_of_runOn_bind hrun
  have hp := isSome_of_refresh hrefresh
  have hboth := (Alike.refl rules h hi).initPage hp hp
  have hstate := hboth.state
  have hvalue := hboth.value
  rw [hrun] at hstate hvalue
  obtain ⟨f, hc, -⟩ := hvalue c rfl
  exact ⟨⟨f, hc⟩, hstate.left, hstate.initialized⟩

/-! ## Asking for pages -/

/-- Registering the same page in two states which answer alike. -/
theorem Alike.register {kind : PageKind} (hk : kind ≠ .layout) (h : rules.Alike e e') (key : String) (f : PageFormat) :
    Abreast rules.Alike (register kind key f) e e' fun id e₁ e₁' =>
      (e₁.page? id).isSome = true ∧ (e₁'.page? id).isSome = true := by
  have hput : ∀ {e : Engine}, e.Orderly →
      rules.Develops e (e.putPage { id := { kind, key }, path := fileName key f, format := f }) _ := fun h =>
    develops_putPage h nofun
  have hlayouts : ∀ id : PageId, id.kind = .layout → id ≠ { kind, key } := by
    rintro id hid rfl
    exact hk hid
  have halike := h.develops (hput h.left) (hput h.right)
    (fun id hid => by rw [Function.update_of_ne (hlayouts id hid)])
    (rel_update h.known (SamePage.refl rules (rules.view e) _) { kind, key })
  refine Abreast.of_runOn rfl rfl halike fun id hid => ?_
  obtain rfl := Except.ok.inj hid
  rw [Engine.page?_putPage_eq, Engine.page?_putPage_eq]
  simp

/-- Asking two states which answer alike for a path. -/
theorem Alike.getPage (h : rules.Alike e e') (path : String) :
    Abreast rules.Alike (rules.getPage path) e e' fun found e₁ e₁' =>
      ∀ id, found = some id → ∃ f c, Loaded e₁ id f c ∧ Loaded e₁' id f c := by
  -- The page is loaded where it is registered, and answered.
  have hinit : ∀ {e e' : Engine} {id : PageId}, rules.Alike e e' → (e.page? id).isSome = true → (e'.page? id).isSome = true →
      Abreast rules.Alike (do
        discard (rules.initPage id)
        return some id) e e' fun found e₁ e₁' => ∀ id, found = some id → ∃ f c, Loaded e₁ id f c ∧ Loaded e₁' id f c := by
    intro e e' id h hp hp'
    refine (h.initPage hp hp').discard.bind fun _ e₁ e₁' h₁ hloaded => ?_
    obtain ⟨c, f, hc, hc'⟩ := hloaded
    exact Abreast.pure h₁ fun id' hid => Option.some.inj hid ▸ ⟨f, c, hc, hc'⟩
  have hrequire : Abreast rules.Alike requireInitialized e e' fun _ e₁ e₁' => e = e₁ ∧ e' = e₁' :=
    Abreast.of_runOn (runOn_requireInitialized h.initialized) (runOn_requireInitialized h.initialized') h fun _ _ => ⟨rfl, rfl⟩
  have hsame : (e'.page? (rules.pathId path)).isSome = (e.page? (rules.pathId path)).isSome :=
    isSome_of_rel (h.page? (by simp [pathId]))
  rw [getPage_eq]
  refine hrequire.bind fun _ _ _ _ heq => ?_
  obtain ⟨rfl, rfl⟩ := heq
  refine Abreast.get_bind (by rw [hsame]) ?_
  by_cases hp : (e.page? (rules.pathId path)).isSome = true
  · rw [if_pos hp]
    exact hinit h hp (hsame.trans hp)
  · rw [if_neg hp]
    have hprobe : Abreast rules.Alike
        (probe (rules.pathId path).key (rules.orderedFormats (rules.pageKey (Path.normalize path)).2)) e e' fun _ _ _ => True :=
      Abreast.of_runOn (runOn_probe _ _ e) ((runOn_probe _ _ e').trans (by rw [h.files])) h fun _ _ => trivial
    refine hprobe.bind fun found e₁ e₁' h₁ _ => ?_
    cases found with
    | none => exact Abreast.pure h₁ fun id hid => by cases hid
    | some f => exact (h₁.register (by simp) _ f).bind fun id e₂ e₂' h₂ hid => hinit h₂ hid.1 hid.2

/-- Asking two states which answer alike for a page that must exist. -/
theorem Alike.requirePage (h : rules.Alike e e') (path : String) :
    Abreast rules.Alike (rules.requirePage path) e e' fun id e₁ e₁' => ∃ f c, Loaded e₁ id f c ∧ Loaded e₁' id f c := by
  refine (h.getPage path).bind fun found e₁ e₁' h₁ hloaded => ?_
  cases found with
  | none => exact Abreast.throw _ h₁
  | some id => exact Abreast.pure h₁ (hloaded id rfl)

theorem Alike.partialPage (env : Environment) (h : env.site.Alike e e') (page name : String) :
    Abreast env.site.Alike (env.partialPage page name) e e' fun id e₁ e₁' => ∃ f c, Loaded e₁ id f c ∧ Loaded e₁' id f c := by
  unfold Environment.partialPage
  split
  · exact h.requirePage name
  · rename_i directory _
    refine (h.getPage (Path.join directory name)).bind fun found e₁ e₁' h₁ hloaded => ?_
    cases found with
    | none => exact h₁.requirePage name
    | some id => exact Abreast.pure h₁ (hloaded id rfl)

/-- **Partials.** Looking for the page of a partial is stable for states that answer alike. -/
theorem stable_partialContent_alike (env : Environment) (page name : String) :
    Stable env.site.Alike (env.partialContent page name) := by
  refine Abreast.stable (Q := fun _ _ _ => True) fun e e' h => (h.partialPage env page name).bind fun id e₁ e₁' h₁ hloaded => ?_
  obtain ⟨f, c, hc, hc'⟩ := hloaded
  exact Abreast.of_runOn (run_loadedPage_of_loaded hc) (run_loadedPage_of_loaded hc') h₁ fun _ _ => trivial

end

end PageRules

end PageTemplates
