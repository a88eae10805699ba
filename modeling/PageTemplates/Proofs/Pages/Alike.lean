import Mathlib.Data.Option.Basic
import PageTemplates.Proofs.Pages.Develops

/-!
# Sites that answer alike

Two states of a site answer alike if they know the same pages, each as it was or refreshed with the same content. So a page that
one of them has refreshed already, or a layout that it has registered already, makes no difference to what comes. Main
statements: refreshing a page and looking for a layout leave a state that answers alike (`Alike.of_refresh`,
`Alike.of_findLayout`).
-/

namespace PageTemplates

namespace PageRules

open Load

/-- Two pages that are the same, or that refreshing gives the same content. -/
structure SamePage (rules : PageRules) (v : View) (p q : Page) : Prop where
  id : p.id = q.id
  path : p.path = q.path
  format : p.format = q.format
  content : p = q ∨ ∃ c, rules.Gives v p c ∧ rules.Gives v q c

/-- Two states that differ in their pages at most, and know the same ones. -/
structure Alike (rules : PageRules) (e e' : Engine) : Prop where
  frame : e' = { e with pages := e'.pages, oneTimePages := e'.oneTimePages }
  initialized : e.initialized = true
  left : e.Orderly
  right : e'.Orderly
  known : ∀ id, Option.Rel (rules.SamePage (rules.view e)) (rules.known? e id) (rules.known? e' id)

section

variable {rules : PageRules} {v : View} {p q r : Page} {e e' e'' e₁ e₁' : Engine} {id : PageId}

theorem SamePage.refl (rules : PageRules) (v : View) (p : Page) : rules.SamePage v p p :=
  ⟨rfl, rfl, rfl, Or.inl rfl⟩

theorem SamePage.trans (h : rules.SamePage v p q) (h' : rules.SamePage v q r) : rules.SamePage v p r := by
  refine ⟨h.id.trans h'.id, h.path.trans h'.path, h.format.trans h'.format, ?_⟩
  rcases h.content with rfl | ⟨c, hp, hq⟩
  · exact h'.content
  · rcases h'.content with rfl | ⟨c', hq', hr⟩
    · exact Or.inr ⟨c, hp, hq⟩
    · obtain rfl := Except.ok.inj (hq.symm.trans hq')
      exact Or.inr ⟨c, hp, hr⟩

/-- A page that refreshing gives a content is the same as the refreshed one. -/
theorem SamePage.of_gives {c : PageContent} (h : rules.Gives v p c) : rules.SamePage v p (rules.refreshed v p).2 := by
  obtain ⟨content, lastChecked, hpage⟩ := refreshed_page rules v p
  have hagain := (gives_refreshed h).2
  rw [hpage] at hagain ⊢
  exact ⟨rfl, rfl, rfl, Or.inr ⟨c, h, hagain⟩⟩

/-- Refreshing pages that are the same gives the same, and leaves pages that are the same. -/
theorem SamePage.refreshed (h : rules.SamePage v p q) :
    (rules.refreshed v p).1 = (rules.refreshed v q).1 ∧ rules.SamePage v (rules.refreshed v p).2 (rules.refreshed v q).2 := by
  rcases h.content with rfl | ⟨c, hp, hq⟩
  · exact ⟨rfl, SamePage.refl rules v _⟩
  · refine ⟨hp.trans hq.symm, ?_⟩
    obtain ⟨content, lastChecked, hpage⟩ := refreshed_page rules v p
    obtain ⟨content', lastChecked', hpage'⟩ := refreshed_page rules v q
    have hagain := (gives_refreshed hp).2
    have hagain' := (gives_refreshed hq).2
    rw [hpage] at hagain ⊢
    rw [hpage'] at hagain' ⊢
    exact ⟨h.id, h.path, h.format, Or.inr ⟨c, hagain, hagain'⟩⟩

theorem rel_refl (rules : PageRules) (v : View) (found : Option Page) : Option.Rel (rules.SamePage v) found found := by
  cases found with
  | none => exact .none
  | some p => exact .some (SamePage.refl rules v p)

theorem rel_trans {a b c : Option Page} (h : Option.Rel (rules.SamePage v) a b) (h' : Option.Rel (rules.SamePage v) b c) :
    Option.Rel (rules.SamePage v) a c := by
  cases h with
  | none => exact h'
  | some hpq =>
    cases h' with
    | some hqr => exact .some (hpq.trans hqr)

theorem isSome_of_rel {a b : Option Page} (h : Option.Rel (rules.SamePage v) a b) : b.isSome = a.isSome := by
  cases h with
  | some _ => rfl
  | none => rfl

/-- Whatever two pages are put in the place of an identity, what is known stays the same if they are. -/
theorem rel_update {known known' : PageId → Option Page} (h : ∀ id, Option.Rel (rules.SamePage v) (known id) (known' id))
    (hpq : rules.SamePage v p q) (id other : PageId) :
    Option.Rel (rules.SamePage v) (Function.update known id (some p) other) (Function.update known' id (some q) other) := by
  by_cases hother : other = id
  · subst hother
    rw [Function.update_self, Function.update_self]
    exact .some hpq
  · rw [Function.update_of_ne hother, Function.update_of_ne hother]
    exact h other

/-! ## States -/

theorem Alike.refl (rules : PageRules) (h : e.Orderly) (hi : e.initialized = true) : rules.Alike e e :=
  ⟨rfl, hi, h, h, fun _ => rel_refl rules _ _⟩

/-- States that know the same pages have the same view. -/
theorem Alike.view_eq (h : rules.Alike e e') : rules.view e' = rules.view e :=
  view_eq_of_frame h.frame fun id _ => isSome_of_rel (h.known id)

theorem Alike.initialized' (h : rules.Alike e e') : e'.initialized = true := by
  rw [h.frame]
  exact h.initialized

theorem Alike.files (h : rules.Alike e e') : e'.files = e.files := by
  rw [h.frame]

theorem Alike.trans (h : rules.Alike e e') (h' : rules.Alike e' e'') : rules.Alike e e'' := by
  refine ⟨?_, h.initialized, h.left, h'.right, fun id => rel_trans (h.known id) ?_⟩
  · rw [h'.frame, h.frame]
  · rw [← h.view_eq]
    exact h'.known id

/-- Pages other than layouts are known once they are registered, so they are registered in both of two states or in neither. -/
theorem Alike.page? (h : rules.Alike e e') (hk : id.kind ≠ .layout) :
    Option.Rel (rules.SamePage (rules.view e)) (e.page? id) (e'.page? id) := by
  have hknown := h.known id
  rwa [known?_eq_page? hk, known?_eq_page? hk] at hknown

/-- A registered page is known as the same in a state that answers alike and has it registered. -/
theorem Alike.samePage (h : rules.Alike e e') (hp : e.page? id = some p) (hq : e'.page? id = some q) :
    rules.SamePage (rules.view e) p q := by
  have hknown := h.known id
  rw [known?_of_page? hp, known?_of_page? hq] at hknown
  cases hknown with
  | some hpq => exact hpq

/-- States with the pages, the files and the clock of two which answer alike do so, whatever else they remember. -/
theorem Alike.of_same (h : rules.Alike e e') (hframe : e₁' = { e₁ with pages := e₁'.pages, oneTimePages := e₁'.oneTimePages })
    (hpages : ∀ id, e₁.page? id = e.page? id) (hpages' : ∀ id, e₁'.page? id = e'.page? id)
    (hfiles : e₁.filesFor = e.filesFor) (hclock : e₁.clock = e.clock) (hi : e₁.initialized = true) : rules.Alike e₁ e₁' := by
  have hfiles₁ : e₁.files = e.files := congrFun hfiles .page
  have hfiles₁' : e₁'.files = e'.files := by
    rw [hframe, h.frame]
    exact hfiles₁
  have hknown : rules.known? e₁ = rules.known? e := by
    funext id
    simp only [known?, hpages, hfiles₁]
  have hknown' : rules.known? e₁' = rules.known? e' := by
    funext id
    simp only [known?, hpages', hfiles₁']
  have hview : rules.view e₁ = rules.view e := by
    have hlayout := @knownLayoutIn?_congr rules e e₁ (fun id _ => by rw [hknown]) hfiles₁
    simp only [view, hfiles, hclock, hlayout]
  refine ⟨hframe, hi, h.left.of_same hpages, h.right.of_same hpages', fun id => ?_⟩
  rw [hknown, hknown', hview]
  exact h.known id

/-- States that follow two which answer alike do so if what is known stays the same. -/
theorem Alike.develops {known known' : PageId → Option Page} (h : rules.Alike e e') (h₁ : rules.Develops e e₁ known)
    (h₁' : rules.Develops e' e₁' known')
    (hlayouts : ∀ id, id.kind = .layout → (known id).isSome = (rules.known? e id).isSome)
    (hknown : ∀ id, Option.Rel (rules.SamePage (rules.view e)) (known id) (known' id)) : rules.Alike e₁ e₁' := by
  refine ⟨?_, ?_, h₁.orderly, h₁'.orderly, fun id => ?_⟩
  · rw [h₁'.frame, h.frame, h₁.frame]
  · rw [h₁.frame]
    exact h.initialized
  · rw [h₁.known, h₁'.known, h₁.view_eq hlayouts]
    exact hknown id

/-- A state that follows another answers alike if what is known stays the same. -/
theorem Alike.of_develops {known : PageId → Option Page} (h : e.Orderly) (hi : e.initialized = true)
    (h₁ : rules.Develops e e₁ known)
    (hknown : ∀ id, Option.Rel (rules.SamePage (rules.view e)) (rules.known? e id) (known id)) : rules.Alike e e₁ :=
  ⟨h₁.frame, hi, h, h₁.orderly, fun id => by rw [h₁.known]; exact hknown id⟩

/-- Only a registered page can be refreshed. -/
theorem isSome_of_refresh {c : PageContent} (hrun : runOn (rules.refresh id) e = (.ok c, e₁)) : (e.page? id).isSome = true := by
  cases hp : e.page? id with
  | some p => rfl
  | none =>
    unfold refresh at hrun
    rw [runOn_get_bind, hp] at hrun
    cases hrun

/-- Refreshing a page leaves a state that answers alike if it gives a content. -/
theorem Alike.of_refresh {c : PageContent} (h : e.Orderly) (hi : e.initialized = true)
    (hrun : runOn (rules.refresh id) e = (.ok c, e₁)) : rules.Alike e e₁ := by
  obtain ⟨p, hp⟩ := Option.isSome_iff_exists.1 (isSome_of_refresh hrun)
  obtain ⟨e₁', hrun', hdevelops⟩ := leadsTo_refresh rules h hi hp
  rw [hrun] at hrun'
  obtain ⟨hgives, rfl⟩ := Prod.mk.inj hrun'
  refine Alike.of_develops h hi hdevelops fun other => ?_
  have hsame := rel_update (fun id => rel_refl rules (rules.view e) (rules.known? e id)) (SamePage.of_gives hgives.symm)
    id other
  rwa [← known?_of_page? hp, Function.update_eq_self] at hsame

/-- Looking for a layout leaves a state that answers alike. -/
theorem Alike.of_findLayout {pageKey name : String} {r : Except TemplateError (Option PageId)} (h : e.Orderly)
    (hi : e.initialized = true) (hrun : runOn (rules.findLayout pageKey name) e = (r, e₁)) : rules.Alike e e₁ := by
  obtain ⟨e₁', hrun', hdevelops, -⟩ := develops_findLayout rules h hi pageKey name
  rw [hrun] at hrun'
  obtain ⟨-, rfl⟩ := Prod.mk.inj hrun'
  exact Alike.of_develops h hi hdevelops fun other => rel_refl rules _ _

end

end PageRules

end PageTemplates
