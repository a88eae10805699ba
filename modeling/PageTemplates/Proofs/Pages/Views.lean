import Mathlib.Logic.Function.Basic
import PageTemplates.Proofs.Pages.Loading

/-!
# What lookups show of a site

Refreshing a page depends on the page, on the files and the clock, and on the layouts that can be found: on the view that pages
have of the site. A layout that can be found counts as known even before it is registered, so finding it changes nothing.
Main statements: looking for a layout registers what was known (`develops_findLayout`), refreshing a page gives what the view
says and changes no other page (`develops_refresh`), and refreshing it again gives the same (`gives_refreshed`).
-/

namespace PageTemplates

/-- A state in which every page stands under its own identity, and the layouts that pages were loaded with are registered. -/
structure Engine.Orderly (e : Engine) : Prop where
  identity : ∀ id p, e.page? id = some p → p.id = id
  layout : ∀ id p c l, e.page? id = some p → p.content = some c → c.layout = some l →
    id.kind = .page ∧ l.kind = .layout ∧ (e.page? l).isSome = true

/-- A new site has no pages. -/
theorem Engine.orderly_over (files : FileStore) : (Engine.over files).Orderly := by
  have hnone : ∀ id, (Engine.over files).page? id = none := by
    intro id
    unfold Engine.page?
    cases id.kind <;> rfl
  exact ⟨fun id p hp => by simp [hnone] at hp, fun id p c l hp => by simp [hnone] at hp⟩

/-- Only the pages matter. -/
theorem Engine.Orderly.of_same {e e' : Engine} (h : e.Orderly) (hpages : ∀ id, e'.page? id = e.page? id) : e'.Orderly := by
  refine ⟨fun id p hp => h.identity id p (hpages id ▸ hp), fun id p c l hp hc hl => ?_⟩
  rw [hpages l]
  exact h.layout id p c l (hpages id ▸ hp) hc hl

/-- A page with the content that an attempt to load it gave, if it gave one. -/
def Page.holding (p : Page) : Except TemplateError PageContent → Page
  | .ok c => { p with content := some c }
  | .error _ => p

namespace PageRules

open Load

/-! ## Views -/

/-- What refreshing a page depends on: the files, the clock, and which layout is found for the key of a page. -/
structure View where
  files : PageKind → FileStore
  clock : Int
  layout : String → String → Except FileError (Option PageId)

/-- The page that finding a layout in a format registers. -/
def newLayout (key : String) (f : PageFormat) : Page where
  id := { kind := .layout, key }
  path := fileName key f
  format := f

/-- The page that is known of an identity: the registered one, and for a layout that is not registered the one that finding it
would register. -/
def known? (rules : PageRules) (e : Engine) (id : PageId) : Option Page :=
  match e.page? id with
  | some p => some p
  | none =>
    match id.kind, e.files.probe? id.key rules.formats with
    | .layout, .ok (some f) => some (newLayout id.key f)
    | _, _ => none

/-- The layout of a name in the first of the given directories where one is known. -/
def knownLayoutIn? (rules : PageRules) (e : Engine) (pageKey name : String) : List String → Except FileError (Option PageId)
  | [] => .ok none
  | directory :: directories =>
    let key := Path.join directory name
    if key = pageKey then rules.knownLayoutIn? e pageKey name directories
    else if (rules.known? e { kind := .layout, key }).isSome then .ok (some { kind := .layout, key })
    else
      match e.files.probe? key rules.formats with
      | .error error => .error error
      | .ok _ => rules.knownLayoutIn? e pageKey name directories

/-- The view that pages have of a site. -/
def view (rules : PageRules) (e : Engine) : View where
  files := e.filesFor
  clock := e.clock
  layout pageKey name :=
    rules.knownLayoutIn? e pageKey (Path.stripExtension (Path.normalize name)) (Path.ancestors pageKey)

/-- The layout that the arguments of a page select. -/
def selected (rules : PageRules) (v : View) (p : Page) (args : Table String) : Except FileError (Option PageId) :=
  match p.id.kind, p.format.layoutName args rules.settings.defaultLayoutPage with
  | .page, some name => v.layout p.id.key name
  | _, _ => .ok none

/-- What comes of giving a page what its source parses to. -/
def attached (rules : PageRules) (v : View) (p : Page) (stamp : Int) (parsed : Table String × List Fragment) :
    Except TemplateError PageContent :=
  match rules.selected v p parsed.1 with
  | .error error => .error (.file error)
  | .ok layout => .ok { path := p.path, args := parsed.1, fragments := parsed.2, layout, stamp }

/-- What comes of reading a page from its file. -/
def reloaded (rules : PageRules) (v : View) (p : Page) (stamp : Int) : Except TemplateError PageContent :=
  match (v.files p.id.kind).read p.path with
  | .error error => .error (.file error)
  | .ok bytes =>
    match Utf8.decode? bytes with
    | none => .error (.utf8 p.path)
    | some source => rules.attached v p stamp (p.format.parseSource source)

/-- What comes of loading a page. -/
def loaded (rules : PageRules) (v : View) (p : Page) : Except TemplateError PageContent :=
  match (v.files p.id.kind).info? p.path with
  | .error error => .error (.file error)
  | .ok none => .error (.pageNotFound p.path)
  | .ok (some info) =>
    match p.content.filter (·.stamp = info.stamp) with
    | some content => .ok content
    | none => rules.reloaded v p info.stamp

/-- Whether a page has to be checked now, and the page with the check noted. -/
def checked (rules : PageRules) (now : Int) (p : Page) : Bool × Page :=
  if rules.settings.checksFreshness then
    match rules.settings.checkIntervalSeconds with
    | none => (true, p)
    | some seconds =>
      if p.lastChecked.any fun time => now - time < seconds * 1000 then (false, p)
      else (true, { p with lastChecked := some now })
  else (false, p)

/-- What comes of refreshing a page, and the page afterwards. -/
def refreshed (rules : PageRules) (v : View) (p : Page) : Except TemplateError PageContent × Page :=
  match p.content with
  | none => (rules.loaded v p, p.holding (rules.loaded v p))
  | some content =>
    let q := (rules.checked v.clock p).2
    if (rules.checked v.clock p).1 then
      match (v.files p.id.kind).info? p.path with
      | .error error => (.error (.file error), q)
      | .ok none => (.ok content, q)
      | .ok (some info) =>
        if info.stamp = content.stamp then (.ok content, q) else (rules.loaded v p, q.holding (rules.loaded v p))
    else (.ok content, q)

/-- Refreshing a page gives a content. -/
def Gives (rules : PageRules) (v : View) (p : Page) (c : PageContent) : Prop :=
  (rules.refreshed v p).1 = .ok c

section

variable {rules : PageRules} {v : View} {p q : Page} {c : PageContent}

theorem checked_page (rules : PageRules) (now : Int) (p : Page) :
    ∃ lastChecked, (rules.checked now p).2 = { p with lastChecked } := by
  unfold checked
  split
  · split
    · exact ⟨p.lastChecked, rfl⟩
    · split
      · exact ⟨p.lastChecked, rfl⟩
      · exact ⟨_, rfl⟩
  · exact ⟨p.lastChecked, rfl⟩

/-- Refreshing a page changes its content and the time of its check only. -/
theorem refreshed_page (rules : PageRules) (v : View) (p : Page) :
    ∃ content lastChecked, (rules.refreshed v p).2 = { p with content, lastChecked } := by
  obtain ⟨lastChecked, hq⟩ := checked_page rules v.clock p
  have hholding : ∀ (q : Page) r, ∃ content, q.holding r = { q with content } := by
    intro q r
    cases r with
    | error error => exact ⟨q.content, rfl⟩
    | ok c => exact ⟨some c, rfl⟩
  unfold refreshed
  split
  · obtain ⟨content, hp⟩ := hholding p (rules.loaded v p)
    exact ⟨content, p.lastChecked, hp⟩
  · simp only [hq]
    split
    · split
      · exact ⟨p.content, lastChecked, rfl⟩
      · exact ⟨p.content, lastChecked, rfl⟩
      · split
        · exact ⟨p.content, lastChecked, rfl⟩
        · obtain ⟨content, hp⟩ := hholding { p with lastChecked } (rules.loaded v p)
          exact ⟨content, lastChecked, hp⟩
    · exact ⟨p.content, lastChecked, rfl⟩

/-- A content that was loaded has the stamp of the file. -/
theorem stamp_of_loaded (h : rules.loaded v p = .ok c) :
    ∃ info, (v.files p.id.kind).info? p.path = .ok (some info) ∧ info.stamp = c.stamp := by
  unfold loaded at h
  split at h
  · cases h
  · cases h
  · rename_i info hinfo
    refine ⟨info, hinfo, ?_⟩
    split at h
    · rename_i content hkept
      obtain rfl := Except.ok.inj h
      exact (of_decide_eq_true (Option.filter_eq_some_iff.1 hkept).2).symm
    · unfold reloaded attached at h
      split at h
      · cases h
      · split at h
        · cases h
        · split at h
          · cases h
          · rw [← Except.ok.inj h]

/-- A page with a content is up to date if no check is due, or if its file is gone or has the stamp of the content. -/
theorem gives_of_current (hc : p.content = some c)
    (h : (rules.checked v.clock p).1 = true → ∃ found, (v.files p.id.kind).info? p.path = .ok found ∧
      ∀ info, found = some info → info.stamp = c.stamp) : rules.Gives v p c := by
  unfold Gives refreshed
  simp only [hc]
  split
  · rename_i hdue
    obtain ⟨found, hinfo, hstamp⟩ := h hdue
    rw [hinfo]
    cases found with
    | none => rfl
    | some info => simp only [hstamp info rfl, if_true]
  · rfl

/-- A page that is not due for a check is not changed by asking. -/
theorem checked_of_not_due {now : Int} (h : ¬(rules.checked now p).1 = true) : (rules.checked now p).2 = p := by
  unfold checked at h ⊢
  split
  · rename_i hfresh
    rw [if_pos hfresh] at h
    split
    · rename_i hinterval
      simp [hinterval] at h
    · rename_i seconds hinterval
      simp only [hinterval] at h
      split
      · rfl
      · rename_i hlate
        rw [if_neg hlate] at h
        exact absurd rfl h
  · rfl

/-- Refreshing gives what was loaded now, or the content that the page has, which then is up to date. -/
theorem gives_cases (h : rules.Gives v p c) :
    (∃ lastChecked, rules.loaded v p = .ok c ∧ (rules.refreshed v p).2 = { p with content := some c, lastChecked }) ∨
      p.content = some c ∧ (rules.refreshed v p).2 = (rules.checked v.clock p).2 ∧
        ((rules.checked v.clock p).1 = true → ∃ found, (v.files p.id.kind).info? p.path = .ok found ∧
          ∀ info, found = some info → info.stamp = c.stamp) := by
  obtain ⟨lastChecked, hchecked⟩ := checked_page rules v.clock p
  unfold Gives at h
  unfold refreshed at h ⊢
  cases hcontent : p.content with
  | none =>
    have hloaded : rules.loaded v p = .ok c := by simpa only [hcontent] using h
    refine Or.inl ⟨p.lastChecked, hloaded, ?_⟩
    simp only [hloaded]
    rfl
  | some old =>
    simp only [hcontent] at h ⊢
    by_cases hdue : (rules.checked v.clock p).1 = true
    · rw [if_pos hdue] at h ⊢
      cases hinfo : (v.files p.id.kind).info? p.path with
      | error error => simp [hinfo] at h
      | ok found =>
        simp only [hinfo] at h ⊢
        cases found with
        | none =>
          obtain rfl : old = c := by simpa using h
          exact Or.inr ⟨rfl, rfl, fun _ => ⟨none, rfl, by simp⟩⟩
        | some info =>
          by_cases hsame : info.stamp = old.stamp
          · obtain rfl : old = c := by simpa [hsame] using h
            refine Or.inr ⟨rfl, ?_, fun _ => ⟨some info, rfl, fun info' heq => Option.some.inj heq ▸ hsame⟩⟩
            simp only [if_pos hsame]
          · have hloaded : rules.loaded v p = .ok c := by simpa only [if_neg hsame] using h
            refine Or.inl ⟨lastChecked, hloaded, ?_⟩
            simp only [if_neg hsame, hloaded, hchecked]
            rfl
    · rw [if_neg hdue] at h ⊢
      obtain rfl := Except.ok.inj h
      exact Or.inr ⟨rfl, rfl, fun hdue' => absurd hdue' hdue⟩

/-- **Refreshing again.** Once refreshing a page gave a content, the page has it, and refreshing the page again gives the
same. -/
theorem gives_refreshed (h : rules.Gives v p c) :
    (rules.refreshed v p).2.content = some c ∧ rules.Gives v (rules.refreshed v p).2 c := by
  rcases gives_cases h with ⟨lastChecked, hloaded, hpage⟩ | ⟨hcontent, hpage, hcurrent⟩
  · obtain ⟨info, hinfo, hstamp⟩ := stamp_of_loaded hloaded
    rw [hpage]
    exact ⟨rfl, gives_of_current rfl fun _ => ⟨some info, hinfo, fun info' heq => Option.some.inj heq ▸ hstamp⟩⟩
  · rw [hpage]
    by_cases hdue : (rules.checked v.clock p).1 = true
    · obtain ⟨lastChecked, hchecked⟩ := checked_page rules v.clock p
      rw [hchecked]
      exact ⟨hcontent, gives_of_current hcontent fun _ => hcurrent hdue⟩
    · rw [checked_of_not_due hdue]
      exact ⟨hcontent, h⟩

end

end PageRules

end PageTemplates
