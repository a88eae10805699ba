import PageTemplates.Proofs.Pages.Views

/-!
# Lookups and what is known

Every lookup leaves a state in which the pages that were known are known still, and of these at most the page that was refreshed
is another. Main statements: looking for a layout gives what the view says and changes nothing that is known
(`develops_findLayout`), and refreshing a page gives what the view says and changes that page only (`develops_refresh`).
-/

namespace PageTemplates

namespace PageRules

open Load

/-! ## States that follow -/

/-- A state follows another: only its pages are others, those that were registered still are, and the given ones are known. -/
structure Develops (rules : PageRules) (e e' : Engine) (known : PageId → Option Page) : Prop where
  frame : e' = { e with pages := e'.pages, oneTimePages := e'.oneTimePages }
  orderly : e'.Orderly
  kept : ∀ id, (e.page? id).isSome = true → (e'.page? id).isSome = true
  known : rules.known? e' = known

section

variable {rules : PageRules} {e e' e'' : Engine} {known known' : PageId → Option Page} {id : PageId} {p q : Page}

theorem Develops.refl (h : e.Orderly) : rules.Develops e e (rules.known? e) :=
  ⟨rfl, h, fun _ h => h, rfl⟩

theorem Develops.trans (h : rules.Develops e e' known) (h' : rules.Develops e' e'' known') : rules.Develops e e'' known' := by
  refine ⟨?_, h'.orderly, fun id hid => h'.kept id (h.kept id hid), h'.known⟩
  rw [h'.frame, h.frame]

theorem known?_of_page? (h : e.page? id = some p) : rules.known? e id = some p := by
  simp only [known?, h]

/-- Only layouts are known before they are registered. -/
theorem known?_eq_page? (h : id.kind ≠ .layout) : rules.known? e id = e.page? id := by
  unfold known?
  cases hp : e.page? id with
  | some p => rfl
  | none => cases hk : id.kind <;> simp_all

theorem isSome_known? (h : (e.page? id).isSome = true) : (rules.known? e id).isSome = true := by
  obtain ⟨p, hp⟩ := Option.isSome_iff_exists.1 h
  rw [known?_of_page? hp]
  rfl

/-- A page that is put is the one that is known in its place. -/
theorem known?_putPage (rules : PageRules) (e : Engine) (p : Page) :
    rules.known? (e.putPage p) = Function.update (rules.known? e) p.id (some p) := by
  funext id
  have hfiles : (e.putPage p).files = e.files := Engine.filesFor_putPage e p .page
  by_cases hid : id = p.id
  · subst hid
    rw [Function.update_self]
    exact known?_of_page? (by rw [Engine.page?_putPage_eq, if_pos rfl])
  · rw [Function.update_of_ne hid]
    simp only [known?, Engine.page?_putPage_eq, if_neg hid, hfiles]

/-- Putting a page keeps a state orderly if the layout that the page was loaded with is registered. -/
theorem develops_putPage (h : e.Orderly)
    (hp : ∀ c l, p.content = some c → c.layout = some l →
      p.id.kind = .page ∧ l.kind = .layout ∧ (e.page? l).isSome = true) :
    rules.Develops e (e.putPage p) (Function.update (rules.known? e) p.id (some p)) := by
  have hkept : ∀ id, (e.page? id).isSome = true → ((e.putPage p).page? id).isSome = true := by
    intro id hid
    rw [Engine.page?_putPage_eq]
    split
    · rfl
    · exact hid
  refine ⟨?_, ⟨fun id q hq => ?_, fun id q c l hq hc hl => ?_⟩, hkept, known?_putPage rules e p⟩
  · unfold Engine.putPage
    split <;> rfl
  · rw [Engine.page?_putPage_eq] at hq
    split at hq
    · rename_i hid
      rw [← Option.some.inj hq, hid]
    · exact h.identity id q hq
  · rw [Engine.page?_putPage_eq] at hq
    split at hq
    · rename_i hid
      obtain rfl := Option.some.inj hq
      obtain ⟨hkind, hlkind, hsome⟩ := hp c l hc hl
      exact ⟨hid ▸ hkind, hlkind, hkept l hsome⟩
    · obtain ⟨hkind, hlkind, hsome⟩ := h.layout id q c l hq hc hl
      exact ⟨hkind, hlkind, hkept l hsome⟩

/-- A page with the content of the one in its place can be put there. -/
theorem develops_putPage_same (h : e.Orderly) (hq : e.page? p.id = some q) (hc : p.content = q.content) :
    rules.Develops e (e.putPage p) (Function.update (rules.known? e) p.id (some p)) :=
  develops_putPage h fun c l hpc hl => h.layout p.id q c l hq (hc ▸ hpc) hl

/-! ## Views that follow -/

/-- Which layouts can be found depends on which are known, and on the files. -/
theorem knownLayoutIn?_congr
    (hknown : ∀ id, id.kind = .layout → (rules.known? e' id).isSome = (rules.known? e id).isSome)
    (hfiles : e'.files = e.files) (pageKey name : String) (directories : List String) :
    rules.knownLayoutIn? e' pageKey name directories = rules.knownLayoutIn? e pageKey name directories := by
  induction directories with
  | nil => rfl
  | cons directory directories ih =>
    have hlayout := hknown { kind := .layout, key := Path.join directory name } rfl
    simp only [knownLayoutIn?, hlayout, hfiles, ih]

/-- States that differ in their pages only have the same view if the same layouts are known. -/
theorem view_eq_of_frame (hframe : e' = { e with pages := e'.pages, oneTimePages := e'.oneTimePages })
    (hknown : ∀ id, id.kind = .layout → (rules.known? e' id).isSome = (rules.known? e id).isSome) :
    rules.view e' = rules.view e := by
  have hfiles : e'.files = e.files := by rw [hframe]
  have hfilesFor : e'.filesFor = e.filesFor := by rw [hframe]; rfl
  have hclock : e'.clock = e.clock := by rw [hframe]
  have hlayout := knownLayoutIn?_congr hknown hfiles
  simp only [view, hfilesFor, hclock, hlayout]

/-- A state that follows has the same view if the same layouts are known. -/
theorem Develops.view_eq (h : rules.Develops e e' known)
    (hknown : ∀ id, id.kind = .layout → (known id).isSome = (rules.known? e id).isSome) : rules.view e' = rules.view e :=
  view_eq_of_frame h.frame (h.known ▸ hknown)

theorem isSome_update (hid : (known id).isSome = true) (p : Page) (other : PageId) :
    (Function.update known id (some p) other).isSome = (known other).isSome := by
  by_cases h : other = id
  · rw [h, Function.update_self, hid]
    rfl
  · rw [Function.update_of_ne h]

end

/-! ## Layouts -/

section

variable {e : Engine}

/-- Registering a layout that can be found changes nothing that is known. -/
theorem develops_register {rules : PageRules} {key : String} {format : PageFormat} (h : e.Orderly)
    (hknown : rules.known? e { kind := .layout, key := key } = some (newLayout key format)) :
    rules.Develops e (e.putPage (newLayout key format)) (rules.known? e) := by
  have hdevelops : rules.Develops e (e.putPage (newLayout key format))
      (Function.update (rules.known? e) { kind := .layout, key := key } (some (newLayout key format))) :=
    develops_putPage h (by simp [newLayout])
  rwa [← hknown, Function.update_eq_self] at hdevelops

theorem page?_register (e : Engine) (key : String) (format : PageFormat) :
    (e.putPage (newLayout key format)).page? { kind := .layout, key := key } = some (newLayout key format) :=
  (Engine.page?_putPage_eq _ _ _).trans (if_pos rfl)

/-- Looking for a layout gives what is known, and what it finds is registered then. -/
theorem develops_findLayoutIn (rules : PageRules) (h : e.Orderly) (pageKey name : String) (directories : List String) :
    ∃ e', runOn (rules.findLayoutIn pageKey name directories) e =
        ((rules.knownLayoutIn? e pageKey name directories).mapError .file, e') ∧
      rules.Develops e e' (rules.known? e) ∧
      ∀ l, rules.knownLayoutIn? e pageKey name directories = .ok (some l) →
        l.kind = .layout ∧ (e'.page? l).isSome = true := by
  induction directories with
  | nil => exact ⟨e, rfl, Develops.refl h, by simp [knownLayoutIn?]⟩
  | cons directory directories ih =>
    rw [findLayoutIn, knownLayoutIn?]
    by_cases hself : Path.join directory name = pageKey
    · simp only [hself, if_true]
      exact ih
    · simp only [hself, if_false, runOn_get_bind]
      cases hp : e.page? { kind := .layout, key := Path.join directory name } with
      | some p =>
        simp only [known?_of_page? hp, Option.isSome_some, if_true]
        refine ⟨e, rfl, Develops.refl h, fun l hl => ?_⟩
        obtain rfl : { kind := .layout, key := Path.join directory name } = l := by simpa using hl
        exact ⟨rfl, by rw [hp]; rfl⟩
      | none =>
        simp only [Option.isSome_none, Bool.false_eq_true, if_false]
        cases hprobe : e.files.probe? (Path.join directory name) rules.formats with
        | error error =>
          have hunknown : rules.known? e { kind := .layout, key := Path.join directory name } = none := by
            simp only [known?, hp, hprobe]
          simp only [hunknown, Option.isSome_none, Bool.false_eq_true, if_false]
          exact ⟨e, runOn_probe_bind_error hprobe _, Develops.refl h, by simp⟩
        | ok found =>
          rw [runOn_probe_bind_ok hprobe]
          cases found with
          | none =>
            have hunknown : rules.known? e { kind := .layout, key := Path.join directory name } = none := by
              simp only [known?, hp, hprobe]
            simp only [hunknown, Option.isSome_none, Bool.false_eq_true, if_false]
            exact ih
          | some f =>
            have hknown : rules.known? e { kind := .layout, key := Path.join directory name } =
                some (newLayout (Path.join directory name) f) := by
              simp only [known?, hp, hprobe]
            simp only [hknown, Option.isSome_some, if_true]
            refine ⟨_, rfl, develops_register h hknown, fun l hl => ?_⟩
            obtain rfl : { kind := .layout, key := Path.join directory name } = l := by simpa using hl
            exact ⟨rfl, Option.isSome_iff_exists.2 ⟨_, page?_register e _ f⟩⟩

/-- Looking for the layout of a page gives what the view says. -/
theorem develops_findLayout (rules : PageRules) (h : e.Orderly) (hi : e.initialized = true) (pageKey name : String) :
    ∃ e', runOn (rules.findLayout pageKey name) e = (((rules.view e).layout pageKey name).mapError .file, e') ∧
      rules.Develops e e' (rules.known? e) ∧
      ∀ l, (rules.view e).layout pageKey name = .ok (some l) → l.kind = .layout ∧ (e'.page? l).isSome = true := by
  obtain ⟨e', hrun, hdevelops⟩ := rules.develops_findLayoutIn h pageKey (Path.stripExtension (Path.normalize name))
    (Path.ancestors pageKey)
  exact ⟨e', (runOn_bind_ok (runOn_requireInitialized hi)).trans hrun, hdevelops⟩

/-- Looking for the layout that the arguments of a page select gives what the view says. Only a page that was asked for gets
one. -/
theorem develops_selectLayout (rules : PageRules) (h : e.Orderly) (hi : e.initialized = true) (p : Page)
    (args : Table String) :
    ∃ e', runOn (rules.selectLayout p args) e = ((rules.selected (rules.view e) p args).mapError .file, e') ∧
      rules.Develops e e' (rules.known? e) ∧
      ∀ l, rules.selected (rules.view e) p args = .ok (some l) →
        p.id.kind = .page ∧ l.kind = .layout ∧ (e'.page? l).isSome = true := by
  unfold selectLayout selected
  cases p.id.kind with
  | page =>
    cases p.format.layoutName args rules.settings.defaultLayoutPage with
    | none => exact ⟨e, rfl, Develops.refl h, by simp⟩
    | some name =>
      obtain ⟨e', hrun, hdevelops, hfound⟩ := develops_findLayout rules h hi p.id.key name
      exact ⟨e', hrun, hdevelops, fun l hl => ⟨rfl, hfound l hl⟩⟩
  | layout => exact ⟨e, rfl, Develops.refl h, by simp⟩
  | oneTime => exact ⟨e, rfl, Develops.refl h, by simp⟩

/-! ## Loading -/

/-- An action gives an outcome, and leaves a state in which a page is known in the place of another, and all others as before. -/
def LeadsTo {α : Type} (rules : PageRules) (e : Engine) (x : Load α) (id : PageId) (r : Except TemplateError α) (q : Page) :
    Prop :=
  ∃ e', runOn x e = (r, e') ∧ rules.Develops e e' (Function.update (rules.known? e) id (some q))

section

variable {α β : Type} {rules : PageRules} {p q : Page}

theorem Develops.of_same {e' : Engine} {id : PageId} (h : rules.Develops e e' (rules.known? e)) (hq : e.page? id = some q) :
    rules.Develops e e' (Function.update (rules.known? e) id (some q)) := by
  have hsame : Function.update (rules.known? e) id (some q) = rules.known? e := by
    rw [← known?_of_page? hq, Function.update_eq_self]
  rwa [hsame]

/-- An action that changes nothing leaves the page that is there. -/
theorem LeadsTo.same {x : Load α} {id : PageId} {r : Except TemplateError α} (h : e.Orderly) (hq : e.page? id = some q)
    (hrun : runOn x e = (r, e)) : rules.LeadsTo e x id r q :=
  ⟨e, hrun, (Develops.refl h).of_same hq⟩

/-- A page that is known in the place of a registered one is registered. -/
theorem Develops.page? {e' : Engine} {id : PageId} (h : rules.Develops e e' (Function.update (rules.known? e) id (some q)))
    (hp : e.page? id = some p) : e'.page? id = some q := by
  obtain ⟨q', hq'⟩ := Option.isSome_iff_exists.1 (h.kept id (by rw [hp]; rfl))
  have hknown : rules.known? e' id = some q' := known?_of_page? hq'
  rw [h.known, Function.update_self] at hknown
  rw [hq', hknown]

/-- What comes next finds the page that is in the place now, and the same view. -/
theorem LeadsTo.bind {x : Load α} {f : α → Load β} {id : PageId} {a : α} {r : Except TemplateError β} {q' : Page}
    (hx : rules.LeadsTo e x id (.ok a) q) (hp : e.page? id = some p) (hi : e.initialized = true)
    (hf : ∀ e₁ : Engine, e₁.Orderly → e₁.initialized = true → rules.view e₁ = rules.view e → e₁.page? id = some q →
      rules.LeadsTo e₁ (f a) id r q') : rules.LeadsTo e (x >>= f) id r q' := by
  obtain ⟨e₁, hrun, h₁⟩ := hx
  have hknown : (rules.known? e id).isSome = true := isSome_known? (by rw [hp]; rfl)
  obtain ⟨e₂, hrun', h₂⟩ := hf e₁ h₁.orderly (by rw [h₁.frame]; exact hi)
    (h₁.view_eq fun other _ => isSome_update hknown q other) (h₁.page? hp)
  rw [h₁.known, Function.update_idem] at h₂
  exact ⟨e₂, (runOn_bind_ok hrun).trans hrun', h₁.trans h₂⟩

/-- A page that is known in the same place as before can be given a content. -/
theorem Develops.putContent {e₁ : Engine} {c : PageContent} (h₁ : rules.Develops e e₁ (rules.known? e)) (h : e.Orderly)
    (hq : e.page? p.id = some q)
    (hl : ∀ l, c.layout = some l → p.id.kind = .page ∧ l.kind = .layout ∧ (e₁.page? l).isSome = true) :
    rules.Develops e (e₁.putPage { (e₁.page? p.id).getD p with content := some c })
      (Function.update (rules.known? e) p.id (some { q with content := some c })) := by
  have hqid : q.id = p.id := h.identity p.id q hq
  have hq₁ : e₁.page? p.id = some q := (h₁.of_same hq).page? hq
  have hdevelops : rules.Develops e₁ (e₁.putPage { q with content := some c })
      (Function.update (rules.known? e₁) q.id (some { q with content := some c })) := by
    refine develops_putPage h₁.orderly fun c' l hc' hcl => ?_
    obtain rfl := Option.some.inj hc'
    exact hqid ▸ hl l hcl
  rw [hq₁, ← h₁.known, ← hqid]
  exact h₁.trans hdevelops

/-- Giving a page what its source parses to, with the layout that the view shows. -/
theorem leadsTo_attach (h : e.Orderly) (hi : e.initialized = true) (hq : e.page? p.id = some q) (stamp : Int)
    (parsed : Table String × List Fragment) :
    rules.LeadsTo e (rules.attach p stamp parsed) p.id (rules.attached (rules.view e) p stamp parsed)
      (q.holding (rules.attached (rules.view e) p stamp parsed)) := by
  obtain ⟨e₁, hsearch, h₁, hfound⟩ := develops_selectLayout rules h hi p parsed.1
  rw [attach_eq, attached]
  cases hlayout : rules.selected (rules.view e) p parsed.1 with
  | error error =>
    rw [hlayout] at hsearch
    exact ⟨e₁, runOn_bind_error hsearch, h₁.of_same hq⟩
  | ok layout =>
    rw [hlayout] at hsearch hfound
    exact ⟨_, runOn_bind_ok hsearch, h₁.putContent h hq fun l hl => hfound l (congrArg Except.ok hl)⟩

/-- Loading a page gives what the view says. -/
theorem leadsTo_load (rules : PageRules) (h : e.Orderly) (hi : e.initialized = true) (hq : e.page? p.id = some q) (hc : q.content = p.content) :
    rules.LeadsTo e (rules.load p) p.id (rules.loaded (rules.view e) p) (q.holding (rules.loaded (rules.view e) p)) := by
  have hfiles : (rules.view e).files = e.filesFor := rfl
  rw [load_eq]
  unfold LeadsTo loaded
  simp only [runOn_get_bind, hfiles]
  cases hinfo : (e.filesFor p.id.kind).info? p.path with
  | error error =>
    rw [runOn_ofFile_error_bind]
    exact LeadsTo.same h hq (x := throw _) rfl
  | ok found =>
    rw [runOn_ofFile_ok_bind]
    cases found with
    | none => exact LeadsTo.same h hq rfl
    | some info =>
      simp only
      cases hkept : p.content.filter (·.stamp = info.stamp) with
      | some content =>
        -- The page has the content already.
        have hcontent := (Option.filter_eq_some_iff.1 hkept).1
        have hsame : q.holding (.ok content) = q := by
          rw [Page.holding, ← hcontent, ← hc]
        simp only [hsame]
        exact LeadsTo.same h hq rfl
      | none =>
        unfold reload reloaded
        simp only [hfiles]
        cases hbytes : (e.filesFor p.id.kind).read p.path with
        | error error =>
          rw [runOn_ofFile_error_bind]
          exact LeadsTo.same h hq (x := throw _) rfl
        | ok bytes =>
          rw [runOn_ofFile_ok_bind]
          simp only
          cases hsource : Utf8.decode? bytes with
          | none => exact LeadsTo.same h hq rfl
          | some source => exact leadsTo_attach h hi hq info.stamp (p.format.parseSource source)

/-- Asking whether a check is due notes the check if it is. -/
theorem leadsTo_dueForCheck (h : e.Orderly) (hp : e.page? p.id = some p) :
    rules.LeadsTo e (rules.dueForCheck p) p.id (.ok (rules.checked e.clock p).1) (rules.checked e.clock p).2 := by
  have hnote : rules.LeadsTo e (do
      modify (·.putPage { p with lastChecked := some e.clock })
      return true) p.id (.ok true) { p with lastChecked := some e.clock } :=
    ⟨_, rfl, develops_putPage_same h (p := { p with lastChecked := some e.clock }) hp rfl⟩
  have hkeep : ∀ due : Bool, rules.LeadsTo e (Pure.pure due) p.id (.ok due) p := fun due => LeadsTo.same h hp rfl
  unfold dueForCheck checked
  cases rules.settings.checksFreshness with
  | false => exact hkeep false
  | true =>
    simp only [Bool.not_true, Bool.false_eq_true, if_false, if_true]
    cases rules.settings.checkIntervalSeconds with
    | none => exact hkeep true
    | some seconds =>
      unfold LeadsTo at hnote hkeep ⊢
      simp only [runOn_get_bind]
      cases hlast : p.lastChecked with
      | none => exact hnote
      | some time =>
        simp only [Option.any_some]
        by_cases hearly : e.clock - time < seconds * 1000
        · simp only [hearly, decide_true, if_true]
          exact hkeep false
        · simp only [hearly, decide_false, Bool.false_eq_true, if_false]
          exact hnote

/-- The content of a page after its check: loaded anew if a check was due and the file changed. -/
def recheck (rules : PageRules) (p : Page) (content : PageContent) (due : Bool) : Load PageContent :=
  if due then do
    match ← Load.ofFile (((← get).filesFor p.id.kind).info? p.path) with
    | some info => if info.stamp = content.stamp then return content else rules.load p
    | none => return content
  else return content

/-- A page that was checked has the content that refreshing gives. -/
theorem leadsTo_recheck (rules : PageRules) {content : PageContent} (h : e.Orderly) (hi : e.initialized = true)
    (hcontent : p.content = some content) (hq : e.page? p.id = some (rules.checked (rules.view e).clock p).2) :
    rules.LeadsTo e (rules.recheck p content (rules.checked (rules.view e).clock p).1) p.id
      (rules.refreshed (rules.view e) p).1 (rules.refreshed (rules.view e) p).2 := by
  have hfiles : (rules.view e).files = e.filesFor := rfl
  unfold refreshed
  simp only [hcontent, hfiles]
  cases (rules.checked (rules.view e).clock p).1 with
  | false => exact LeadsTo.same h hq rfl
  | true =>
    unfold LeadsTo
    simp only [recheck, if_true, runOn_get_bind]
    cases (e.filesFor p.id.kind).info? p.path with
    | error error => exact LeadsTo.same h hq (x := throw _) rfl
    | ok found =>
      rw [runOn_ofFile_ok_bind]
      cases found with
      | none => exact LeadsTo.same h hq rfl
      | some info =>
        by_cases hsame : info.stamp = content.stamp
        · simp only [if_pos hsame]
          exact LeadsTo.same h hq rfl
        · simp only [if_neg hsame]
          obtain ⟨lastChecked, hpage⟩ := checked_page rules (rules.view e).clock p
          exact leadsTo_load rules h hi hq (by rw [hpage])

/-- **Refreshing.** Refreshing a registered page gives what the view says, and changes that page only. -/
theorem leadsTo_refresh (rules : PageRules) {id : PageId} (h : e.Orderly) (hi : e.initialized = true) (hp : e.page? id = some p) :
    rules.LeadsTo e (rules.refresh id) id (rules.refreshed (rules.view e) p).1 (rules.refreshed (rules.view e) p).2 := by
  obtain rfl := h.identity id p hp
  unfold refresh LeadsTo
  simp only [runOn_get_bind, hp]
  cases hcontent : p.content with
  | none =>
    simp only [refreshed, hcontent]
    exact rules.leadsTo_load h hi hp rfl
  | some content =>
    have hnext : rules.LeadsTo e (rules.dueForCheck p >>= rules.recheck p content) p.id
        (rules.refreshed (rules.view e) p).1 (rules.refreshed (rules.view e) p).2 := by
      refine (leadsTo_dueForCheck h hp).bind hp hi fun e₁ h₁ hi₁ hview hq => ?_
      -- The check changed the page only: what is seen is what was seen before it.
      have hclock : e.clock = (rules.view e₁).clock := congrArg View.clock hview.symm
      rw [hclock] at hq ⊢
      rw [← hview]
      exact leadsTo_recheck rules h₁ hi₁ hcontent hq
    exact hnext

end

end

end PageRules

end PageTemplates
