import PageTemplates.Proofs.Pages.Lookup

/-!
# What a site knows of its pages

Pages are registered once and loaded when they are needed, so a site answers from what it remembers. It remembers nothing
false: every registered page has a file, and a content with the stamp of its file is what the file reads as (`Consistent`).
Main statements: refreshing a page and looking a path up give the answers of the files, and leave the site consistent
(`answers_refresh`, `answers_initPage`).
-/

namespace PageTemplates

/-- A new site over some files. -/
def Engine.over (files : FileStore) : Engine :=
  { initialized := true, files }

/-! ## Putting pages -/

namespace Engine

/-- The page that putting a page leaves in a place. -/
theorem page?_putPage_eq (e : Engine) (p : Page) (id : PageId) :
    (e.putPage p).page? id = if id = p.id then some p else e.page? id := by
  unfold putPage page?
  by_cases hid : id = p.id
  · subst hid
    cases hk : p.id.kind <;> simp only [Table.get?_insert, if_true]
  · rw [if_neg hid]
    cases hp : p.id.kind <;> cases hk : id.kind <;> simp only [Table.get?_insert, if_neg hid]

theorem page?_putPage {e : Engine} {p q : Page} {id : PageId} (h : (e.putPage p).page? id = some q) :
    q = p ∨ e.page? id = some q := by
  rw [page?_putPage_eq] at h
  split at h
  · exact Or.inl (Option.some.inj h).symm
  · exact Or.inr h

theorem filesFor_putPage (e : Engine) (p : Page) (kind : PageKind) : (e.putPage p).filesFor kind = e.filesFor kind := by
  unfold putPage
  split <;> cases kind <;> rfl

end Engine

namespace PageRules

open Load

/-! ## The invariant -/

/-- What is known of a page agrees with the files. A content may be older than its file, but with the same stamp it is what the
file reads as, and the layout that it points to is known. -/
structure Faithful (rules : PageRules) (files : FileStore) (pages : Table Page PageId) (id : PageId) (p : Page) : Prop where
  kind : id.kind ≠ .oneTime
  identity : p.id = id
  path : p.path = fileName id.key p.format
  member : p.format ∈ rules.formats
  file : ∃ info, files.info? p.path = .ok (some info) ∧
    ∀ c, p.content = some c → c.stamp ≤ info.stamp ∧ (c.stamp = info.stamp → rules.read? files id p.format = .ok c)
  probed : id.kind = .layout → files.probe? id.key rules.formats = .ok (some p.format)
  layout : ∀ c l, p.content = some c → c.layout = some l → l.kind = .layout ∧ (Table.get? pages l).isSome = true

/-- What is known of every page agrees with the files. -/
def Consistent (rules : PageRules) (files : FileStore) (pages : Table Page PageId) : Prop :=
  ∀ id p, Table.get? pages id = some p → rules.Faithful files pages id p

/-- A content has the stamp of the file at a path. -/
def Stamped (files : FileStore) (path : String) (c : PageContent) : Prop :=
  ∀ info, files.info? path = .ok (some info) → c.stamp = info.stamp

/-- Every content has the stamp of its file. -/
def Settled (files : FileStore) (pages : Table Page PageId) : Prop :=
  ∀ id p c, Table.get? pages id = some p → p.content = some c → Stamped files p.path c

/-- Every access to a page checks its file. -/
def AlwaysChecks (rules : PageRules) : Prop :=
  rules.settings.checksFreshness = true ∧ rules.settings.checkIntervalSeconds = none

/-- A site that can be asked for pages: its registrations are closed, what it knows agrees with the files, and it checks them at
every access unless nothing changed. -/
structure Ready (rules : PageRules) (e : Engine) : Prop where
  initialized : e.initialized = true
  consistent : rules.Consistent e.files e.pages
  current : rules.AlwaysChecks ∨ Settled e.files e.pages

/-- A new site remembers nothing, so nothing false. -/
theorem ready_over (rules : PageRules) (files : FileStore) : rules.Ready (Engine.over files) :=
  ⟨rfl, fun _ _ h => by simp [Engine.over] at h, Or.inr fun _ _ _ h => by simp [Engine.over] at h⟩

theorem Ready.withClock {rules : PageRules} {e : Engine} (h : rules.Ready e) (clock : Int) : rules.Ready { e with clock } :=
  ⟨h.initialized, h.consistent, h.current⟩

/-! ## What an action leaves -/

/-- A page of a format has a content. -/
def Holds (e : Engine) (id : PageId) (f : PageFormat) (c : PageContent) : Prop :=
  ∃ p, Table.get? e.pages id = some p ∧ p.format = f ∧ p.content = some c

/-- A state with at least the pages of another, and in all else the same. The pages have the same formats, and the same contents
where these are what the files read as. -/
structure Grows (rules : PageRules) (e e' : Engine) : Prop where
  frame : e' = { e with pages := e'.pages }
  kept : ∀ id p, Table.get? e.pages id = some p → ∃ p', Table.get? e'.pages id = some p' ∧ p'.format = p.format
  held : ∀ id f c, rules.read? e.files id f = .ok c → Holds e id f c → Holds e' id f c

/-- A state after lookups that opened no page in the role of one that is asked for. -/
structure Later (rules : PageRules) (e e' : Engine) : Prop extends rules.Grows e e' where
  asked : ∀ key, Table.get? e.pages { kind := .page, key } = none → Table.get? e'.pages { kind := .page, key } = none

section

variable {rules : PageRules} {e e' e'' : Engine}

theorem Grows.refl (rules : PageRules) (e : Engine) : rules.Grows e e :=
  ⟨rfl, fun _ p h => ⟨p, h, rfl⟩, fun _ _ _ _ h => h⟩

theorem Grows.files (h : rules.Grows e e') : e'.files = e.files := by
  rw [h.frame]

theorem Grows.trans (h : rules.Grows e e') (h' : rules.Grows e' e'') : rules.Grows e e'' := by
  refine ⟨?_, fun id p hp => ?_, fun id f c hr hc => ?_⟩
  · rw [h'.frame, h.frame]
  · obtain ⟨p', hp', hf⟩ := h.kept id p hp
    obtain ⟨p'', hp'', hf'⟩ := h'.kept id p' hp'
    exact ⟨p'', hp'', hf'.trans hf⟩
  · exact h'.held id f c (h.files.symm ▸ hr) (h.held id f c hr hc)

theorem Grows.isSome (h : rules.Grows e e') {id : PageId} (hs : (Table.get? e.pages id).isSome = true) :
    (Table.get? e'.pages id).isSome = true := by
  obtain ⟨p, hp⟩ := Option.isSome_iff_exists.1 hs
  obtain ⟨p', hp', -⟩ := h.kept id p hp
  rw [hp']
  rfl

theorem Later.refl (rules : PageRules) (e : Engine) : rules.Later e e :=
  ⟨Grows.refl rules e, fun _ h => h⟩

theorem Later.trans (h : rules.Later e e') (h' : rules.Later e' e'') : rules.Later e e'' :=
  ⟨h.toGrows.trans h'.toGrows, fun key hk => h'.asked key (h.asked key hk)⟩

end

/-- An action answers, and leaves a later state that can be asked again. -/
structure Answers {α : Type} (rules : PageRules) (e : Engine) (x : Load α) (r : Except TemplateError α) (e' : Engine) :
    Prop where
  run : runOn x e = (r, e')
  ready : rules.Ready e'
  later : rules.Later e e'

section

variable {α β : Type} {rules : PageRules} {e e' e'' : Engine}

theorem Answers.pure (h : rules.Ready e) (a : α) : rules.Answers e (Pure.pure a) (.ok a) e :=
  ⟨rfl, h, Later.refl rules e⟩

theorem Answers.throw (h : rules.Ready e) (error : TemplateError) :
    rules.Answers e (MonadExcept.throw error : Load α) (.error error) e :=
  ⟨rfl, h, Later.refl rules e⟩

theorem Answers.get (h : rules.Ready e) : rules.Answers e MonadState.get (.ok e) e :=
  ⟨rfl, h, Later.refl rules e⟩

theorem Answers.ofFile (h : rules.Ready e) (r : Except FileError α) :
    rules.Answers e (Load.ofFile r) (r.mapError .file) e :=
  ⟨runOn_ofFile r e, h, Later.refl rules e⟩

theorem Answers.bind {x : Load α} {f : α → Load β} {a : α} {r : Except TemplateError β}
    (h : rules.Answers e x (.ok a) e') (h' : rules.Answers e' (f a) r e'') : rules.Answers e (x >>= f) r e'' :=
  ⟨(runOn_bind_ok h.run).trans h'.run, h'.ready, h.later.trans h'.later⟩

theorem Answers.bind_error {x : Load α} {f : α → Load β} {error : TemplateError}
    (h : rules.Answers e x (.error error) e') : rules.Answers e (x >>= f) (.error error) e' :=
  ⟨runOn_bind_error h.run, h.ready, h.later⟩

theorem Answers.discard {x : Load α} {r : Except TemplateError α} (h : rules.Answers e x r e') :
    rules.Answers e (Functor.discard x) (r.map fun _ => ()) e' :=
  ⟨runOn_discard h.run, h.ready, h.later⟩

end

/-! ## Pages in the registry -/

theorem page?_eq {e : Engine} {id : PageId} (h : id.kind ≠ .oneTime) : e.page? id = Table.get? e.pages id := by
  unfold Engine.page?
  cases hk : id.kind <;> simp_all

theorem putPage_eq {e : Engine} {p : Page} (h : p.id.kind ≠ .oneTime) :
    e.putPage p = { e with pages := Table.insert e.pages p.id p } := by
  unfold Engine.putPage
  cases hk : p.id.kind <;> simp_all

theorem filesFor_eq {e : Engine} {kind : PageKind} (h : kind ≠ .oneTime) : e.filesFor kind = e.files := by
  cases kind with
  | page => rfl
  | layout => rfl
  | oneTime => exact absurd rfl h

/-- The page that an insertion puts in a place, and those in the other places. -/
theorem get?_insert_cases {pages : Table Page PageId} {id id' : PageId} {p p' : Page}
    (h : Table.get? (Table.insert pages id p) id' = some p') :
    (id' = id ∧ p' = p) ∨ (id' ≠ id ∧ Table.get? pages id' = some p') := by
  rw [Table.get?_insert] at h
  by_cases hid : id' = id
  · rw [if_pos hid] at h
    exact Or.inl ⟨hid, (Option.some.inj h).symm⟩
  · rw [if_neg hid] at h
    exact Or.inr ⟨hid, h⟩

theorem isSome_get?_insert {pages : Table Page PageId} {id id' : PageId} {p : Page}
    (h : (Table.get? pages id').isSome = true) : (Table.get? (Table.insert pages id p) id').isSome = true := by
  rw [Table.get?_insert]
  split
  · rfl
  · exact h

/-- A page is put in its place: the site stays consistent if what is known of that page agrees with the files. -/
theorem Ready.putPage {rules : PageRules} {e : Engine} {p : Page} (h : rules.Ready e)
    (hp : rules.Faithful e.files (Table.insert e.pages p.id p) p.id p)
    (hs : Settled e.files e.pages → ∀ c, p.content = some c → Stamped e.files p.path c) :
    rules.Ready (e.putPage p) := by
  rw [putPage_eq hp.kind]
  refine ⟨h.initialized, fun id q hq => ?_, h.current.imp_right fun hset id q c hq => ?_⟩
  · rcases get?_insert_cases hq with ⟨rfl, rfl⟩ | ⟨-, hq⟩
    · exact hp
    · have hf := h.consistent id q hq
      refine { hf with layout := fun c l hc hl => ?_ }
      obtain ⟨hk, hl⟩ := hf.layout c l hc hl
      exact ⟨hk, isSome_get?_insert hl⟩
  · rcases get?_insert_cases hq with ⟨rfl, rfl⟩ | ⟨-, hq⟩
    · exact hs hset c
    · exact hset id q c hq

/-- Registering a page that is not there, for a format that has a file for it. -/
theorem answers_register {rules : PageRules} {e : Engine} {f : PageFormat} {info : FileInfo} (id : PageId)
    (h : rules.Ready e) (hk : id.kind ≠ .oneTime) (hf : f ∈ rules.formats)
    (hi : e.files.info? (fileName id.key f) = .ok (some info))
    (hl : id.kind = .layout → e.files.probe? id.key rules.formats = .ok (some f)) :
    ∃ e', runOn (register id.kind id.key f) e = (.ok id, e') ∧ rules.Ready e' ∧
      e' = { e with pages := Table.insert e.pages id { id, path := fileName id.key f, format := f } } := by
  refine ⟨_, rfl, h.putPage ⟨hk, rfl, rfl, hf, ⟨info, hi, ?_⟩, hl, ?_⟩ ?_, putPage_eq hk⟩
  · simp
  · simp
  · simp

/-- Putting a page in a place that is free changes none of the others. -/
theorem grows_insert (rules : PageRules) {e : Engine} {id : PageId} {p : Page} (h : Table.get? e.pages id = none) :
    rules.Grows e { e with pages := Table.insert e.pages id p } := by
  have hget : ∀ id' q, Table.get? e.pages id' = some q → Table.get? (Table.insert e.pages id p) id' = some q := by
    intro id' q hq
    have hid : id' ≠ id := by
      rintro rfl
      rw [h] at hq
      simp at hq
    rw [Table.get?_insert, if_neg hid, hq]
  refine ⟨rfl, fun id' q hq => ⟨q, hget id' q hq, rfl⟩, fun id' f c _ hc => ?_⟩
  obtain ⟨q, hq, hqc⟩ := hc
  exact ⟨q, hget id' q hq, hqc⟩

theorem later_insert_layout (rules : PageRules) {e : Engine} {key : String} {p : Page}
    (h : Table.get? e.pages { kind := .layout, key } = none) :
    rules.Later e { e with pages := Table.insert e.pages { kind := .layout, key } p } := by
  refine ⟨grows_insert rules h, fun key' hk => ?_⟩
  rw [Table.get?_insert, if_neg (by simp), hk]

/-! ## Layouts -/

/-- Looking for a layout finds what the files say, and what it finds is registered. -/
theorem answers_findLayoutIn {rules : PageRules} {e : Engine} (h : rules.Ready e) (pageKey name : String)
    (directories : List String) :
    ∃ e', rules.Answers e (rules.findLayoutIn pageKey name directories)
        ((rules.layoutIn? e.files pageKey name directories).mapError .file) e' ∧
      ∀ l, rules.layoutIn? e.files pageKey name directories = .ok (some l) →
        l.kind = .layout ∧ (Table.get? e'.pages l).isSome = true := by
  induction directories with
  | nil => exact ⟨e, Answers.pure h _, by simp [layoutIn?]⟩
  | cons directory directories ih =>
    rw [findLayoutIn, layoutIn?]
    by_cases hself : Path.join directory name = pageKey
    · simp only [hself, if_true]
      exact ih
    · simp only [hself, if_false]
      have hpage : e.page? { kind := .layout, key := Path.join directory name } =
          Table.get? e.pages { kind := .layout, key := Path.join directory name } := page?_eq (by simp)
      cases hp : Table.get? e.pages { kind := .layout, key := Path.join directory name } with
      | some p =>
        have hprobe := (h.consistent _ p hp).probed rfl
        refine ⟨e, ⟨?_, h, Later.refl rules e⟩, ?_⟩
        · rw [runOn_get_bind, hpage, hp, hprobe]
          rfl
        · rw [hprobe]
          rintro l hl
          obtain rfl : { kind := .layout, key := Path.join directory name } = l := by simpa using hl
          exact ⟨rfl, by rw [hp]; rfl⟩
      | none =>
        cases hprobe : e.files.probe? (Path.join directory name) rules.formats with
        | error error =>
          refine ⟨e, ⟨?_, h, Later.refl rules e⟩, by simp⟩
          rw [runOn_get_bind, hpage, hp]
          exact runOn_probe_bind_error hprobe _
        | ok found =>
          cases found with
          | none =>
            obtain ⟨e', ha, hl⟩ := ih
            refine ⟨e', ⟨?_, ha.ready, ha.later⟩, hl⟩
            rw [runOn_get_bind, hpage, hp]
            exact (runOn_probe_bind_ok hprobe _).trans ha.run
          | some f =>
            obtain ⟨hf, info, hi⟩ := probe?_eq_some hprobe
            obtain ⟨e', hr, hready, he'⟩ := answers_register
              { kind := .layout, key := Path.join directory name } h (by simp) hf hi fun _ => hprobe
            refine ⟨e', ⟨?_, hready, he' ▸ later_insert_layout rules hp⟩, ?_⟩
            · rw [runOn_get_bind, hpage, hp]
              exact (runOn_probe_bind_ok hprobe _).trans (runOn_bind_ok hr)
            · rintro l hl
              obtain rfl : { kind := .layout, key := Path.join directory name } = l := by simpa using hl
              rw [he', Table.get?_insert, if_pos rfl]
              exact ⟨rfl, rfl⟩

theorem answers_findLayout {rules : PageRules} {e : Engine} (h : rules.Ready e) (pageKey name : String) :
    ∃ e', rules.Answers e (rules.findLayout pageKey name) ((rules.layout? e.files pageKey name).mapError .file) e' ∧
      ∀ l, rules.layout? e.files pageKey name = .ok (some l) → l.kind = .layout ∧ (Table.get? e'.pages l).isSome = true := by
  obtain ⟨e', ha, hl⟩ := answers_findLayoutIn h pageKey (Path.stripExtension (Path.normalize name)) (Path.ancestors pageKey)
  have hinit : rules.Answers e Load.requireInitialized (.ok ()) e :=
    ⟨runOn_requireInitialized h.initialized, h, Later.refl rules e⟩
  exact ⟨e', hinit.bind ha, hl⟩

/-! ## Loading -/

theorem Faithful.later {rules : PageRules} {e e' : Engine} {id : PageId} {p : Page} (hf : rules.Faithful e.files e.pages id p)
    (h : rules.Later e e') : rules.Faithful e'.files e'.pages id p := by
  rw [h.files]
  refine { hf with layout := fun c l hc hl => ?_ }
  obtain ⟨hk, hs⟩ := hf.layout c l hc hl
  exact ⟨hk, h.isSome hs⟩

theorem get?_putPage_self {e : Engine} {p : Page} (hk : p.id.kind ≠ .oneTime) :
    Table.get? (e.putPage p).pages p.id = some p := by
  rw [putPage_eq hk, Table.get?_insert, if_pos rfl]

/-- A page is put in the place of one with the same format. Nothing else changes if its content is the one that the file reads
as wherever the other's was. -/
theorem later_putPage {rules : PageRules} {e : Engine} {p q : Page} (hk : p.id.kind ≠ .oneTime)
    (hq : Table.get? e.pages p.id = some q) (hf : p.format = q.format)
    (hc : ∀ c, rules.read? e.files p.id q.format = .ok c → q.content = some c → p.content = some c) :
    rules.Later e (e.putPage p) := by
  rw [putPage_eq hk]
  have hself : Table.get? (Table.insert e.pages p.id p) p.id = some p := by rw [Table.get?_insert, if_pos rfl]
  refine ⟨⟨rfl, fun id r hr => ?_, fun id f c hread hheld => ?_⟩, fun key hn => ?_⟩
  · by_cases hid : id = p.id
    · subst hid
      rw [hq] at hr
      obtain rfl := Option.some.inj hr
      exact ⟨p, hself, hf⟩
    · exact ⟨r, by rw [Table.get?_insert, if_neg hid, hr], rfl⟩
  · obtain ⟨r, hr, rfl, hrc⟩ := hheld
    by_cases hid : id = p.id
    · subst hid
      rw [hq] at hr
      obtain rfl := Option.some.inj hr
      exact ⟨p, hself, hf, hc c hread hrc⟩
    · exact ⟨r, by rw [Table.get?_insert, if_neg hid, hr], rfl, hrc⟩
  · have hid : { kind := .page, key } ≠ p.id := by
      intro hid
      rw [hid, hq] at hn
      simp at hn
    rw [Table.get?_insert, if_neg hid, hn]

/-- A registered page gets the content that its file reads as. -/
theorem ready_putContent {rules : PageRules} {e : Engine} {id : PageId} {q : Page} {c : PageContent} (h : rules.Ready e)
    (hq : Table.get? e.pages id = some q) (hr : rules.read? e.files id q.format = .ok c)
    (hl : ∀ l, c.layout = some l → l.kind = .layout ∧ (Table.get? e.pages l).isSome = true)
    (hs : Stamped e.files q.path c) :
    rules.Ready (e.putPage { q with content := some c }) ∧ rules.Later e (e.putPage { q with content := some c }) ∧
      Table.get? (e.putPage { q with content := some c }).pages id = some { q with content := some c } := by
  have hf := h.consistent id q hq
  obtain rfl := hf.identity
  obtain ⟨info, hi, -⟩ := hf.file
  refine ⟨h.putPage ⟨hf.kind, rfl, hf.path, hf.member, ⟨info, hi, ?_⟩, hf.probed, ?_⟩ ?_,
    later_putPage hf.kind hq rfl ?_, ?_⟩
  · rintro c' hc
    obtain rfl := Option.some.inj hc
    exact ⟨Int.le_of_eq (hs info hi), fun _ => hr⟩
  · rintro c' l hc hcl
    obtain rfl := Option.some.inj hc
    obtain ⟨hk, hsome⟩ := hl l hcl
    exact ⟨hk, isSome_get?_insert hsome⟩
  · rintro - c' hc
    obtain rfl := Option.some.inj hc
    exact hs
  · intro c' hr' _
    rw [← Except.ok.inj (hr.symm.trans hr')]
  · exact get?_putPage_self (p := { q with content := some c }) hf.kind

/-- Gives a page in the registry a content. -/
def keepContent (p : Page) (c : PageContent) : Load PageContent := do
  modify fun e => e.putPage { (e.page? p.id).getD p with content := some c }
  return c

/-- Keeping the content that the file reads as. -/
theorem answers_keepContent {rules : PageRules} {e : Engine} {p q : Page} {c : PageContent} (h : rules.Ready e)
    (hq : Table.get? e.pages p.id = some q) (hr : rules.read? e.files p.id q.format = .ok c)
    (hl : ∀ l, c.layout = some l → l.kind = .layout ∧ (Table.get? e.pages l).isSome = true)
    (hs : Stamped e.files q.path c) :
    ∃ e', rules.Answers e (keepContent p c) (.ok c) e' ∧ Holds e' p.id q.format c := by
  obtain ⟨hready, hlater, hget⟩ := ready_putContent h hq hr hl hs
  have hpage : (e.page? p.id).getD p = q := by
    rw [page?_eq (h.consistent p.id q hq).kind, hq]
    rfl
  refine ⟨_, ⟨?_, hready, hlater⟩, _, hget, rfl, rfl⟩
  rw [keepContent, runOn_modify_bind, hpage]
  rfl

/-- Looks for the layout that the arguments of a page select. -/
def selectLayout (rules : PageRules) (p : Page) (args : Table String) : Load (Option PageId) :=
  match p.id.kind, p.format.layoutName args rules.settings.defaultLayoutPage with
  | .page, some name => rules.findLayout p.id.key name
  | _, _ => pure none

/-- The search finds the layout that the files give the page, and leaves it registered. -/
theorem answers_selectLayout {rules : PageRules} {e : Engine} (h : rules.Ready e) (p : Page) (args : Table String) :
    ∃ e', rules.Answers e (rules.selectLayout p args) ((rules.layoutOf? e.files p.id p.format args).mapError .file) e' ∧
      ∀ l, rules.layoutOf? e.files p.id p.format args = .ok (some l) →
        l.kind = .layout ∧ (Table.get? e'.pages l).isSome = true := by
  unfold selectLayout layoutOf?
  cases p.id.kind with
  | page =>
    cases p.format.layoutName args rules.settings.defaultLayoutPage with
    | none => exact ⟨e, Answers.pure h none, by simp⟩
    | some name => exact answers_findLayout h p.id.key name
  | layout => exact ⟨e, Answers.pure h none, by simp⟩
  | oneTime => exact ⟨e, Answers.pure h none, by simp⟩

/-- Gives a page the content that its source parses to, with the layout that is found for it. -/
def attach (rules : PageRules) (p : Page) (stamp : Int) (parsed : Table String × List Fragment) : Load PageContent := do
  let layout ← match p.id.kind, p.format.layoutName parsed.1 rules.settings.defaultLayoutPage with
    | .page, some name => rules.findLayout p.id.key name
    | _, _ => pure none
  let content : PageContent := { path := p.path, args := parsed.1, fragments := parsed.2, layout, stamp }
  modify fun e => e.putPage { (e.page? p.id).getD p with content := some content }
  return content

/-- The layout is looked for first, and the content is kept with what was found. -/
theorem attach_eq (rules : PageRules) (p : Page) (stamp : Int) (parsed : Table String × List Fragment) :
    rules.attach p stamp parsed = (do
      let layout ← rules.selectLayout p parsed.1
      keepContent p { path := p.path, args := parsed.1, fragments := parsed.2, layout, stamp }) := by
  unfold attach selectLayout
  split <;> rfl

/-- Reads a page from its file and keeps the content: what loading does when the content has another stamp. -/
def reload (rules : PageRules) (files : FileStore) (p : Page) (stamp : Int) : Load PageContent := do
  let bytes ← Load.ofFile (files.read p.path)
  match Utf8.decode? bytes with
  | none => throw (.utf8 p.path)
  | some source => rules.attach p stamp (p.format.parseSource source)

theorem load_eq (rules : PageRules) (p : Page) :
    rules.load p = (do
      let files := (← get).filesFor p.id.kind
      match ← Load.ofFile (files.info? p.path) with
      | none => throw (.pageNotFound p.path)
      | some info =>
        match p.content.filter (·.stamp = info.stamp) with
        | some content => return content
        | none => rules.reload files p info.stamp) := rfl

/-- A page gets what its source parses to, with the layout that the files give it. -/
theorem answers_attach {rules : PageRules} {e : Engine} {p q : Page} {info : FileInfo} {parsed : Table String × List Fragment}
    (h : rules.Ready e) (hp : rules.Faithful e.files e.pages p.id p) (hq : Table.get? e.pages p.id = some q)
    (hf : q.format = p.format) (hi : e.files.info? p.path = .ok (some info))
    (hr : rules.read? e.files p.id p.format = rules.contentOf? e.files p.id p.format info.stamp parsed) :
    ∃ e', rules.Answers e (rules.attach p info.stamp parsed) (rules.read? e.files p.id p.format) e' ∧
      ∀ c, rules.read? e.files p.id p.format = .ok c →
        Holds e' p.id p.format c := by
  obtain ⟨e₁, hsearch, hknown⟩ := answers_selectLayout h p parsed.1
  rw [attach_eq]
  rw [contentOf?, ← hp.path] at hr
  cases hlayout : rules.layoutOf? e.files p.id p.format parsed.1 with
  | error error =>
    rw [hlayout] at hr hsearch
    rw [hr]
    exact ⟨e₁, hsearch.bind_error, by simp⟩
  | ok layout =>
    rw [hlayout] at hr hsearch hknown
    -- The page is kept in the state that the search leaves, where it has the same file.
    obtain ⟨q₁, hq₁, hf₁⟩ := hsearch.later.kept p.id q hq
    have hformat : q₁.format = p.format := hf₁.trans hf
    have hpath : q₁.path = p.path := by rw [(hsearch.ready.consistent p.id q₁ hq₁).path, hp.path, hformat]
    have hstamped : ∀ c : PageContent, c.stamp = info.stamp → Stamped e₁.files q₁.path c := by
      intro c hc info' hi'
      rw [hsearch.later.files, hpath, hi] at hi'
      rw [hc, Option.some.inj (Except.ok.inj hi')]
    obtain ⟨e', hkeep, hheld⟩ := answers_keepContent hsearch.ready hq₁ (by rw [hsearch.later.files, hformat, hr])
      (fun l hl => hknown l (congrArg Except.ok hl)) (hstamped _ rfl)
    rw [hr]
    refine ⟨e', hsearch.bind hkeep, fun c hc => ?_⟩
    obtain rfl := Except.ok.inj hc
    exact hformat ▸ hheld

/-- Reading a page again answers what its file reads as. -/
theorem answers_reload {rules : PageRules} {e : Engine} {p q : Page} {info : FileInfo} (h : rules.Ready e)
    (hp : rules.Faithful e.files e.pages p.id p) (hq : Table.get? e.pages p.id = some q) (hf : q.format = p.format)
    (hi : e.files.info? p.path = .ok (some info)) :
    ∃ e', rules.Answers e (rules.reload e.files p info.stamp) (rules.read? e.files p.id p.format) e' ∧
      ∀ c, rules.read? e.files p.id p.format = .ok c → Holds e' p.id p.format c := by
  have hbytes := Answers.ofFile h (e.files.read p.path)
  unfold reload
  cases hb : e.files.read p.path with
  | error error =>
    have hr : rules.read? e.files p.id p.format = .error (.file error) := by
      simp only [read?, ← hp.path, hi, hb]
    rw [hb] at hbytes
    rw [hr]
    exact ⟨e, hbytes.bind_error, by simp⟩
  | ok bytes =>
    rw [hb] at hbytes
    cases hd : Utf8.decode? bytes with
    | none =>
      have hr : rules.read? e.files p.id p.format = .error (.utf8 p.path) := by
        simp only [read?, ← hp.path, hi, hb, hd]
      rw [hr]
      refine ⟨e, hbytes.bind ?_, by simp⟩
      simp only [hd]
      exact Answers.throw h _
    | some source =>
      have hr : rules.read? e.files p.id p.format =
          rules.contentOf? e.files p.id p.format info.stamp (p.format.parseSource source) := by
        simp only [read?, ← hp.path, hi, hb, hd]
      obtain ⟨e', ha, hheld⟩ := answers_attach h hp hq hf hi hr
      refine ⟨e', hbytes.bind ?_, hheld⟩
      simp only [hd]
      exact ha

/-- Loading a page answers what its file reads as, whether it is read again or not. -/
theorem answers_load {rules : PageRules} {e : Engine} {p q : Page} (h : rules.Ready e)
    (hp : rules.Faithful e.files e.pages p.id p) (hq : Table.get? e.pages p.id = some q) (hf : q.format = p.format)
    (hc : q.content = p.content) :
    ∃ e', rules.Answers e (rules.load p) (rules.read? e.files p.id p.format) e' ∧
      ∀ c, rules.read? e.files p.id p.format = .ok c → Holds e' p.id p.format c := by
  obtain ⟨info, hi, hcontent⟩ := hp.file
  have hinfo := Answers.ofFile h (e.files.info? p.path)
  rw [hi] at hinfo
  rw [load_eq]
  cases hkept : p.content.filter (·.stamp = info.stamp) with
  | some content =>
    obtain ⟨hpc, hstamp⟩ := Option.filter_eq_some_iff.1 hkept
    have hr := (hcontent content hpc).2 (of_decide_eq_true hstamp)
    rw [hr]
    refine ⟨e, (Answers.get h).bind ?_, ?_⟩
    · simp only [filesFor_eq hp.kind, hi]
      refine hinfo.bind ?_
      simp only [hkept]
      exact Answers.pure h content
    · intro c hc'
      obtain rfl := Except.ok.inj hc'
      exact ⟨q, hq, hf, hc.trans hpc⟩
  | none =>
    obtain ⟨e', ha, hheld⟩ := answers_reload h hp hq hf hi
    refine ⟨e', (Answers.get h).bind ?_, hheld⟩
    simp only [filesFor_eq hp.kind, hi]
    refine hinfo.bind ?_
    simp only [hkept]
    exact ha

/-! ## Checking -/

/-- Noting the time of a check changes nothing else. -/
theorem answers_noteCheck {rules : PageRules} {e : Engine} {p : Page} (h : rules.Ready e)
    (hp : Table.get? e.pages p.id = some p) (time : Int) :
    ∃ e', rules.Answers e (do
        modify (·.putPage { p with lastChecked := some time })
        return true) (.ok true) e' ∧
      ∃ q, Table.get? e'.pages p.id = some q ∧ q.format = p.format ∧ q.content = p.content := by
  have hf := h.consistent p.id p hp
  refine ⟨_, ⟨runOn_modify_bind _ _ e, h.putPage ⟨hf.kind, rfl, hf.path, hf.member, hf.file, hf.probed, ?_⟩ ?_,
    later_putPage hf.kind hp rfl fun _ _ hc => hc⟩, { p with lastChecked := some time }, ?_, rfl, rfl⟩
  · intro c l hc hl
    obtain ⟨hk, hs⟩ := hf.layout c l hc hl
    exact ⟨hk, isSome_get?_insert hs⟩
  · intro hset c hc
    exact hset p.id p c hp hc
  · exact get?_putPage_self (p := { p with lastChecked := some time }) hf.kind

/-- Asking whether a check is due changes no more than the time of the last check, and a site that always checks is always
due. -/
theorem answers_dueForCheck {rules : PageRules} {e : Engine} {p : Page} (h : rules.Ready e)
    (hp : Table.get? e.pages p.id = some p) :
    ∃ due e', rules.Answers e (rules.dueForCheck p) (.ok due) e' ∧ (rules.AlwaysChecks → due = true) ∧
      ∃ q, Table.get? e'.pages p.id = some q ∧ q.format = p.format ∧ q.content = p.content := by
  have hsame : ∃ q, Table.get? e.pages p.id = some q ∧ q.format = p.format ∧ q.content = p.content := ⟨p, hp, rfl, rfl⟩
  unfold dueForCheck
  cases hfresh : rules.settings.checksFreshness with
  | false => exact ⟨false, e, Answers.pure h false, fun ha => absurd ha.1 (by simp [hfresh]), hsame⟩
  | true =>
    cases hinterval : rules.settings.checkIntervalSeconds with
    | none => exact ⟨true, e, Answers.pure h true, fun _ => rfl, hsame⟩
    | some seconds =>
      have hnever : ∀ due, rules.AlwaysChecks → due = true := fun _ ha => absurd ha.2 (by simp [hinterval])
      obtain ⟨e', hnote, hget⟩ := answers_noteCheck h hp e.clock
      simp only [Bool.not_true, Bool.false_eq_true, if_false]
      cases hlast : p.lastChecked with
      | none => exact ⟨true, e', (Answers.get h).bind hnote, hnever true, hget⟩
      | some time =>
        by_cases hearly : e.clock - time < seconds * 1000
        · refine ⟨false, e, (Answers.get h).bind ?_, hnever false, hsame⟩
          simp only [if_pos hearly]
          exact Answers.pure h false
        · refine ⟨true, e', (Answers.get h).bind ?_, hnever true, hget⟩
          simp only [if_neg hearly]
          exact hnote

/-- Whatever a site remembers of a page, refreshing it answers what its file reads as. -/
theorem answers_refresh {rules : PageRules} {e : Engine} {id : PageId} {p : Page} (h : rules.Ready e)
    (hp : Table.get? e.pages id = some p) :
    ∃ e', rules.Answers e (rules.refresh id) (rules.read? e.files id p.format) e' ∧
      ∀ c, rules.read? e.files id p.format = .ok c → Holds e' id p.format c := by
  have hf := h.consistent id p hp
  obtain rfl := hf.identity
  have hpage := (page?_eq hf.kind).trans hp
  unfold refresh
  cases hc : p.content with
  | none =>
    obtain ⟨e', ha, hheld⟩ := answers_load h hf hp rfl rfl
    refine ⟨e', (Answers.get h).bind ?_, hheld⟩
    simp only [hpage, hc]
    exact ha
  | some content =>
    obtain ⟨info, hi, hcontent⟩ := hf.file
    obtain ⟨-, hread⟩ := hcontent content hc
    obtain ⟨due, e₁, hdue, halways, q, hq, hqf, hqc⟩ := answers_dueForCheck h hp
    -- A content with the stamp of its file is the answer, checked or not.
    have hkeep : content.stamp = info.stamp → ∀ c, rules.read? e.files p.id p.format = .ok c → Holds e₁ p.id p.format c := by
      intro hstamp c hc'
      rw [hread hstamp] at hc'
      obtain rfl := Except.ok.inj hc'
      exact ⟨q, hq, hqf, hqc.trans hc⟩
    cases due with
    | false =>
      have hstamp : content.stamp = info.stamp := by
        rcases h.current with ha | hset
        · exact absurd (halways ha) (by simp)
        · exact hset p.id p content hp hc info hi
      refine ⟨e₁, (Answers.get h).bind ?_, hkeep hstamp⟩
      simp only [hpage, hc]
      rw [hread hstamp]
      exact hdue.bind (Answers.pure hdue.ready content)
    | true =>
      have hinfo := Answers.ofFile hdue.ready (e₁.files.info? p.path)
      rw [hdue.later.files, hi] at hinfo
      by_cases hstamp : info.stamp = content.stamp
      · refine ⟨e₁, (Answers.get h).bind ?_, hkeep hstamp.symm⟩
        simp only [hpage, hc]
        rw [hread hstamp.symm]
        refine hdue.bind ((Answers.get hdue.ready).bind ?_)
        simp only [filesFor_eq hf.kind, hdue.later.files, hi]
        refine hinfo.bind ?_
        simp only [if_pos hstamp]
        exact Answers.pure hdue.ready content
      · obtain ⟨e', ha, hheld⟩ := answers_load hdue.ready (hf.later hdue.later) hq hqf hqc
        rw [hdue.later.files] at ha hheld
        refine ⟨e', (Answers.get h).bind ?_, hheld⟩
        simp only [hpage, hc]
        refine hdue.bind ((Answers.get hdue.ready).bind ?_)
        simp only [filesFor_eq hf.kind, hdue.later.files, hi]
        refine hinfo.bind ?_
        simp only [if_neg hstamp]
        exact ha

/-! ## Looking up -/

/-- Refreshing a registered layout answers what the files say of it. -/
theorem answers_refresh_layout {rules : PageRules} {e : Engine} {l : PageId} (h : rules.Ready e) (hk : l.kind = .layout)
    (hl : (Table.get? e.pages l).isSome = true) :
    ∃ e', rules.Answers e (discard (rules.refresh l)) (rules.layoutAnswer e.files l) e' := by
  obtain ⟨p, hp⟩ := Option.isSome_iff_exists.1 hl
  obtain ⟨e', ha, -⟩ := answers_refresh h hp
  have hanswer : rules.layoutAnswer e.files l = (rules.read? e.files l p.format).map fun _ => () := by
    simp only [layoutAnswer, (h.consistent l p hp).probed hk]
  rw [hanswer]
  exact ⟨e', ha.discard⟩

/-- Loading a registered page and its layout answers what the files say of them. -/
theorem answers_initPage {rules : PageRules} {e : Engine} {id : PageId} {p : Page} (h : rules.Ready e)
    (hp : Table.get? e.pages id = some p) :
    ∃ e', rules.Answers e (rules.initPage id) (rules.initAnswer e.files id p.format) e' ∧
      ∀ c, rules.initAnswer e.files id p.format = .ok c → Holds e' id p.format c := by
  obtain ⟨e₁, ha, hheld⟩ := answers_refresh h hp
  unfold initPage
  cases hr : rules.read? e.files id p.format with
  | error error =>
    have hinit : rules.initAnswer e.files id p.format = .error error := by simp only [initAnswer, hr]
    rw [hr] at ha
    rw [hinit]
    exact ⟨e₁, ha.bind_error, by simp⟩
  | ok content =>
    rw [hr] at ha
    have hc := hheld content hr
    cases hl : content.layout with
    | none =>
      have hinit : rules.initAnswer e.files id p.format = .ok content := by simp only [initAnswer, hr, hl]
      rw [hinit]
      refine ⟨e₁, ha.bind ?_, fun c hc' => Except.ok.inj hc' ▸ hc⟩
      simp only [hl]
      exact Answers.pure ha.ready content
    | some layout =>
      have hinit : rules.initAnswer e.files id p.format = (rules.layoutAnswer e.files layout).map fun _ => content := by
        simp only [initAnswer, hr, hl]
      obtain ⟨q, hq, hqf, hqc⟩ := hc
      obtain ⟨hk, hknown⟩ := (ha.ready.consistent id q hq).layout content layout hqc hl
      obtain ⟨e', hlayout⟩ := answers_refresh_layout ha.ready hk hknown
      rw [ha.later.files] at hlayout
      have hc' := hlayout.later.held id p.format content (ha.later.files.symm ▸ hr) ⟨q, hq, hqf, hqc⟩
      rw [hinit]
      cases hanswer : rules.layoutAnswer e.files layout with
      | error error =>
        rw [hanswer] at hlayout
        refine ⟨e', ha.bind ?_, by simp [Except.map]⟩
        simp only [hl]
        exact hlayout.bind_error
      | ok _ =>
        rw [hanswer] at hlayout
        refine ⟨e', ha.bind ?_, fun c hok => Except.ok.inj hok ▸ hc'⟩
        simp only [hl]
        exact hlayout.bind (Answers.pure hlayout.ready content)

/-- The format of a path: the one that its page was registered with, else the one in the files. -/
def formatOf? (rules : PageRules) (e : Engine) (path : String) : Except FileError (Option PageFormat) :=
  match Table.get? e.pages (rules.pathId path) with
  | some p => .ok (some p.format)
  | none => rules.fileFormat? e.files path

/-- What comes of asking for a page, once its format is known. -/
def pageAnswer (rules : PageRules) (files : FileStore) (id : PageId) :
    Except FileError (Option PageFormat) → Except TemplateError (Option PageId)
  | .error e => .error (.file e)
  | .ok none => .ok none
  | .ok (some f) => (rules.initAnswer files id f).map fun _ => some id

/-- A state after asking for a path: it can be asked again, no page but that of the path was registered in its role, and that
page has the format of the path and, if it could be loaded, the content that the files give it. -/
structure Opened (rules : PageRules) (path : String) (e e' : Engine) : Prop extends rules.Grows e e' where
  ready : rules.Ready e'
  others : ∀ key, { kind := .page, key } ≠ rules.pathId path → Table.get? e.pages { kind := .page, key } = none →
    Table.get? e'.pages { kind := .page, key } = none
  missing : (∀ f, rules.formatOf? e path ≠ .ok (some f)) → e' = e
  format : ∀ f, rules.formatOf? e path = .ok (some f) → ∃ p, Table.get? e'.pages (rules.pathId path) = some p ∧ p.format = f
  content : ∀ f c, rules.formatOf? e path = .ok (some f) → rules.initAnswer e.files (rules.pathId path) f = .ok c →
    Holds e' (rules.pathId path) f c

/-- Nothing is opened at a path without a format. -/
theorem Opened.refl {rules : PageRules} {path : String} {e : Engine} (h : rules.Ready e)
    (hnone : ∀ f, rules.formatOf? e path ≠ .ok (some f)) : rules.Opened path e e :=
  ⟨Grows.refl rules e, h, fun _ _ hk => hk, fun _ => rfl, fun f hf => absurd hf (hnone f), fun f _ hf => absurd hf (hnone f)⟩

theorem Opened.of_format {rules : PageRules} {path : String} {e e' : Engine} {f : PageFormat}
    (hformat : rules.formatOf? e path = .ok (some f)) (hgrows : rules.Grows e e') (hready : rules.Ready e')
    (hothers : ∀ key, { kind := .page, key } ≠ rules.pathId path → Table.get? e.pages { kind := .page, key } = none →
      Table.get? e'.pages { kind := .page, key } = none)
    (hpage : ∃ p, Table.get? e'.pages (rules.pathId path) = some p ∧ p.format = f)
    (hheld : ∀ c, rules.initAnswer e.files (rules.pathId path) f = .ok c → Holds e' (rules.pathId path) f c) :
    rules.Opened path e e' := by
  have hsame : ∀ f', rules.formatOf? e path = .ok (some f') → f' = f := fun f' hf' =>
    Option.some.inj (Except.ok.inj (hf'.symm.trans hformat))
  refine ⟨hgrows, hready, hothers, fun hnone => absurd hformat (hnone f), fun f' hf' => ?_, fun f' c hf' => ?_⟩
  · rw [hsame f' hf']
    exact hpage
  · rw [hsame f' hf']
    exact hheld c

theorem getPage_eq (rules : PageRules) (path : String) :
    rules.getPage path = (do
      Load.requireInitialized
      if ((← get).page? (rules.pathId path)).isSome then
        discard (rules.initPage (rules.pathId path))
        return some (rules.pathId path)
      else
        match ← probe (rules.pathId path).key (rules.orderedFormats (rules.pageKey (Path.normalize path)).2) with
        | none => return none
        | some f =>
          let id ← register .page (rules.pathId path).key f
          discard (rules.initPage id)
          return some id) := rfl

/-- Loading a page and its layout, for the identity. -/
theorem answers_discard_initPage {rules : PageRules} {e : Engine} {id : PageId} {p : Page} (h : rules.Ready e)
    (hp : Table.get? e.pages id = some p) :
    ∃ e', rules.Answers e (do
        discard (rules.initPage id)
        return some id) ((rules.initAnswer e.files id p.format).map fun _ => some id) e' ∧
      ∀ c, rules.initAnswer e.files id p.format = .ok c → Holds e' id p.format c := by
  obtain ⟨e', ha, hheld⟩ := answers_initPage h hp
  have hdiscard := ha.discard
  cases hr : rules.initAnswer e.files id p.format with
  | error error =>
    rw [hr] at hdiscard
    exact ⟨e', hdiscard.bind_error, by simp⟩
  | ok content =>
    rw [hr] at hdiscard
    exact ⟨e', hdiscard.bind (Answers.pure ha.ready _), fun c hc => hheld c (hr.trans hc)⟩

/-- Asking for a path answers what the files say of the format that the path has. -/
theorem answers_getPage {rules : PageRules} {e : Engine} (h : rules.Ready e) (path : String) :
    ∃ e', runOn (rules.getPage path) e = (rules.pageAnswer e.files (rules.pathId path) (rules.formatOf? e path), e') ∧
      rules.Opened path e e' := by
  have hpage : e.page? (rules.pathId path) = Table.get? e.pages (rules.pathId path) := page?_eq (by simp [pathId])
  rw [getPage_eq, runOn_bind_ok (runOn_requireInitialized h.initialized), runOn_get_bind, hpage]
  cases hp : Table.get? e.pages (rules.pathId path) with
  | some p =>
    obtain ⟨e', ha, hheld⟩ := answers_discard_initPage h hp
    have hformat : rules.formatOf? e path = .ok (some p.format) := by simp only [formatOf?, hp]
    refine ⟨e', ?_, .of_format hformat ha.later.toGrows ha.ready (fun key _ => ha.later.asked key) (ha.later.kept _ p hp) hheld⟩
    rw [hformat]
    exact ha.run
  | none =>
    have hformat : rules.formatOf? e path = rules.fileFormat? e.files path := by simp only [formatOf?, hp]
    have hprobe := runOn_probe (rules.pathId path).key (rules.orderedFormats (rules.pageKey (Path.normalize path)).2) e
    change runOn _ e = ((rules.fileFormat? e.files path).mapError .file, e) at hprobe
    simp only [Option.isSome_none, Bool.false_eq_true, if_false]
    cases hfound : rules.fileFormat? e.files path with
    | error error =>
      rw [hfound] at hprobe hformat
      rw [hformat]
      exact ⟨e, runOn_bind_error hprobe, .refl h (by simp [hformat])⟩
    | ok found =>
      rw [hfound] at hprobe hformat
      rw [hformat, runOn_bind_ok hprobe]
      cases found with
      | none => exact ⟨e, rfl, .refl h (by simp [hformat])⟩
      | some f =>
        obtain ⟨hmem, info, hi⟩ := probe?_eq_some hfound
        obtain ⟨e₁, hrun, h₁, he₁⟩ := answers_register (rules.pathId path) h (by simp [pathId])
          (mem_orderedFormats.1 hmem) hi (by simp [pathId])
        have hgrows : rules.Grows e e₁ := he₁ ▸ grows_insert rules hp
        have hget : ∃ p₁, Table.get? e₁.pages (rules.pathId path) = some p₁ ∧ p₁.format = f := by
          rw [he₁]
          exact ⟨_, by rw [Table.get?_insert, if_pos rfl], rfl⟩
        obtain ⟨p₁, hp₁, rfl⟩ := hget
        obtain ⟨e', ha, hheld⟩ := answers_discard_initPage h₁ hp₁
        rw [hgrows.files] at ha hheld
        have hothers : ∀ key, { kind := .page, key } ≠ rules.pathId path → Table.get? e.pages { kind := .page, key } = none →
            Table.get? e'.pages { kind := .page, key } = none := by
          intro key hkey hk
          refine ha.later.asked key ?_
          rw [he₁, Table.get?_insert, if_neg hkey, hk]
        exact ⟨e', (runOn_bind_ok hrun).trans ha.run,
          .of_format hformat (hgrows.trans ha.later.toGrows) ha.ready hothers (ha.later.kept _ p₁ hp₁) hheld⟩

end PageRules

end PageTemplates
