import PageTemplates.Proofs.Evaluation.Caches
import PageTemplates.Proofs.Evaluation.Fragments
import PageTemplates.Proofs.Pages.Paths
import PageTemplates.Proofs.Pages.Registry

/-!
# Sites that remember nothing false

What a site remembers is coherent with its files if every page and every cached text is what reading and parsing gives. If no
two files differ only in the extension of a format, the files alone then decide what comes of looking for a page. Main
statements: the caches of a coherent site tell the truth (`Coherent.caching`), asking for a path answers what the files say
(`Coherent.getPage`), and looking for the page of a partial is stable (`stable_partialContent`).
-/

namespace PageTemplates

open PageRules Load

/-! ## Files -/

/-- No two files differ only in the extension of a format. -/
def Unambiguous (rules : PageRules) (m : MemoryFiles) : Prop :=
  ∀ stem, ∀ f ∈ rules.formats, ∀ g ∈ rules.formats, (Table.get? m.files (fileName stem f)).isSome = true →
    (Table.get? m.files (fileName stem g)).isSome = true → f = g

/-- No key has a file in two formats. -/
def OneFormat (rules : PageRules) (m : MemoryFiles) : Prop :=
  ∀ key, ∀ f ∈ rules.formats, ∀ g ∈ rules.formats, (m.get? (fileName key f)).isSome = true →
    (m.get? (fileName key g)).isSome = true → f = g

/-- The file of a key in a format is stored under the file name of a stem, which is the same for all formats. -/
theorem exists_stem_get? (m : MemoryFiles) (key : String) :
    ∃ stem, ∀ f : PageFormat, Path.IsPlain f.extension.toList →
      m.get? (fileName key f) = Table.get? m.files (fileName stem f) := by
  obtain ⟨stem, hstem⟩ := Path.exists_stem key.toList
  refine ⟨String.ofList stem, fun f hf => ?_⟩
  have hname : Path.normalize (fileName key f) = fileName (String.ofList stem) f := by
    have hchars := hstem f.extension.toList hf
    apply String.toList_inj.1
    simpa [Path.normalize, fileName] using hchars
  rw [MemoryFiles.get?, hname]

/-- Keys that name a file in two formats are ruled out by looking at the stored files. -/
theorem Unambiguous.oneFormat {rules : PageRules} {m : MemoryFiles} (h : Unambiguous rules m)
    (hplain : ∀ f ∈ rules.formats, Path.IsPlain f.extension.toList) : OneFormat rules m := by
  intro key f hf g hg hfile hfile'
  obtain ⟨stem, hstem⟩ := exists_stem_get? m key
  rw [hstem f (hplain f hf)] at hfile
  rw [hstem g (hplain g hg)] at hfile'
  exact h stem f hf g hg hfile hfile'

theorem info?_memory (m : MemoryFiles) (path : String) :
    (FileStore.memory m).info? path = .ok (m.info? path) := rfl

theorem isSome_info? {m : MemoryFiles} {path : String} {info : FileInfo} (h : m.info? path = some info) :
    (m.get? path).isSome = true := by
  have hmap : ((m.get? path).map _).isSome = true := congrArg Option.isSome h
  simpa using hmap

/-- A format with a file is the one that probing finds, since there is no other. -/
theorem fileFormat?_of_file {rules : PageRules} {m : MemoryFiles} (hm : OneFormat rules m) {path : String} {f : PageFormat}
    {info : FileInfo} (hf : f ∈ rules.formats) (hi : m.info? (fileName (rules.pathId path).key f) = some info) :
    rules.fileFormat? (.memory m) path = .ok (some f) := by
  -- Nothing keeps a file in memory from being looked at.
  obtain ⟨found, hfound⟩ := @exists_probe? (.memory m) (rules.pathId path).key
    (rules.orderedFormats (rules.pageKey (Path.normalize path)).2) fun f _ => ⟨_, info?_memory m _⟩
  have hformat : rules.fileFormat? (.memory m) path = .ok found := hfound
  rw [hformat]
  cases found with
  | none =>
    have hnone := fileFormat?_eq_none_iff.1 hformat f hf
    rw [info?_memory, hi] at hnone
    simp at hnone
  | some g =>
    obtain ⟨hg, info', hi'⟩ := probe?_eq_some hfound
    rw [info?_memory] at hi'
    rw [hm _ f hf g (mem_orderedFormats.1 hg) (isSome_info? hi) (isSome_info? (Except.ok.inj hi'))]

/-! ## The invariant -/

/-- A state over some files that remembers nothing false, and that knows some pages. -/
structure Coherent (rules : PageRules) (m : MemoryFiles) (known : List PageId) (e : Engine) : Prop where
  files : e.files = .memory m
  ready : rules.Ready e
  binder : ∀ kind rest b, e.binders.get? kind rest = some b → ∀ expression, Binder.compile kind expression rest = .ok b
  text : ∀ kind text entry, e.cache.get? kind text = some entry → kind.parse text = .ok entry
  known : ∀ id ∈ known, (Table.get? e.pages id).isSome = true

variable {rules : PageRules} {m : MemoryFiles} {known : List PageId} {e e' : Engine}

/-- A coherent state stays coherent if it only learns of pages. -/
theorem Coherent.grows (h : Coherent rules m known e) (hready : rules.Ready e') (hgrows : rules.Grows e e') :
    Coherent rules m known e' := by
  refine ⟨hgrows.files.trans h.files, hready, ?_, ?_, fun id hid => hgrows.isSome (h.known id hid)⟩
  · rw [hgrows.frame]
    exact h.binder
  · rw [hgrows.frame]
    exact h.text

theorem Coherent.mono {known' : List PageId} (h : Coherent rules m known e) (hsub : ∀ id ∈ known', id ∈ known) :
    Coherent rules m known' e :=
  ⟨h.files, h.ready, h.binder, h.text, fun id hid => h.known id (hsub id hid)⟩

/-- The format of a registered page is the one in the files. -/
theorem Coherent.fileFormat? (h : Coherent rules m known e) (hm : OneFormat rules m) {path : String} {p : Page}
    (hp : Table.get? e.pages (rules.pathId path) = some p) : rules.fileFormat? (.memory m) path = .ok (some p.format) := by
  have hf := h.ready.consistent _ p hp
  obtain ⟨info, hi, -⟩ := hf.file
  rw [hf.path, h.files, info?_memory] at hi
  exact fileFormat?_of_file hm hf.member (Except.ok.inj hi)

/-- What is remembered makes no difference to the format of a registered page. -/
theorem Coherent.format_eq (h : Coherent rules m known e) (h' : Coherent rules m known e') (hm : OneFormat rules m)
    {path : String} {p p' : Page} (hp : Table.get? e.pages (rules.pathId path) = some p)
    (hp' : Table.get? e'.pages (rules.pathId path) = some p') : p.format = p'.format :=
  Option.some.inj (Except.ok.inj ((h.fileFormat? hm hp).symm.trans (h'.fileFormat? hm hp')))

theorem Coherent.formatOf? (h : Coherent rules m known e) (hm : OneFormat rules m) (path : String) :
    rules.formatOf? e path = rules.fileFormat? (.memory m) path := by
  unfold PageRules.formatOf?
  cases hp : Table.get? e.pages (rules.pathId path) with
  | some p => exact (h.fileFormat? hm hp).symm
  | none => simp only [h.files]

/-! ## Caches -/

theorem Coherent.truthful (h : Coherent rules m known e) : e.Truthful :=
  ⟨h.binder, h.text⟩

theorem Coherent.getOrCompile (h : Coherent rules m known e) (kind : ValueKind) (expression rest : String) :
    (e.binders.getOrCompile Binder.compile kind expression rest).1 = Binder.compile kind expression rest ∧
      Coherent rules m known { e with binders := (e.binders.getOrCompile Binder.compile kind expression rest).2 } := by
  obtain ⟨hanswer, htruthful⟩ := h.truthful.getOrCompile kind expression rest
  exact ⟨hanswer, h.files, ⟨h.ready.initialized, h.ready.consistent, h.ready.current⟩, htruthful.binder, h.text, h.known⟩

theorem Coherent.getOrBuild (h : Coherent rules m known e) (kind : CachedText) (text : String) :
    (e.cache.getOrBuild kind text (kind.parse text)).1 = kind.parse text ∧
      Coherent rules m known { e with cache := (e.cache.getOrBuild kind text (kind.parse text)).2 } := by
  obtain ⟨hanswer, htruthful⟩ := h.truthful.getOrBuild kind text
  exact ⟨hanswer, h.files, ⟨h.ready.initialized, h.ready.consistent, h.ready.current⟩, h.binder, htruthful.text, h.known⟩

/-- The caches of a coherent state tell the truth. -/
theorem Coherent.caching (rules : PageRules) (m : MemoryFiles) (known : List PageId) :
    Caching Binder.compile (Coherent rules m known) :=
  ⟨fun _ kind expression rest h => h.getOrCompile kind expression rest, fun _ kind text h => h.getOrBuild kind text⟩

/-! ## Looking for pages -/

/-- Asking for a path answers what the files say, whatever is remembered. A page that is answered is known then, with the
content that its file reads as. -/
theorem Coherent.getPage (h : Coherent rules m known e) (hm : OneFormat rules m) (path : String) :
    ∃ e', runOn (rules.getPage path) e =
        (rules.pageAnswer (.memory m) (rules.pathId path) (rules.fileFormat? (.memory m) path), e') ∧
      Coherent rules m known e' ∧
      ∀ f c, rules.fileFormat? (.memory m) path = .ok (some f) → rules.initAnswer (.memory m) (rules.pathId path) f = .ok c →
        Holds e' (rules.pathId path) f c := by
  obtain ⟨e', hrun, hopened⟩ := answers_getPage h.ready path
  have hcontent := hopened.content
  rw [h.formatOf? hm, h.files] at hrun hcontent
  exact ⟨e', hrun, h.grows hopened.ready hopened.toGrows, hcontent⟩

theorem run_loadedPage_of_holds {id : PageId} {f : PageFormat} {c : PageContent} (hk : id.kind ≠ .oneTime)
    (h : Holds e id f c) : runOn (Site.loadedPage id) e = (.ok { format := f, content := c }, e) := by
  obtain ⟨p, hp, rfl, hc⟩ := h
  exact Environment.run_loadedPage ((page?_eq hk).trans hp) hc

/-- An action is stable if it answers the same for two states with a property, and keeps the property. -/
theorem stable_of_run {α : Type} {I : Engine → Prop} {x : Load α}
    (h : ∀ e e', I e → I e' → ∃ r e₁ e₁', runOn x e = (r, e₁) ∧ runOn x e' = (r, e₁') ∧ I e₁ ∧ I e₁') :
    Stable (Engine.Both I) x := by
  rintro e e' ⟨he, he'⟩
  obtain ⟨r, e₁, e₁', hrun, hrun', h₁, h₁'⟩ := h e e' he he'
  change (runOn x e).1 = (runOn x e').1 ∧ Engine.Both I (runOn x e).2 (runOn x e').2
  rw [hrun, hrun']
  exact ⟨rfl, h₁, h₁'⟩

/-- Loading the page of a path, or doing something else if there is none, is stable if the other thing is. -/
theorem stable_getPage_loaded (hm : OneFormat rules m) (path : String) {other : Load LoadedPage}
    (hother : Stable (Engine.Both (Coherent rules m known)) other) :
    Stable (Engine.Both (Coherent rules m known)) (rules.getPage path >>= fun found => found.elim other Site.loadedPage) := by
  refine stable_of_run fun e e' h h' => ?_
  obtain ⟨e₁, hrun, h₁, hheld⟩ := h.getPage hm path
  obtain ⟨e₁', hrun', h₁', hheld'⟩ := h'.getPage hm path
  cases hf : rules.fileFormat? (.memory m) path with
  | error error =>
    rw [hf] at hrun hrun'
    exact ⟨_, e₁, e₁', runOn_bind_error hrun, runOn_bind_error hrun', h₁, h₁'⟩
  | ok found =>
    rw [hf] at hrun hrun'
    cases found with
    | none =>
      obtain ⟨houtcome, hboth⟩ := hother e₁ e₁' ⟨h₁, h₁'⟩
      refine ⟨(runOn other e₁).1, (runOn other e₁).2, (runOn other e₁').2, runOn_bind_ok hrun, ?_, hboth⟩
      exact (runOn_bind_ok hrun').trans (Prod.ext houtcome.symm rfl)
    | some f =>
      have hinit : rules.pageAnswer (.memory m) (rules.pathId path) (.ok (some f)) =
          (rules.initAnswer (.memory m) (rules.pathId path) f).map fun _ => some (rules.pathId path) := rfl
      rw [hinit] at hrun hrun'
      cases hc : rules.initAnswer (.memory m) (rules.pathId path) f with
      | error error =>
        rw [hc] at hrun hrun'
        exact ⟨_, e₁, e₁', runOn_bind_error hrun, runOn_bind_error hrun', h₁, h₁'⟩
      | ok c =>
        rw [hc] at hrun hrun'
        have hpage := run_loadedPage_of_holds (by simp [pathId]) (hheld f c hf hc)
        have hpage' := run_loadedPage_of_holds (by simp [pathId]) (hheld' f c hf hc)
        exact ⟨_, e₁, e₁', (runOn_bind_ok hrun).trans hpage, (runOn_bind_ok hrun').trans hpage', h₁, h₁'⟩

theorem requirePage_loaded_eq (rules : PageRules) (path : String) :
    (rules.requirePage path >>= Site.loadedPage) =
      rules.getPage path >>= fun found => found.elim (throw (.pageNotFound path)) Site.loadedPage := by
  unfold requirePage
  rw [bind_assoc]
  refine bind_congr fun found => ?_
  cases found with
  | none => rfl
  | some id => exact pure_bind id Site.loadedPage

theorem stable_requirePage_loaded (hm : OneFormat rules m) (known : List PageId) (path : String) :
    Stable (Engine.Both (Coherent rules m known)) (rules.requirePage path >>= Site.loadedPage) := by
  rw [requirePage_loaded_eq]
  exact stable_getPage_loaded hm path (Stable.throw _)

/-- Finding the page of a partial is stable. -/
theorem stable_partialContent (env : Environment) (hm : OneFormat env.site.toPageRules m) (page name : String) :
    Stable (Engine.Both (Coherent env.site.toPageRules m known)) (env.partialContent page name) := by
  unfold Environment.partialContent Environment.partialPage
  split
  · exact stable_requirePage_loaded hm known name
  · rename_i directory _
    have hnested := stable_getPage_loaded hm (Path.join directory name) (stable_requirePage_loaded hm known name)
    refine cast (congrArg _ ?_) hnested
    rw [bind_assoc]
    refine bind_congr fun found => ?_
    cases found with
    | none => rfl
    | some id => exact (pure_bind id Site.loadedPage).symm

end PageTemplates
