import PageTemplates.Pages
import PageTemplates.Proofs.Evaluation.Stable

/-!
# What a look at the files answers

Whatever pages a site has loaded, a lookup should answer what the files say. The functions here say it: which format has a file
for a key, which layout a page gets, and what its file reads as. Main statements: probing the files of a site gives the answer
of the files (`runOn_probe`), and the format of a path is the one that it names if that has a file, else the first with a file
(`fileFormat?_eq`).
-/

namespace PageTemplates

/-! ## Running actions -/

namespace Load

variable {α β : Type}

/-- The outcome of an action on a state, and the state after it. -/
def runOn (x : Load α) (e : Engine) : Except TemplateError α × Engine :=
  x.run.run e

@[simp]
theorem runOn_pure (a : α) (e : Engine) : runOn (pure a) e = (.ok a, e) := rfl

@[simp]
theorem runOn_get (e : Engine) : runOn get e = (.ok e, e) := rfl

@[simp]
theorem runOn_modify (f : Engine → Engine) (e : Engine) : runOn (modify f) e = (.ok (), f e) := rfl

/-- What comes after an action that gave a value runs on the state that it left. -/
theorem runOn_bind_ok {x : Load α} {f : α → Load β} {e e' : Engine} {a : α} (h : runOn x e = (.ok a, e')) :
    runOn (x >>= f) e = runOn (f a) e' :=
  Stable.run_bind_ok h

/-- Nothing comes after an action that failed. -/
theorem runOn_bind_error {x : Load α} {f : α → Load β} {e e' : Engine} {error : TemplateError}
    (h : runOn x e = (.error error, e')) : runOn (x >>= f) e = (.error error, e') :=
  Stable.run_bind_error h

@[simp]
theorem runOn_get_bind (f : Engine → Load β) (e : Engine) : runOn (get >>= f) e = runOn (f e) e :=
  runOn_bind_ok (runOn_get e)

@[simp]
theorem runOn_modify_bind (g : Engine → Engine) (f : Unit → Load β) (e : Engine) :
    runOn (modify g >>= f) e = runOn (f ()) (g e) :=
  runOn_bind_ok (runOn_modify g e)

theorem runOn_ofFile (r : Except FileError α) (e : Engine) : runOn (Load.ofFile r) e = (r.mapError .file, e) := by
  cases r <;> rfl

@[simp]
theorem runOn_ofFile_ok_bind (a : α) (f : α → Load β) (e : Engine) :
    runOn (Load.ofFile (.ok a) >>= f) e = runOn (f a) e :=
  runOn_bind_ok (runOn_ofFile (.ok a) e)

@[simp]
theorem runOn_ofFile_error_bind (error : FileError) (f : α → Load β) (e : Engine) :
    runOn (Load.ofFile (.error error) >>= f) e = (.error (.file error), e) :=
  runOn_bind_error (runOn_ofFile (.error error) e)

theorem runOn_discard {x : Load α} {e e' : Engine} {r : Except TemplateError α} (h : runOn x e = (r, e')) :
    runOn (discard x) e = (r.map fun _ => (), e') := by
  cases r with
  | ok a => exact runOn_bind_ok (f := fun _ => pure ()) h
  | error error => exact runOn_bind_error (f := fun _ => pure ()) h

theorem runOn_requireInitialized {e : Engine} (h : e.initialized = true) :
    runOn requireInitialized e = (.ok (), e) := by
  simp [requireInitialized, h]

end Load

/-! ## Answers -/

/-- The first format with a file for a key. -/
def FileStore.probe? (files : FileStore) (key : String) : List PageFormat → Except FileError (Option PageFormat)
  | [] => .ok none
  | f :: formats =>
    match files.info? (PageRules.fileName key f) with
    | .error e => .error e
    | .ok (some _) => .ok (some f)
    | .ok none => files.probe? key formats

namespace PageRules

open Load

/-- The layout of a name in the first of the given directories that has one. -/
def layoutIn? (rules : PageRules) (files : FileStore) (pageKey name : String) :
    List String → Except FileError (Option PageId)
  | [] => .ok none
  | directory :: directories =>
    let key := Path.join directory name
    if key = pageKey then rules.layoutIn? files pageKey name directories
    else
      match files.probe? key rules.formats with
      | .error e => .error e
      | .ok (some _) => .ok (some { kind := .layout, key })
      | .ok none => rules.layoutIn? files pageKey name directories

/-- The layout of a name for the page with a key. -/
def layout? (rules : PageRules) (files : FileStore) (pageKey name : String) : Except FileError (Option PageId) :=
  rules.layoutIn? files pageKey (Path.stripExtension (Path.normalize name)) (Path.ancestors pageKey)

/-- The layout that the arguments of a page select. Only a page that was asked for gets one. -/
def layoutOf? (rules : PageRules) (files : FileStore) (id : PageId) (f : PageFormat) (args : Table String) :
    Except FileError (Option PageId) :=
  match id.kind, f.layoutName args rules.settings.defaultLayoutPage with
  | .page, some name => rules.layout? files id.key name
  | _, _ => .ok none

/-- The content of a page with what its source parses to, and with the layout that its arguments select. -/
def contentOf? (rules : PageRules) (files : FileStore) (id : PageId) (f : PageFormat) (stamp : Int)
    (parsed : Table String × List Fragment) : Except TemplateError PageContent :=
  match rules.layoutOf? files id f parsed.1 with
  | .error e => .error (.file e)
  | .ok layout => .ok { path := fileName id.key f, args := parsed.1, fragments := parsed.2, layout, stamp }

/-- What the file of a page reads as. -/
def read? (rules : PageRules) (files : FileStore) (id : PageId) (f : PageFormat) : Except TemplateError PageContent :=
  let path := fileName id.key f
  match files.info? path with
  | .error e => .error (.file e)
  | .ok none => .error (.pageNotFound path)
  | .ok (some info) =>
    match files.read path with
    | .error e => .error (.file e)
    | .ok bytes =>
      match Utf8.decode? bytes with
      | none => .error (.utf8 path)
      | some source => rules.contentOf? files id f info.stamp (f.parseSource source)

/-- What comes of loading a layout. -/
def layoutAnswer (rules : PageRules) (files : FileStore) (id : PageId) : Except TemplateError Unit :=
  match files.probe? id.key rules.formats with
  | .ok (some f) => (rules.read? files id f).map fun _ => ()
  | _ => .ok ()

/-- What comes of loading a page and its layout. -/
def initAnswer (rules : PageRules) (files : FileStore) (id : PageId) (f : PageFormat) : Except TemplateError PageContent :=
  match rules.read? files id f with
  | .error e => .error e
  | .ok content =>
    match content.layout with
    | none => .ok content
    | some layout => (rules.layoutAnswer files layout).map fun _ => content

theorem runOn_probe (key : String) (formats : List PageFormat) (e : Engine) :
    runOn (probe key formats) e = ((e.files.probe? key formats).mapError .file, e) := by
  induction formats with
  | nil => rfl
  | cons f formats ih =>
    rw [probe, FileStore.probe?, runOn_get_bind]
    cases h : e.files.info? (fileName key f) with
    | error error => exact runOn_ofFile_error_bind error _ e
    | ok info =>
      rw [runOn_ofFile_ok_bind]
      cases info with
      | none => exact ih
      | some info => rfl

/-- What comes after probing finds the format that was found. -/
theorem runOn_probe_bind_ok {α : Type} {key : String} {formats : List PageFormat} {e : Engine} {found : Option PageFormat}
    (h : e.files.probe? key formats = .ok found) (f : Option PageFormat → Load α) :
    runOn (probe key formats >>= f) e = runOn (f found) e :=
  runOn_bind_ok ((runOn_probe key formats e).trans (by rw [h]; rfl))

theorem runOn_probe_bind_error {α : Type} {key : String} {formats : List PageFormat} {e : Engine} {error : FileError}
    (h : e.files.probe? key formats = .error error) (f : Option PageFormat → Load α) :
    runOn (probe key formats >>= f) e = (.error (.file error), e) :=
  runOn_bind_error ((runOn_probe key formats e).trans (by rw [h]; rfl))

theorem probe?_cons (files : FileStore) (key : String) (f : PageFormat) (formats : List PageFormat) :
    files.probe? key (f :: formats) =
      match files.info? (fileName key f) with
      | .error e => .error e
      | .ok (some _) => .ok (some f)
      | .ok none => files.probe? key formats := rfl

/-- Probing gives an answer if no look at a file fails. -/
theorem exists_probe? {files : FileStore} {key : String} {formats : List PageFormat}
    (h : ∀ f ∈ formats, ∃ info, files.info? (fileName key f) = .ok info) :
    ∃ found, files.probe? key formats = .ok found := by
  induction formats with
  | nil => exact ⟨none, rfl⟩
  | cons f formats ih =>
    obtain ⟨⟨info, hi⟩, hrest⟩ := List.forall_mem_cons.1 h
    rw [probe?_cons, hi]
    cases info with
    | some info => exact ⟨some f, rfl⟩
    | none => exact ih hrest

/-- Probing finds the first format with a file. -/
theorem probe?_eq_some_iff {files : FileStore} {key : String} {formats : List PageFormat} {f : PageFormat} :
    files.probe? key formats = .ok (some f) ↔
      (∃ info, files.info? (fileName key f) = .ok (some info)) ∧
        ∃ before after, formats = before ++ f :: after ∧ ∀ g ∈ before, files.info? (fileName key g) = .ok none := by
  constructor
  · intro h
    induction formats with
    | nil => simp [FileStore.probe?] at h
    | cons g formats ih =>
      rw [probe?_cons] at h
      split at h
      · simp at h
      · rename_i info hg
        obtain rfl : g = f := by simpa using h
        exact ⟨⟨info, hg⟩, [], formats, rfl, by simp⟩
      · rename_i hg
        obtain ⟨hf, before, after, rfl, hbefore⟩ := ih h
        exact ⟨hf, g :: before, after, rfl, List.forall_mem_cons.2 ⟨hg, hbefore⟩⟩
  · rintro ⟨⟨info, hi⟩, before, after, rfl, hbefore⟩
    induction before with
    | nil => rw [List.nil_append, probe?_cons, hi]
    | cons g before ih =>
      obtain ⟨hg, hbefore⟩ := List.forall_mem_cons.1 hbefore
      rw [List.cons_append, probe?_cons, hg]
      exact ih hbefore

/-- The format that probing finds is one of those tried, and has a file. -/
theorem probe?_eq_some {files : FileStore} {key : String} {formats : List PageFormat} {f : PageFormat}
    (h : files.probe? key formats = .ok (some f)) :
    f ∈ formats ∧ ∃ info, files.info? (fileName key f) = .ok (some info) := by
  obtain ⟨hi, before, after, rfl, -⟩ := probe?_eq_some_iff.1 h
  exact ⟨by simp, hi⟩

/-! ## The order of formats -/

theorem moveFirst_of_none {α : Type} {test : α → Bool} {as : List α} (h : ∀ a ∈ as, test a = false) :
    moveFirst test as = as := by
  induction as with
  | nil => rfl
  | cons a as ih =>
    have ha := h a List.mem_cons_self
    rw [moveFirst, ih fun b hb => h b (List.mem_cons_of_mem a hb)]
    cases as with
    | nil => simp [ha]
    | cons b bs => simp [ha, h b (List.mem_cons_of_mem a List.mem_cons_self)]

theorem moveFirst_append {α : Type} {test : α → Bool} {before after : List α} {a : α}
    (h : ∀ b ∈ before, test b = false) (ha : test a = true) :
    moveFirst test (before ++ a :: after) = a :: (before ++ after) := by
  induction before with
  | nil => simp [moveFirst, ha]
  | cons b before ih =>
    have hb := h b List.mem_cons_self
    rw [List.cons_append, moveFirst, ih fun b' hb' => h b' (List.mem_cons_of_mem b hb')]
    simp [hb, ha]

/-- The first of a list that passes a test, if one does, with what stands before and after it. -/
theorem exists_first {α : Type} (test : α → Bool) (as : List α) :
    (∀ a ∈ as, test a = false) ∨
      ∃ before a after, as = before ++ a :: after ∧ (∀ b ∈ before, test b = false) ∧ test a = true := by
  induction as with
  | nil => exact Or.inl (by simp)
  | cons a as ih =>
    cases ha : test a with
    | true => exact Or.inr ⟨[], a, as, rfl, by simp, ha⟩
    | false =>
      rcases ih with h | ⟨before, b, after, rfl, hbefore, hb⟩
      · exact Or.inl (by simpa [ha] using h)
      · exact Or.inr ⟨a :: before, b, after, rfl, by simpa [ha] using hbefore, hb⟩

theorem mem_moveFirst {α : Type} {test : α → Bool} {as : List α} {a : α} : a ∈ moveFirst test as ↔ a ∈ as := by
  rcases exists_first test as with h | ⟨before, b, after, rfl, hbefore, hb⟩
  · rw [moveFirst_of_none h]
  · rw [moveFirst_append hbefore hb]
    simp only [List.mem_cons, List.mem_append]
    exact or_left_comm

theorem mem_orderedFormats {rules : PageRules} {preferred : Option String} {f : PageFormat} :
    f ∈ rules.orderedFormats preferred ↔ f ∈ rules.formats := by
  cases preferred with
  | none => exact Iff.rfl
  | some extension => exact mem_moveFirst

/-! ## The format of a path -/

/-- The identity of the page at a path. -/
def pathId (rules : PageRules) (path : String) : PageId :=
  { kind := .page, key := (rules.pageKey (Path.normalize path)).1 }

/-- The format that a path has in the files: the first in its order that has a file. -/
def fileFormat? (rules : PageRules) (files : FileStore) (path : String) : Except FileError (Option PageFormat) :=
  files.probe? (rules.pathId path).key (rules.orderedFormats (rules.pageKey (Path.normalize path)).2)

/-- The format whose extension a path names. -/
def namedFormat? (rules : PageRules) (path : String) : Option PageFormat :=
  (rules.pageKey (Path.normalize path)).2.bind fun extension => rules.formats.find? (·.handles extension)

/-- A format without a file makes no difference to probing. -/
theorem probe?_without {files : FileStore} {key : String} {f : PageFormat} (h : files.info? (fileName key f) = .ok none)
    (before after : List PageFormat) : files.probe? key (before ++ f :: after) = files.probe? key (before ++ after) := by
  induction before with
  | nil => rw [List.nil_append, probe?_cons, h, List.nil_append]
  | cons g before ih => rw [List.cons_append, probe?_cons, ih, List.cons_append, probe?_cons]

/-- No format has a file exactly when none of the files is there. -/
theorem probe?_eq_none_iff {files : FileStore} {key : String} {formats : List PageFormat} :
    files.probe? key formats = .ok none ↔ ∀ f ∈ formats, files.info? (fileName key f) = .ok none := by
  induction formats with
  | nil => simp [FileStore.probe?]
  | cons f formats ih =>
    rw [probe?_cons, List.forall_mem_cons, ← ih]
    cases h : files.info? (fileName key f) with
    | error e => simp
    | ok info => cases info <;> simp

/-- A path has the format that it names if that has a file, and else the first format with a file. -/
theorem fileFormat?_eq (rules : PageRules) (files : FileStore) (path : String) :
    rules.fileFormat? files path =
      match rules.namedFormat? path with
      | none => files.probe? (rules.pathId path).key rules.formats
      | some f =>
        match files.info? (fileName (rules.pathId path).key f) with
        | .error e => .error e
        | .ok (some _) => .ok (some f)
        | .ok none => files.probe? (rules.pathId path).key rules.formats := by
  unfold fileFormat? namedFormat? orderedFormats
  cases (rules.pageKey (Path.normalize path)).2 with
  | none => rfl
  | some extension =>
    rcases exists_first (·.handles extension) rules.formats with h | ⟨before, f, after, hformats, hbefore, hf⟩
    · have hnone : rules.formats.find? (·.handles extension) = none :=
        List.find?_eq_none.2 fun f hf => by simp [h f hf]
      simp only [Option.bind_some, hnone, moveFirst_of_none h]
    · have hnone : before.find? (·.handles extension) = none := List.find?_eq_none.2 fun g hg => by simp [hbefore g hg]
      have hsome : rules.formats.find? (·.handles extension) = some f := by
        simp [hformats, List.find?_append, hnone, hf]
      simp only [Option.bind_some, hsome]
      rw [hformats, moveFirst_append hbefore hf, probe?_cons]
      cases hi : files.info? (fileName (rules.pathId path).key f) with
      | error e => rfl
      | ok info =>
        cases info with
        | none => exact (probe?_without hi before after).symm
        | some info => rfl

/-- A path has no format exactly when no format has a file for it. -/
theorem fileFormat?_eq_none_iff {rules : PageRules} {files : FileStore} {path : String} :
    rules.fileFormat? files path = .ok none ↔
      ∀ f ∈ rules.formats, files.info? (fileName (rules.pathId path).key f) = .ok none := by
  rw [fileFormat?, probe?_eq_none_iff]
  exact ⟨fun h f hf => h f (mem_orderedFormats.2 hf), fun h f hf => h f (mem_orderedFormats.1 hf)⟩

end PageRules

end PageTemplates
