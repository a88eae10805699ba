import PageTemplates.Proofs.Pages.Composed

/-!
# What lookups read

Lookups learn of the files of a site only what it says is known of a file at a path, and what the file there reads as. So files
that answer both in the same way make no difference to a lookup. Main statements: this holds of looking for a layout
(`SameReading.stable_findLayout`), of refreshing a page (`SameReading.stable_refresh`), and of asking for a path
(`SameReading.stable_getPage`).
-/

namespace PageTemplates

open PageRules Load

/-- Two states that differ in their files at most, and whose files read the same. -/
structure SameReading (e e' : Engine) : Prop where
  frame : e' = { e with files := e'.files }
  info : ∀ path, e'.files.info? path = e.files.info? path
  read : ∀ path, e'.files.read path = e.files.read path

namespace SameReading

variable {rules : PageRules} {site : Site} {e e' : Engine}

theorem page? (h : SameReading e e') (id : PageId) : e'.page? id = e.page? id := by
  rw [h.frame]
  rfl

theorem filesFor_info (h : SameReading e e') (kind : PageKind) (path : String) :
    (e'.filesFor kind).info? path = (e.filesFor kind).info? path := by
  have htemp : e'.tempFiles = e.tempFiles := by rw [h.frame]
  cases kind with
  | page => exact h.info path
  | layout => exact h.info path
  | oneTime => rw [Engine.filesFor, Engine.filesFor, htemp]

theorem filesFor_read (h : SameReading e e') (kind : PageKind) (path : String) :
    (e'.filesFor kind).read path = (e.filesFor kind).read path := by
  have htemp : e'.tempFiles = e.tempFiles := by rw [h.frame]
  cases kind with
  | page => exact h.read path
  | layout => exact h.read path
  | oneTime => rw [Engine.filesFor, Engine.filesFor, htemp]

theorem putPage (h : SameReading e e') (p : Page) : SameReading (e.putPage p) (e'.putPage p) := by
  have hfiles : ∀ e : Engine, (e.putPage p).files = e.files := fun e => Engine.filesFor_putPage e p .page
  refine ⟨?_, fun path => ?_, fun path => ?_⟩
  · rw [hfiles e', h.frame]
    unfold Engine.putPage
    split <;> rfl
  · rw [hfiles, hfiles]
    exact h.info path
  · rw [hfiles, hfiles]
    exact h.read path

theorem sameIndex : SameIndex SameReading :=
  ⟨fun e e' h => by rw [h.frame], fun e e' h => by rw [h.frame], fun e e' id h => h.page? id⟩

/-! ## Lookups -/

theorem stable_probe (key : String) (formats : List PageFormat) : Stable SameReading (probe key formats) := by
  induction formats with
  | nil => exact Stable.pure none
  | cons f formats ih =>
    rw [probe]
    refine stable_get_bind (fun e e' h => by rw [h.info]) fun e => (stable_ofFile _).bind fun found => ?_
    cases found with
    | some info => exact Stable.pure _
    | none => exact ih

theorem stable_register (kind : PageKind) (key : String) (f : PageFormat) : Stable SameReading (register kind key f) :=
  (Stable.modify fun _ _ h => h.putPage _).bind fun _ => Stable.pure _

theorem stable_findLayoutIn (pageKey name : String) (directories : List String) :
    Stable SameReading (rules.findLayoutIn pageKey name directories) := by
  induction directories with
  | nil => exact Stable.pure none
  | cons directory directories ih =>
    rw [findLayoutIn]
    split
    · exact ih
    · refine stable_get_bind (fun e e' h => by rw [h.page?]) fun e => ?_
      split
      · exact Stable.pure _
      · refine (stable_probe _ _).bind fun found => ?_
        cases found with
        | some f => exact (stable_register .layout _ f).bind fun _ => Stable.pure _
        | none => exact ih

theorem stable_findLayout (pageKey name : String) : Stable SameReading (rules.findLayout pageKey name) :=
  sameIndex.stable_requireInitialized.bind fun _ => stable_findLayoutIn pageKey _ _

theorem stable_dueForCheck (p : Page) : Stable SameReading (rules.dueForCheck p) := by
  have hnote : ∀ now, Stable SameReading (do
      modify (·.putPage { p with lastChecked := some now })
      return true : Load Bool) := fun now => (Stable.modify fun _ _ h => h.putPage _).bind fun _ => Stable.pure _
  unfold dueForCheck
  split
  · exact Stable.pure _
  · split
    · exact Stable.pure _
    · refine stable_get_bind (fun e e' h => by rw [h.frame]) fun e => ?_
      split
      · dsimp only
        split
        · exact Stable.pure _
        · exact hnote _
      · exact hnote _

theorem stable_selectLayout (p : Page) (args : Table String) : Stable SameReading (rules.selectLayout p args) := by
  unfold selectLayout
  split
  · exact stable_findLayout _ _
  · exact Stable.pure none

theorem stable_keepContent (p : Page) (c : PageContent) : Stable SameReading (keepContent p c) := by
  refine (Stable.modify fun e e' h => ?_).bind fun _ => Stable.pure c
  rw [h.page?]
  exact h.putPage _

theorem stable_attach (p : Page) (stamp : Int) (parsed : Table String × List Fragment) :
    Stable SameReading (rules.attach p stamp parsed) := by
  rw [attach_eq]
  exact (stable_selectLayout p parsed.1).bind fun _ => stable_keepContent p _

theorem stable_load (p : Page) : Stable SameReading (rules.load p) := by
  rw [load_eq]
  refine stable_get_bind (fun e e' h => ?_) fun e => (stable_ofFile _).bind fun found => ?_
  · simp only [reload, h.filesFor_info, h.filesFor_read]
  · cases found with
    | none => exact Stable.throw _
    | some info =>
      simp only
      split
      · exact Stable.pure _
      · refine (stable_ofFile _).bind fun bytes => ?_
        split
        · exact Stable.throw _
        · exact stable_attach _ _ _

theorem stable_refresh (id : PageId) : Stable SameReading (rules.refresh id) := by
  refine stable_get_bind (fun e e' h => by rw [h.page?]) fun e => ?_
  cases e.page? id with
  | none => exact Stable.throw _
  | some p =>
    obtain ⟨pid, path, format, content, lastChecked⟩ := p
    cases content with
    | none => exact stable_load _
    | some content =>
      refine (stable_dueForCheck _).bind fun due => ?_
      split
      · refine stable_get_bind (fun e e' h => by rw [h.filesFor_info]) fun e => (stable_ofFile _).bind fun found => ?_
        cases found with
        | none => exact Stable.pure _
        | some info =>
          simp only
          split
          · exact Stable.pure _
          · exact stable_load _
      · exact Stable.pure _

/-- Asking for a path reads what is at paths. -/
theorem stable_getPage (path : String) : Stable SameReading (rules.getPage path) := by
  rw [getPage_eq]
  refine sameIndex.stable_requireInitialized.bind fun _ => ?_
  refine stable_get_bind (fun e e' h => by rw [h.page?]) fun e => ?_
  split
  · exact (stable_discard (stable_initPage stable_refresh _)).bind fun _ => Stable.pure _
  · refine (stable_probe _ _).bind fun found => ?_
    cases found with
    | none => exact Stable.pure _
    | some f =>
      refine (stable_register .page _ f).bind fun id => ?_
      exact (stable_discard (stable_initPage stable_refresh id)).bind fun _ => Stable.pure _

/-- Making a one-time page reads the file that is written for it. -/
theorem stable_oneTimePage (contents : String) (extension : Option String) :
    Stable SameReading (rules.oneTimePage contents extension) := by
  refine sameIndex.stable_oneTimePage stable_refresh (fun e e' key path f _ number bytes h => ?_)
    (fun e e' path h => ⟨by rw [h.frame], h.info, h.read⟩) contents extension
  have hput := h.putPage { id := { kind := .oneTime, key }, path, format := f }
  exact ⟨by rw [h.frame]; rfl, hput.info, hput.read⟩

end SameReading

end PageTemplates
