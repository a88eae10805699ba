import PageTemplates.Proofs.Files.Ancestors
import PageTemplates.Proofs.Pages.RequestOrder

/-!
# The layout nearest to a page

The layout of a page is looked for in the directory of the page and then in the directories above it, up to the root. A site
remembers the layouts that it found, but what it remembers agrees with its files, so earlier lookups make no difference. Main
statement: whatever was looked up before, the lookup ends with the layout in the deepest directory that has one, in the first
format with a file there, and with none exactly when no directory has one (`findLayout_nearest`).
-/

namespace PageTemplates.PageRules

open Load

/-! ## Lookups -/

/-- What a site can be asked for: the layout of a name for the page with a key, or a page. -/
inductive Lookup where
  | layout (pageKey name : String)
  | page (request : PageRequest)

/-- The site after a lookup, whatever came of it. -/
def lookUp (rules : PageRules) (e : Engine) : Lookup → Engine
  | .layout pageKey name => (runOn (rules.findLayout pageKey name) e).2
  | .page request => (rules.serve e request).2

/-- A lookup leaves a site that can be asked again, over the same files. -/
theorem lookUp_ready {rules : PageRules} {e : Engine} (h : rules.Ready e) (l : Lookup) :
    rules.Ready (rules.lookUp e l) ∧ (rules.lookUp e l).files = e.files := by
  cases l with
  | layout pageKey name =>
    obtain ⟨e', ha, -⟩ := answers_findLayout h pageKey name
    have hafter : rules.lookUp e (.layout pageKey name) = e' := congrArg Prod.snd ha.run
    rw [hafter]
    exact ⟨ha.ready, ha.later.files⟩
  | page request =>
    obtain ⟨-, hopened⟩ := serve_opened h request
    exact ⟨hopened.ready, hopened.files⟩

/-- Any number of lookups leave a site that can be asked again, over the same files. -/
theorem foldl_lookUp_ready {rules : PageRules} {e : Engine} (h : rules.Ready e) (history : List Lookup) :
    rules.Ready (history.foldl rules.lookUp e) ∧ (history.foldl rules.lookUp e).files = e.files := by
  induction history generalizing e with
  | nil => exact ⟨h, rfl⟩
  | cons l history ih =>
    obtain ⟨hready, hfiles⟩ := lookUp_ready h l
    obtain ⟨hready', hfiles'⟩ := ih hready
    exact ⟨hready', hfiles'.trans hfiles⟩

/-! ## The nearest layout -/

/-- The key that a layout name has in the directory on a level above a page. -/
def layoutKey (pageKey name : String) (level : Nat) : String :=
  Path.join (Path.directoryAt pageKey level) (Path.stripExtension (Path.normalize name))

/-- The directory on a level above a page has no layout of a name for the page: it would be the page itself, or no format has a
file for it. -/
def LacksLayout (rules : PageRules) (files : FileStore) (pageKey name : String) (level : Nat) : Prop :=
  layoutKey pageKey name level ≠ pageKey →
    ∀ f ∈ rules.formats, files.info? (fileName (layoutKey pageKey name level) f) = .ok none

/-- Of the directories above a page on the first so many levels, the one on a level is the deepest with a layout of a name, and
a format is the first with a file for that layout. -/
structure NearestLayout (rules : PageRules) (files : FileStore) (pageKey name : String) (levels level : Nat) (f : PageFormat) :
    Prop where
  above : level < levels
  other : layoutKey pageKey name level ≠ pageKey
  file : ∃ info, files.info? (fileName (layoutKey pageKey name level) f) = .ok (some info)
  first : ∃ before after, rules.formats = before ++ f :: after ∧
    ∀ g ∈ before, files.info? (fileName (layoutKey pageKey name level) g) = .ok none
  deepest : ∀ deeper, level < deeper → deeper < levels → rules.LacksLayout files pageKey name deeper

section

variable {rules : PageRules} {files : FileStore} {pageKey name : String} {levels level level' : Nat} {f f' : PageFormat}

theorem NearestLayout.probe? (h : rules.NearestLayout files pageKey name levels level f) :
    files.probe? (layoutKey pageKey name level) rules.formats = .ok (some f) :=
  probe?_eq_some_iff.2 ⟨h.file, h.first⟩

/-- A directory with a layout does not lack it. -/
theorem NearestLayout.not_lacksLayout (h : rules.NearestLayout files pageKey name levels level f) :
    ¬rules.LacksLayout files pageKey name level := by
  intro hlacks
  have hnone := probe?_eq_none_iff.2 (hlacks h.other)
  rw [h.probe?] at hnone
  simp at hnone

/-- There is one nearest layout at most. -/
theorem NearestLayout.unique (h : rules.NearestLayout files pageKey name levels level f)
    (h' : rules.NearestLayout files pageKey name levels level' f') : level' = level ∧ f' = f := by
  obtain rfl : level' = level := by
    rcases Nat.lt_trichotomy level' level with hlt | heq | hlt
    · exact absurd (h'.deepest level hlt h.above) h.not_lacksLayout
    · exact heq
    · exact absurd (h.deepest level' hlt h'.above) h'.not_lacksLayout
  refine ⟨rfl, ?_⟩
  have hsame := h'.probe?.symm.trans h.probe?
  simpa using hsame

theorem NearestLayout.succ (h : rules.NearestLayout files pageKey name levels level f)
    (hlacks : rules.LacksLayout files pageKey name levels) : rules.NearestLayout files pageKey name (levels + 1) level f := by
  refine { h with above := Nat.lt_succ_of_lt h.above, deepest := fun deeper hlt hle => ?_ }
  rcases Nat.lt_succ_iff_lt_or_eq.1 hle with hlt' | rfl
  · exact h.deepest deeper hlt hlt'
  · exact hlacks

/-- What looking for a layout on the first so many levels should give: the nearest one, or none if every directory lacks it. -/
def IsLayoutAnswer (rules : PageRules) (files : FileStore) (pageKey name : String) (levels : Nat) : Option PageId → Prop
  | some id => ∃ level f, rules.NearestLayout files pageKey name levels level f ∧
      id = { kind := .layout, key := layoutKey pageKey name level }
  | none => ∀ level < levels, rules.LacksLayout files pageKey name level

/-- A deeper directory that lacks the layout makes no difference. -/
theorem IsLayoutAnswer.succ {found : Option PageId} (h : rules.IsLayoutAnswer files pageKey name levels found)
    (hlacks : rules.LacksLayout files pageKey name levels) : rules.IsLayoutAnswer files pageKey name (levels + 1) found := by
  cases found with
  | none =>
    intro level hlevel
    rcases Nat.lt_succ_iff_lt_or_eq.1 hlevel with hlt | rfl
    · exact h level hlt
    · exact hlacks
  | some id =>
    obtain ⟨level, f, hnearest, hid⟩ := h
    exact ⟨level, f, hnearest.succ hlacks, hid⟩

theorem isLayoutAnswer_some_iff {found : Option PageId} (h : rules.IsLayoutAnswer files pageKey name levels found)
    (id : PageId) : found = some id ↔ ∃ level f, rules.NearestLayout files pageKey name levels level f ∧
      id = { kind := .layout, key := layoutKey pageKey name level } := by
  constructor
  · rintro rfl
    exact h
  · rintro ⟨level, f, hnearest, rfl⟩
    cases found with
    | none => exact absurd (h level hnearest.above) hnearest.not_lacksLayout
    | some id' =>
      obtain ⟨level', f', hnearest', rfl⟩ := h
      rw [(hnearest.unique hnearest').1]

theorem isLayoutAnswer_none_iff {found : Option PageId} (h : rules.IsLayoutAnswer files pageKey name levels found) :
    found = none ↔ ∀ level < levels, rules.LacksLayout files pageKey name level := by
  constructor
  · rintro rfl
    exact h
  · intro hlacks
    cases found with
    | none => rfl
    | some id =>
      obtain ⟨level, f, hnearest, -⟩ := h
      exact absurd (hlacks level hnearest.above) hnearest.not_lacksLayout

/-- The walk through the directories on the first levels gives what it should. -/
theorem layoutIn?_directoriesBelow
    (hprobes : ∀ level < levels, layoutKey pageKey name level ≠ pageKey →
      ∀ f ∈ rules.formats, ∃ info, files.info? (fileName (layoutKey pageKey name level) f) = .ok info) :
    ∃ found, rules.layoutIn? files pageKey (Path.stripExtension (Path.normalize name)) (Path.directoriesBelow pageKey levels) =
        .ok found ∧ rules.IsLayoutAnswer files pageKey name levels found := by
  -- The walk starts at the highest level, so the induction takes its first directory away.
  induction levels with
  | zero => exact ⟨none, rfl, fun level hlevel => absurd hlevel (Nat.not_lt_zero level)⟩
  | succ levels ih =>
    obtain ⟨found, hfound, hanswer⟩ := ih fun level hlevel => hprobes level (Nat.lt_succ_of_lt hlevel)
    rw [Path.directoriesBelow, layoutIn?]
    by_cases hself : layoutKey pageKey name levels = pageKey
    · have hlacks : rules.LacksLayout files pageKey name levels := fun hother => absurd hself hother
      exact ⟨found, (if_pos hself).trans hfound, hanswer.succ hlacks⟩
    · obtain ⟨probed, hprobe⟩ := exists_probe? (hprobes levels (Nat.lt_succ_self levels) hself)
      have hprobe' : files.probe? (Path.join (Path.directoryAt pageKey levels) (Path.stripExtension (Path.normalize name)))
          rules.formats = .ok probed := hprobe
      simp only [hprobe']
      cases probed with
      | none =>
        have hlacks : rules.LacksLayout files pageKey name levels := fun _ => probe?_eq_none_iff.1 hprobe
        exact ⟨found, (if_neg hself).trans hfound, hanswer.succ hlacks⟩
      | some f =>
        obtain ⟨hfile, hfirst⟩ := probe?_eq_some_iff.1 hprobe
        have hnearest : rules.NearestLayout files pageKey name (levels + 1) levels f :=
          ⟨Nat.lt_succ_self levels, hself, hfile, hfirst, fun deeper hlt hle => by omega⟩
        exact ⟨_, if_neg hself, levels, f, hnearest, rfl⟩

end

/-- **The nearest layout.** Whatever a site was asked for before, it finds the layout of a name for a page in the deepest
directory that has one among those above the page, from the page's own up to the root. The layout's file is there in the first
of the formats that have one, and a page is no layout of itself. There is no layout exactly when no directory has one. -/
theorem findLayout_nearest (rules : PageRules) (files : FileStore) (history : List Lookup) {pageKey : String} (name : String)
    (hkey : Path.normalize pageKey = pageKey)
    (hprobes : ∀ level < Path.depth pageKey, layoutKey pageKey name level ≠ pageKey →
      ∀ f ∈ rules.formats, ∃ info, files.info? (fileName (layoutKey pageKey name level) f) = .ok info) :
    ∃ found e', runOn (rules.findLayout pageKey name) (history.foldl rules.lookUp (Engine.over files)) = (.ok found, e') ∧
      (∀ id, found = some id ↔ ∃ level f, rules.NearestLayout files pageKey name (Path.depth pageKey) level f ∧
        id = { kind := .layout, key := layoutKey pageKey name level }) ∧
      (found = none ↔ ∀ level < Path.depth pageKey, rules.LacksLayout files pageKey name level) ∧
      ∀ level f, rules.NearestLayout files pageKey name (Path.depth pageKey) level f →
        ∃ p, e'.page? { kind := .layout, key := layoutKey pageKey name level } = some p ∧ p.format = f ∧
          p.path = fileName (layoutKey pageKey name level) f := by
  obtain ⟨hready, hfiles⟩ := foldl_lookUp_ready (ready_over rules files) history
  obtain ⟨e', ha, hknown⟩ := answers_findLayout hready pageKey name
  obtain ⟨found, hfound, hanswer⟩ := layoutIn?_directoriesBelow hprobes
  have hlayout : rules.layout? (history.foldl rules.lookUp (Engine.over files)).files pageKey name = .ok found := by
    rw [hfiles, layout?, Path.ancestors_eq hkey]
    exact hfound
  have hsome := isLayoutAnswer_some_iff hanswer
  refine ⟨found, e', ?_, hsome, isLayoutAnswer_none_iff hanswer, fun level f hnearest => ?_⟩
  · rw [ha.run, hlayout]
    rfl
  · have hid := (hsome _).2 ⟨level, f, hnearest, rfl⟩
    obtain ⟨hkind, hregistered⟩ := hknown _ (hid ▸ hlayout)
    obtain ⟨p, hp⟩ := Option.isSome_iff_exists.1 hregistered
    have hfaithful := ha.ready.consistent _ p hp
    -- A layout is registered with the format that probing finds, and the files are still those of the site.
    have hprobed := hfaithful.probed hkind
    rw [ha.later.files, hfiles] at hprobed
    have hformat : p.format = f := by
      have hsame := hprobed.symm.trans hnearest.probe?
      simpa using hsame
    exact ⟨p, (page?_eq hfaithful.kind).trans hp, hformat, hformat ▸ hfaithful.path⟩

/-- Files with a layout in the root directory and another one below it. -/
def nestedLayouts : FileStore :=
  .memory { files := [("_layout.html", { bytes := Utf8.encode "root", stamp := 0 }),
    ("docs/_layout.md", { bytes := Utf8.encode "docs", stamp := 0 }),
    ("docs/guide/intro.md", { bytes := Utf8.encode "intro", stamp := 0 })] }

/-- A page two directories down gets the layout one directory down, in the second format, although that of the root was looked
up before. -/
theorem findLayout_nearest_docs :
    Path.normalize "docs/guide/intro" = "docs/guide/intro" ∧
      (∀ level < Path.depth "docs/guide/intro", layoutKey "docs/guide/intro" "_layout" level ≠ "docs/guide/intro" →
        ∀ f ∈ usualRules.formats,
          ∃ info, nestedLayouts.info? (fileName (layoutKey "docs/guide/intro" "_layout" level) f) = .ok info) ∧
      ∃ e', runOn (usualRules.findLayout "docs/guide/intro" "_layout")
          ([.layout "index" "_layout", .page { path := "docs/guide/intro" }].foldl usualRules.lookUp
            (Engine.over nestedLayouts)) = (.ok (some { kind := .layout, key := "docs/_layout" }), e') ∧
        ∃ p, e'.page? { kind := .layout, key := "docs/_layout" } = some p ∧ p.path = "docs/_layout.md" := by
  have hkey : Path.normalize "docs/guide/intro" = "docs/guide/intro" := by decide
  have hprobes : ∀ level < Path.depth "docs/guide/intro", layoutKey "docs/guide/intro" "_layout" level ≠ "docs/guide/intro" →
      ∀ f ∈ usualRules.formats,
        ∃ info, nestedLayouts.info? (fileName (layoutKey "docs/guide/intro" "_layout" level) f) = .ok info :=
    fun _ _ _ _ _ => ⟨_, rfl⟩
  have hnearest : usualRules.NearestLayout nestedLayouts "docs/guide/intro" "_layout" (Path.depth "docs/guide/intro") 1
      .markdown := by
    refine ⟨by decide, by decide, ⟨{ path := "docs/_layout.md", stamp := 0 }, by decide⟩, ⟨[.html], [], rfl, ?_⟩, ?_⟩
    · intro g hg
      obtain rfl := List.mem_singleton.1 hg
      decide
    · intro deeper hlt hle
      have hdepth : Path.depth "docs/guide/intro" = 3 := by decide
      obtain rfl : deeper = 2 := by omega
      intro _ f hf
      have hformats : f = .html ∨ f = .markdown := by simpa [usualRules] using hf
      rcases hformats with rfl | rfl
      · decide
      · decide
  obtain ⟨found, e', hrun, hsome, -, hregistered⟩ := findLayout_nearest usualRules nestedLayouts
    [.layout "index" "_layout", .page { path := "docs/guide/intro" }] "_layout" hkey hprobes
  have hfound := (hsome { kind := .layout, key := "docs/_layout" }).2 ⟨1, .markdown, hnearest, by decide⟩
  obtain ⟨p, hp, -, hpath⟩ := hregistered 1 .markdown hnearest
  exact ⟨hkey, hprobes, e', hfound ▸ hrun, p, hp, hpath⟩

end PageTemplates.PageRules
