import PageTemplates.Proofs.Freshness.Renders

/-!
# Renders between writes

Files change while a site is in use. A file that is written gets a later stamp, so a content that was read before has another
stamp, and the next access reads the file again. Main statement: after any renders and overwritten files, a page renders as on a
new site over the files as they are (`renderPage_after_history`).
-/

namespace PageTemplates

open PageRules

/-! ## Overwriting a file -/

section

variable {rules : PageRules} {m : MemoryFiles} {path : String} {bytes : Bytes} {clock : Int}

/-- After a write a path names the new file if it names the written one, and otherwise what it named before. -/
theorem get?_write (m : MemoryFiles) (path : String) (bytes : Bytes) (clock : Int) (other : String) :
    (m.write path bytes clock).get? other =
      if Path.normalize other = Path.normalize path then some { bytes, stamp := m.nextStamp path clock } else m.get? other :=
  Table.get?_insert m.files (Path.normalize path) _ (Path.normalize other)

/-- Overwriting a file changes nothing about which files there are. -/
theorem isSome_get?_write (h : (m.get? path).isSome = true) (other : String) :
    ((m.write path bytes clock).get? other).isSome = (m.get? other).isSome := by
  rw [get?_write]
  by_cases hpath : Path.normalize other = Path.normalize path
  · have hother : (m.get? other).isSome = true := by
      unfold MemoryFiles.get? at h ⊢
      rw [hpath]
      exact h
    rw [if_pos hpath, hother]
    rfl
  · rw [if_neg hpath]

theorem info?_write_of_ne {other : String} (h : Path.normalize other ≠ Path.normalize path) :
    (m.write path bytes clock).info? other = m.info? other := by
  unfold MemoryFiles.info?
  rw [get?_write, if_neg h]

theorem OneFormat.write (hm : OneFormat rules m) (h : (m.get? path).isSome = true) :
    OneFormat rules (m.write path bytes clock) := by
  intro key f hf g hg hfile hfile'
  rw [isSome_get?_write h] at hfile hfile'
  exact hm key f hf g hg hfile hfile'

theorem probe?_write (h : (m.get? path).isSome = true) (key : String) (formats : List PageFormat) :
    (FileStore.memory (m.write path bytes clock)).probe? key formats = (FileStore.memory m).probe? key formats := by
  induction formats with
  | nil => rfl
  | cons f formats ih =>
    have hsome : ((m.write path bytes clock).info? (fileName key f)).isSome = (m.info? (fileName key f)).isSome := by
      simp only [MemoryFiles.info?, Option.isSome_map]
      exact isSome_get?_write h _
    rw [probe?_cons, probe?_cons, info?_memory, info?_memory, ih]
    cases hold : m.info? (fileName key f) <;> cases hnew : (m.write path bytes clock).info? (fileName key f) <;>
      simp [hold, hnew] at hsome ⊢

/-- Overwriting a file changes no layout. -/
theorem layoutOf?_write (h : (m.get? path).isSome = true) (id : PageId) (f : PageFormat) (args : Table String) :
    rules.layoutOf? (.memory (m.write path bytes clock)) id f args = rules.layoutOf? (.memory m) id f args := by
  have hin : ∀ pageKey name directories,
      rules.layoutIn? (.memory (m.write path bytes clock)) pageKey name directories =
        rules.layoutIn? (.memory m) pageKey name directories := by
    intro pageKey name directories
    induction directories with
    | nil => rfl
    | cons directory directories ih => simp only [layoutIn?, probe?_write h, ih]
  unfold layoutOf? layout?
  simp only [hin]

/-- Overwriting a file changes nothing about what the others read as. -/
theorem read?_write (h : (m.get? path).isSome = true) {id : PageId} {f : PageFormat}
    (hpath : Path.normalize (fileName id.key f) ≠ Path.normalize path) :
    rules.read? (.memory (m.write path bytes clock)) id f = rules.read? (.memory m) id f := by
  have hread : (FileStore.memory (m.write path bytes clock)).read (fileName id.key f) =
      (FileStore.memory m).read (fileName id.key f) := by
    simp only [FileStore.read, get?_write, if_neg hpath]
  unfold read? contentOf?
  simp only [info?_memory, info?_write_of_ne hpath, hread, layoutOf?_write h]

/-- Overwriting a file keeps what is known of a page in agreement with the files: a content of the written file has an older
stamp than the file now. -/
theorem Faithful.write {pages : Table Page PageId} {id : PageId} {p : Page} (h : (m.get? path).isSome = true)
    (hp : rules.Faithful (.memory m) pages id p) : rules.Faithful (.memory (m.write path bytes clock)) pages id p := by
  refine { hp with file := ?_, probed := fun hk => (probe?_write h _ _).trans (hp.probed hk) }
  obtain ⟨info, hi, hcontent⟩ := hp.file
  rw [info?_memory] at hi
  by_cases hpath : Path.normalize p.path = Path.normalize path
  · have hfile : m.get? p.path = m.get? path := by
      unfold MemoryFiles.get?
      rw [hpath]
    obtain ⟨file, hold⟩ := Option.isSome_iff_exists.1 h
    have hlt := MemoryFiles.stamp_lt_nextStamp hold clock
    have hinfo : m.info? p.path = some { path := Path.normalize p.path, stamp := file.stamp } := by
      simp only [MemoryFiles.info?, hfile, hold, Option.map_some]
    obtain rfl := Option.some.inj (hinfo.symm.trans (Except.ok.inj hi))
    refine ⟨{ path := Path.normalize p.path, stamp := m.nextStamp path clock }, ?_, fun c hc => ?_⟩
    · rw [info?_memory]
      simp only [MemoryFiles.info?, get?_write, if_pos hpath, Option.map_some]
    · have hle := (hcontent c hc).1
      simp only at hle ⊢
      exact ⟨by omega, fun hstamp => absurd hstamp (by omega)⟩
  · refine ⟨info, ?_, fun c hc => ?_⟩
    · rw [info?_memory, info?_write_of_ne hpath]
      exact hi
    · obtain ⟨hle, hread⟩ := hcontent c hc
      refine ⟨hle, fun hstamp => ?_⟩
      rw [read?_write h (hp.path ▸ hpath)]
      exact hread hstamp

/-- A coherent site stays coherent when a file is overwritten, if it checks its files at every access. -/
theorem Coherent.write {known : List PageId} {e : Engine} (hc : Coherent rules m known e) (hchecks : rules.AlwaysChecks)
    (h : (m.get? path).isSome = true) :
    Coherent rules (m.write path bytes clock) known ({ e with clock }.writeFile path bytes none) := by
  have hfiles : ({ e with clock }.writeFile path bytes none).files = .memory (m.write path bytes clock) := by
    simp only [Engine.writeFile, hc.files, FileStore.write]
  refine ⟨hfiles, ⟨hc.ready.initialized, fun id p hp => ?_, Or.inl hchecks⟩, hc.binder, hc.text, hc.known⟩
  have hf := hc.ready.consistent id p hp
  rw [hc.files] at hf
  rw [hfiles]
  exact Faithful.write h hf

end

/-! ## Histories -/

/-- The state of a site when the clock reads a time. -/
def Engine.atTime (e : Engine) (clock : Int) : Engine :=
  { e with clock }

/-- The site when the text of the current time is another one. -/
def Site.withNow (site : Site) (now : String) : Site :=
  { site with now }

/-- What happens to a site: a page is rendered, or a file is written, each at a reading of the clock. A render also knows the
text of the current time, and how deep its computations may nest. -/
inductive SiteEvent where
  | render (clock : Int) (now : String) (fuel : Nat) (path : String) (args : Table Value)
  | write (clock : Int) (path : String) (bytes : Bytes)

namespace SiteEvent

/-- The state of a site after an event. -/
def run (site : Site) (e : Engine) : SiteEvent → Engine
  | .render clock now fuel path args => (((site.withNow now).renderPage fuel path args).run (e.atTime clock)).state
  | .write clock path bytes => (e.atTime clock).writeFile path bytes none

/-- The files after an event. -/
def change (m : MemoryFiles) : SiteEvent → MemoryFiles
  | .render .. => m
  | .write clock path bytes => m.write path bytes clock

/-- An event writes no file that is not there already. -/
def Overwrites (m : MemoryFiles) : SiteEvent → Prop
  | .render .. => True
  | .write _ path _ => (m.get? path).isSome = true

end SiteEvent

theorem Coherent.atTime {rules : PageRules} {m : MemoryFiles} {known : List PageId} {e : Engine}
    (h : Coherent rules m known e) (clock : Int) : Coherent rules m known (e.atTime clock) :=
  ⟨h.files, h.ready.withClock clock, h.binder, h.text, h.known⟩

/-- A new site is coherent. -/
theorem coherent_over (rules : PageRules) (m : MemoryFiles) : Coherent rules m [] (Engine.over (.memory m)) := by
  refine ⟨rfl, ready_over rules (.memory m), fun _ _ _ h => ?_, fun _ _ _ h => ?_, by simp⟩
  · simp [Engine.over, BinderCache.get?] at h
  · simp [Engine.over, TypedCache.get?, TypedCache.find?] at h

section

variable {site : Site} {m : MemoryFiles} {e : Engine}

theorem Site.Usual.withNow (h : site.Usual) (now : String) : (site.withNow now).Usual :=
  ⟨h.formats, h.filters, h.compiler⟩

/-- An event leaves a coherent site coherent with the files after it. -/
theorem Coherent.event (h : site.Usual) (hchecks : site.AlwaysChecks) (hm : OneFormat site.toPageRules m)
    (hc : Coherent site.toPageRules m [] e) {event : SiteEvent} (hevent : event.Overwrites m) :
    Coherent site.toPageRules (event.change m) [] (event.run site e) ∧ OneFormat site.toPageRules (event.change m) ∧
      ∀ other, ((event.change m).get? other).isSome = (m.get? other).isSome := by
  cases event with
  | render clock now fuel path args =>
    have hstable := stable_renderPage (h.withNow now) (m := m) hm fuel path args
    exact ⟨(hstable _ _ ⟨hc.atTime clock, hc.atTime clock⟩).state.1, hm, fun _ => rfl⟩
  | write clock path bytes => exact ⟨hc.write hchecks hevent, hm.write hevent, isSome_get?_write hevent⟩

/-- Events leave a coherent site coherent with the files after them. -/
theorem Coherent.events (h : site.Usual) (hchecks : site.AlwaysChecks) (hm : OneFormat site.toPageRules m)
    (hc : Coherent site.toPageRules m [] e) {events : List SiteEvent} (hevents : ∀ event ∈ events, event.Overwrites m) :
    Coherent site.toPageRules (events.foldl SiteEvent.change m) [] (events.foldl (SiteEvent.run site) e) ∧
      OneFormat site.toPageRules (events.foldl SiteEvent.change m) := by
  induction events generalizing m e with
  | nil => exact ⟨hc, hm⟩
  | cons event events ih =>
    obtain ⟨hevent, hevents⟩ := List.forall_mem_cons.1 hevents
    obtain ⟨hc', hm', hsame⟩ := hc.event h hchecks hm hevent
    refine ih hm' hc' fun other hother => ?_
    have hoverwrites := hevents other hother
    cases other with
    | render clock now fuel path args => trivial
    | write clock path bytes => exact (hsame path).trans hoverwrites

/-- **Freshness.** A site has the built-in formats and filters and checks its files at every access, and no two of its files
differ only in the extension of a format. After any renders, and any writes of files that were there, at any readings of the
clock, a page renders with the same text or the same error as on a new site over the files as they are. Both are given one text
of the current time, so this holds of pages that show it as well. -/
theorem renderPage_after_history (site : Site) (m : MemoryFiles) (h : site.Usual) (hchecks : site.AlwaysChecks)
    (hm : Unambiguous site.toPageRules m) (events : List SiteEvent) (hevents : ∀ event ∈ events, event.Overwrites m)
    (clock clock' : Int) (now : String) (fuel : Nat) (path : String) (args : Table Value) :
    (((site.withNow now).renderPage fuel path args).run
        ((events.foldl (SiteEvent.run site) (Engine.over (.memory m))).atTime clock)).outcome =
      (((site.withNow now).renderPage fuel path args).run
        ((Engine.over (.memory (events.foldl SiteEvent.change m))).atTime clock')).outcome := by
  obtain ⟨hc, hm'⟩ := (coherent_over site.toPageRules m).events h hchecks (hm.oneFormat h.isPlain) hevents
  have hover := coherent_over site.toPageRules (events.foldl SiteEvent.change m)
  have hstable := stable_renderPage (h.withNow now) (m := events.foldl SiteEvent.change m) hm' fuel path args
  exact (hstable _ _ ⟨hc.atTime clock, hover.atTime clock'⟩).outcome

end

/-- A site in debug mode. -/
def debugSite : Site where
  settings := { debugMode := true }
  formats := Site.builtInFormats
  filters := FilterRegistry.ofList BuiltIn.filters
  transformers := []

/-- A page and its layout. -/
def pageAndLayout : MemoryFiles where
  files := [("page.html", { bytes := Utf8.encode "old", stamp := 5 }),
    ("_layout.html", { bytes := Utf8.encode "[{{ page }}]", stamp := 5 })]

/-- A render, and then writes of the page and its layout while the clock goes back. -/
def renderAndWrites : List SiteEvent :=
  [.render 9 "" 100 "page" [], .write 4 "page.html" (Utf8.encode "new"),
    .write 3 "_layout.html" (Utf8.encode "({{ page }})")]

/-- The names of both files end in `l`, so neither of them has the extension of Markdown. -/
theorem getLast?_of_pageAndLayout {name : String} (h : (Table.get? pageAndLayout.files name).isSome = true) :
    name.toList.getLast? = some 'l' := by
  simp only [pageAndLayout, Table.get?_cons] at h
  split at h
  · rename_i hpage
    rw [hpage]
    rfl
  · split at h
    · rename_i hlayout
      rw [hlayout]
      rfl
    · simp [Table.get?] at h

theorem unambiguous_pageAndLayout : Unambiguous debugSite.toPageRules pageAndLayout := by
  have hhtml : ∀ stem, ∀ f ∈ debugSite.formats, (Table.get? pageAndLayout.files (fileName stem f)).isSome = true →
      f = .html := by
    intro stem f hf hfile
    have hlast := getLast?_of_pageAndLayout hfile
    rcases List.mem_cons.1 hf with rfl | hf
    · rfl
    · obtain rfl := List.mem_singleton.1 hf
      simp [fileName, PageFormat.markdown, PageFormat.basic] at hlast
  intro stem f hf g hg hfile hfile'
  rw [hhtml stem f hf hfile, hhtml stem g hg hfile']

/-- Writes at earlier readings of the clock are seen: the page and its layout render as they were written last. -/
theorem renderPage_after_overwrites :
    (debugSite.Usual ∧ debugSite.AlwaysChecks ∧ Unambiguous debugSite.toPageRules pageAndLayout ∧
      ∀ event ∈ renderAndWrites, event.Overwrites pageAndLayout) ∧
    (((debugSite.withNow "").renderPage 100 "page" []).run
        ((renderAndWrites.foldl (SiteEvent.run debugSite) (Engine.over (.memory pageAndLayout))).atTime 0)).outcome =
      (((debugSite.withNow "").renderPage 100 "page" []).run
        ((Engine.over (.memory (renderAndWrites.foldl SiteEvent.change pageAndLayout))).atTime 7)).outcome ∧
    (((debugSite.withNow "").renderPage 100 "page" []).run
        ((renderAndWrites.foldl (SiteEvent.run debugSite) (Engine.over (.memory pageAndLayout))).atTime 0)).outcome.toOption =
      some "(new)" := by
  have husual : debugSite.Usual := by constructor <;> simp only [debugSite]
  have hchecks : debugSite.AlwaysChecks := ⟨rfl, rfl⟩
  have hevents : ∀ event ∈ renderAndWrites, event.Overwrites pageAndLayout := by
    have hpage : (pageAndLayout.get? "page.html").isSome = true := by decide +kernel
    have hlayout : (pageAndLayout.get? "_layout.html").isSome = true := by decide +kernel
    simp only [renderAndWrites, List.forall_mem_cons]
    exact ⟨trivial, hpage, hlayout, by simp⟩
  exact ⟨⟨husual, hchecks, unambiguous_pageAndLayout, hevents⟩,
    renderPage_after_history debugSite pageAndLayout husual hchecks unambiguous_pageAndLayout renderAndWrites hevents 0 7 "" 100
      "page" [], by decide +kernel⟩

end PageTemplates
