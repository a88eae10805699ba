import PageTemplates.Proofs.Files.Containment
import PageTemplates.Proofs.Pages.Reading
import PageTemplates.Proofs.Rendering.InlineTemplates
import PageTemplates.Proofs.Rendering.Unnoticed

/-!
# Sites stay below their root

The paths that a site reads come from page paths, from the names of partials and layouts, and from templates, so whoever writes
these chooses them. The site reads them from its files only, and on disk no path leads out of the root. So what is outside makes
no difference to a site. Main statement: `no_path_leaves_root`.
-/

namespace PageTemplates

open DiskFiles Load PageTemplates.Path

/-! ## Files that read the same -/

namespace SameReading

theorem sameMemory : SameMemory SameReading := by
  refine ⟨fun e e' h => ⟨by rw [h.frame], fun _ => ?_⟩, fun e e' h => ⟨by rw [h.frame], fun _ => ?_⟩,
    fun e e' h => ⟨by rw [h.frame], fun _ => ?_⟩⟩
  all_goals exact ⟨by rw [h.frame], h.info, h.read⟩

/-- Lookups do not notice files that read the same. -/
theorem unnoticed (site : Site) : site.Unnoticed SameReading where
  toSameMemory := sameMemory
  toSameIndex := sameIndex
  close _ _ h := ⟨by rw [h.frame], h.info, h.read⟩
  refresh := stable_refresh
  findLayout := stable_findLayout
  getPage := stable_getPage
  oneTimePage := stable_oneTimePage

end SameReading

/-- The state of a site whose files are a tree on disk. -/
def Engine.onDisk (e : Engine) (d : DiskFiles) : Engine :=
  { e with files := .disk d }

/-- Trees that are the same below the root read the same. -/
theorem DiskFiles.AgreeInside.sameReading {d d' : DiskFiles} (h : d.AgreeInside d') (e : Engine) :
    SameReading (e.onDisk d) (e.onDisk d') :=
  ⟨rfl, fun _ => info?_congr h.along, fun _ => read_congr h.along⟩

/-! ## What is outside -/

/-- A path on disk is refused exactly if its normal form goes up. If not, it stands for its normal form, which is relative and
has no segment of one or two points, and wherever the root is, it leads down from there. What is read at it is what is on the
way. -/
structure DiskFiles.StaysBelow (path : String) : Prop where
  refused : resolve? path = none ↔ up ∈ Text.splitAtChar '/' (normalize path).toList
  relative : ∀ resolved, resolve? path = some resolved → resolved = normalize path ∧ resolved.toList.head? ≠ some '/' ∧
    ∀ part ∈ Text.splitAtChar '/' resolved.toList, part ≠ ['.'] ∧ part ≠ up
  below : ∀ resolved, resolve? path = some resolved → ∀ root, place (under root resolved) = place root ++ segments path.toList
  read : ∀ d d', (resolve? path ≠ none → AgreeAlong d d' path) → d'.info? path = d.info? path ∧ d'.read path = d.read path

/-- **Below the root.** Every path stays below the root. So for a site on disk, whose filters are functions of their input and of
what they ask, all that is outside of the root makes no difference: not to which pages are found, nor to what a render writes,
with whatever layout, nor to how it ends, and not to the text of a page or of a template, whatever partials they name. -/
theorem no_path_leaves_root (site : Site) (hfilters : ∀ f ∈ site.filters.defs, f.body.Stable SameReading) {d d' : DiskFiles}
    (h : d.AgreeInside d') (e : Engine) (fuel : Nat) :
    (∀ path, StaysBelow path) ∧
      (∀ path, (runOn (site.getPage path) (e.onDisk d)).1 = (runOn (site.getPage path) (e.onDisk d')).1) ∧
      (∀ plan, (∀ f ∈ plan.filters, f.body.Stable SameReading) →
        Emission.Alike SameReading ((site.writeTo plan fuel).run (e.onDisk d)) ((site.writeTo plan fuel).run (e.onDisk d'))) ∧
      (∀ path args, Emission.Alike SameReading ((site.renderPage fuel path args).run (e.onDisk d))
        ((site.renderPage fuel path args).run (e.onDisk d'))) ∧
      ∀ text args, Emission.Alike SameReading ((site.evaluateTemplate fuel text args).run (e.onDisk d))
        ((site.evaluateTemplate fuel text args).run (e.onDisk d')) := by
  have hunnoticed := SameReading.unnoticed site
  have hreading := h.sameReading e
  refine ⟨fun path => ⟨resolve?_eq_none_iff path, fun _ => resolve?_eq_some, fun _ => place_under,
    fun _ _ hway => ⟨info?_congr hway, read_congr hway⟩⟩, fun path => (SameReading.stable_getPage path _ _ hreading).1,
    fun plan hplan => ?_, fun path args => ?_, fun text args => ?_⟩
  · exact hunnoticed.stable_writeTo (List.forall_mem_append.2 ⟨hplan, hfilters⟩) fuel _ _ hreading
  · exact hunnoticed.stable_renderPage hfilters fuel path args _ _ hreading
  · exact hunnoticed.stable_evaluateTemplate hfilters fuel text args _ _ hreading

/-- A page that names a file above the root as its partial. -/
def pageTree : DiskFiles where
  files := [("page.html", { bytes := Utf8.encode "\x7b\x7b '../secret' | partial \x7d\x7d", stamp := 5 })]

/-- The same tree, with the file above the root. -/
def secretTree : DiskFiles :=
  { pageTree with files := Table.insert pageTree.files "../secret.html" { bytes := Utf8.encode "secret", stamp := 5 } }

theorem agreeInside_secret : pageTree.AgreeInside secretTree := by
  have hup : up ∈ segments "../secret.html".toList := by decide
  exact agreeInside_insert pageTree hup _

/-- The page that names the file above the root does not find it. -/
theorem secret_not_read :
    ((∀ f ∈ plainSite.filters.defs, f.body.Stable SameReading) ∧ pageTree.AgreeInside secretTree) ∧
    ∀ path args, Emission.Alike SameReading ((plainSite.renderPage 100 path args).run ((Engine.over (.memory {})).onDisk pageTree))
      ((plainSite.renderPage 100 path args).run ((Engine.over (.memory {})).onDisk secretTree)) := by
  have hfilters : ∀ f ∈ plainSite.filters.defs, f.body.Stable SameReading :=
    SameReading.sameMemory.stable_filters standard_plainSite
  have hroot := no_path_leaves_root plainSite hfilters agreeInside_secret (Engine.over (.memory {})) 100
  exact ⟨⟨hfilters, agreeInside_secret⟩, hroot.2.2.2.1⟩

end PageTemplates
