import PageTemplates.Proofs.Pages.Known
import PageTemplates.Proofs.Rendering.InlineTemplates
import PageTemplates.Proofs.Rendering.Sources
import PageTemplates.Proofs.Syntax.FrontMatter

/-!
# Pages without expressions

A page that is only text is rendered as its body: what is left of its source when the block of arguments is taken away. Main
statements: without layout and transformers the body is the whole text of the render (`Stores.exists_getPage`), so the source
is given back exactly if it opens no block (`literal_pages_round_trip`).
-/

namespace PageTemplates

open Load PageRules

/-! ## Stored pages -/

/-- A site has a text as the page at a path, in a file of a format. If the page gets a layout, that can be loaded. -/
structure PageRules.Stores (rules : PageRules) (e : Engine) (path : String) (f : PageFormat) (text : String) : Prop where
  ready : rules.Ready e
  format : rules.formatOf? e path = .ok (some f)
  bytes : e.files.read (fileName (rules.pathId path).key f) = .ok (Utf8.encode text)
  layout : ∃ found, rules.layoutOf? e.files (rules.pathId path) f (f.parseSource text).1 = .ok found ∧
    ∀ l, found = some l → rules.layoutAnswer e.files l = .ok ()

namespace PageRules

variable {rules : PageRules} {e : Engine} {path : String} {f : PageFormat} {text : String}

/-- A path with a format has a file. -/
theorem Ready.exists_info? (h : rules.Ready e) (hf : rules.formatOf? e path = .ok (some f)) :
    ∃ info, e.files.info? (fileName (rules.pathId path).key f) = .ok (some info) := by
  unfold formatOf? at hf
  cases hp : Table.get? e.pages (rules.pathId path) with
  | some p =>
    simp only [hp] at hf
    obtain rfl := Option.some.inj (Except.ok.inj hf)
    have hfaithful := h.consistent _ p hp
    obtain ⟨info, hinfo, -⟩ := hfaithful.file
    exact ⟨info, hfaithful.path ▸ hinfo⟩
  | none =>
    simp only [hp] at hf
    exact (probe?_eq_some hf).2

/-- A stored page is loaded as its text reads. -/
theorem Stores.exists_initAnswer (h : rules.Stores e path f text) :
    ∃ c, rules.initAnswer e.files (rules.pathId path) f = .ok c ∧ c.fragments = (f.parseSource text).2 ∧
      rules.layoutOf? e.files (rules.pathId path) f (f.parseSource text).1 = .ok c.layout := by
  obtain ⟨info, hinfo⟩ := h.ready.exists_info? h.format
  obtain ⟨found, hfound, hanswer⟩ := h.layout
  have hread : rules.read? e.files (rules.pathId path) f =
      .ok { path := fileName (rules.pathId path).key f, args := (f.parseSource text).1, fragments := (f.parseSource text).2,
            layout := found, stamp := info.stamp } := by
    simp only [read?, hinfo, h.bytes, Utf8.decode?_encode, contentOf?, hfound]
  refine ⟨{ path := fileName (rules.pathId path).key f, args := (f.parseSource text).1, fragments := (f.parseSource text).2,
            layout := found, stamp := info.stamp }, ?_, rfl, hfound⟩
  rw [initAnswer, hread]
  cases found with
  | none => rfl
  | some l =>
    simp only [hanswer l rfl]
    rfl

/-- Asking for a stored page opens it, and its content is known from then on. -/
theorem Stores.exists_getPage (h : rules.Stores e path f text) :
    ∃ e', runOn (rules.getPage path) e = (.ok (some (rules.pathId path)), e') ∧
      rules.Knows e.files (rules.pathId path) f e' := by
  obtain ⟨c, hc, -, -⟩ := h.exists_initAnswer
  obtain ⟨e', hrun, -⟩ := answers_getPage h.ready path
  have hknows := Knows.of_getPage h.ready h.format
  have hanswer : rules.pageAnswer e.files (rules.pathId path) (.ok (some f)) = .ok (some (rules.pathId path)) := by
    rw [pageAnswer, hc]
    rfl
  rw [h.format, hanswer] at hrun
  rw [hrun] at hknows
  exact ⟨e', hrun, hknows⟩

end PageRules

/-! ## Rendering a stored page -/

/-- A plan renders the page at a path alone: without transformers and without a layout, as it asks for none or as the page gets
none. -/
structure Site.RendersAlone (site : Site) (plan : RenderPlan) (files : FileStore) (path : String) (f : PageFormat)
    (args : Table String) : Prop where
  page : plan.page = site.pathId path
  pageTransformers : plan.pageTransformers = []
  outputTransformers : plan.outputTransformers = []
  layout : plan.layout = .none ∨ plan.layout = .ofPage ∧ site.layoutOf? files (site.pathId path) f args = .ok none

/-- The body of a text in a format: what is left without the block of arguments. -/
def PageFormat.bodyOf (f : PageFormat) (text : String) : List Char :=
  (FrontMatter.parse text.toList f.argsPrefix.toList f.argsSuffix.toList).body

/-- The body of a text without expressions is written as it is. -/
theorem Environment.run_writeFragments_body (env : Environment) {f : PageFormat} {text : String}
    (hliteral : ¬['\x7b', '\x7b'] <:+: text.toList) (hmark : text.toList.head? ≠ some '\ufeff') (n : Nat) (s : Session) :
    (env.writeFragments (n + 1) (f.parseSource text).2).run s =
      { output := Utf8.encode (String.ofList (f.bodyOf text)), outcome := .ok (), state := s } := by
  have hspan : ¬['\x7b', '\x7b'] <:+: f.bodyOf text := fun hbody =>
    hliteral (hbody.trans (FrontMatter.body_suffix _ _ _).isInfix)
  have hsources : sourcesOf (parseTemplate (f.bodyOf text)) = f.bodyOf text := (cuts_parseTemplate _).sourcesOf_eq
  have htexts : ∀ g ∈ parseTemplate (f.bodyOf text), ∃ t, g = .text t := by
    intro g hg
    rw [parseTemplate_of_no_span hspan, textFragment] at hg
    split at hg
    · cases hg
    · exact ⟨_, List.mem_singleton.1 hg⟩
  have hwrite := env.run_writeFragments_texts htexts n s
  rw [hsources] at hwrite
  rw [PageFormat.parseSource_of_no_mark hmark]
  exact hwrite

/-- A stored page without expressions is rendered alone as its body. -/
theorem PageRules.Stores.outcome_renderText {site : Site} {e : Engine} {path : String} {f : PageFormat} {text : String}
    (h : site.Stores e path f text) (hliteral : ¬['\x7b', '\x7b'] <:+: text.toList)
    (hmark : text.toList.head? ≠ some '\ufeff') {e' : Engine} (hknows : site.Knows e.files (site.pathId path) f e')
    {plan : RenderPlan} (halone : site.RendersAlone plan e.files path f (f.parseSource text).1) (fuel : Nat) :
    ((site.renderText plan (fuel + 1)).run e').outcome = .ok (String.ofList (f.bodyOf text)) := by
  obtain ⟨c, hc, hfragments, hfound⟩ := h.exists_initAnswer
  have hselects : plan.layout = .ofPage ∨ plan.layout = .none := by
    rcases halone.layout with hnone | ⟨hofPage, -⟩
    · exact Or.inr hnone
    · exact Or.inl hofPage
  have hnone : plan.layout = .none ∨ c.layout = none := by
    rcases halone.layout with hnone | ⟨-, hlayout⟩
    · exact Or.inl hnone
    · exact Or.inr (Except.ok.inj (hfound.symm.trans hlayout))
  obtain ⟨r, e'', hprepare, -, -, hpage⟩ := hknows.prepare hc halone.page hselects
  obtain rfl := hpage hnone
  have hwrite := (plan.environment site).run_writeFragments_body (f := f) hliteral hmark fuel
    { engine := e'', scope := Site.pageScope { format := f, content := c } none }
  rw [← hfragments] at hwrite
  exact congrArg Emission.outcome
    (Site.run_renderText_alone halone.pageTransformers halone.outputTransformers hprepare hwrite)

/-- **Literal pages.** A stored page without expressions and without a byte order mark can be asked for and rendered alone,
whatever else the plan holds. The text of the render is the body of the page, and that is the whole page exactly if its first
line that is not blank does not begin with the prefix mark of its format. -/
theorem literal_pages_round_trip {site : Site} {e : Engine} {path : String} {f : PageFormat} {text : String}
    (h : site.Stores e path f text) (hliteral : ¬['\x7b', '\x7b'] <:+: text.toList)
    (hmark : text.toList.head? ≠ some '\ufeff') :
    ∃ e', runOn (site.getPage path) e = (.ok (some (site.pathId path)), e') ∧
      ∀ (plan : RenderPlan) (fuel : Nat), site.RendersAlone plan e.files path f (f.parseSource text).1 →
        ((site.renderText plan (fuel + 1)).run e').outcome = .ok (String.ofList (f.bodyOf text)) ∧
          (((site.renderText plan (fuel + 1)).run e').outcome = .ok text ↔
            ¬FrontMatter.Opens f.argsPrefix.toList text.toList) := by
  obtain ⟨e', hrun, hknows⟩ := h.exists_getPage
  refine ⟨e', hrun, fun plan fuel halone => ?_⟩
  have hbody := h.outcome_renderText hliteral hmark hknows halone fuel
  have htext : String.ofList (f.bodyOf text) = text ↔ f.bodyOf text = text.toList := by
    rw [← String.toList_inj, String.toList_ofList]
  refine ⟨hbody, ?_⟩
  rw [hbody, Except.ok.injEq, htext]
  exact FrontMatter.body_eq_self_iff

/-- A site with one page, which is a text. -/
def noteEngine (text : String) : Engine :=
  Engine.over (.memory { files := [("note.md", { bytes := Utf8.encode text, stamp := 5 })] })

/-- A render of the page in no layout. -/
def notePlan : RenderPlan where
  page := { kind := .page, key := "note" }
  layout := .none

theorem pathId_note : plainSite.pathId "note" = notePlan.page := by
  rw [toPageRules_plainSite]
  rfl

/-- The page gets no layout, as there is none. -/
theorem stores_note {text : String}
    (hlayout : plainSite.layoutOf? (noteEngine text).files notePlan.page .markdown (PageFormat.markdown.parseSource text).1 =
      .ok none) : plainSite.Stores (noteEngine text) "note" .markdown text where
  ready := ready_over _ _
  format := by
    rw [toPageRules_plainSite]
    rfl
  bytes := by
    rw [pathId_note]
    rfl
  layout := by
    refine ⟨none, ?_, fun l hl => ?_⟩
    · rw [pathId_note]
      exact hlayout
    · cases hl

theorem rendersAlone_note (text : String) (args : Table String) :
    plainSite.RendersAlone notePlan (noteEngine text).files "note" .markdown args :=
  ⟨pathId_note.symm, rfl, rfl, Or.inl rfl⟩

/-- So a text with dashes in its first line is given back. -/
theorem literal_pages_round_trip_dashes :
    plainSite.Stores (noteEngine "a -- b") "note" .markdown "a -- b" ∧
      ¬['\x7b', '\x7b'] <:+: "a -- b".toList ∧ "a -- b".toList.head? ≠ some '\ufeff' ∧
      ∃ e', runOn (plainSite.getPage "note") (noteEngine "a -- b") = (.ok (some (plainSite.pathId "note")), e') ∧
        ((plainSite.renderText notePlan 1).run e').outcome = .ok "a -- b" := by
  have hlayout : plainSite.layoutOf? (noteEngine "a -- b").files notePlan.page .markdown
      (PageFormat.markdown.parseSource "a -- b").1 = .ok none := by
    rw [toPageRules_plainSite]
    rfl
  have hliteral : ¬['\x7b', '\x7b'] <:+: "a -- b".toList := by decide +kernel
  have hmark : "a -- b".toList.head? ≠ some '\ufeff' := by decide +kernel
  have hopens : ¬FrontMatter.Opens PageFormat.markdown.argsPrefix.toList "a -- b".toList := by decide +kernel
  obtain ⟨e', hrun, hrenders⟩ := literal_pages_round_trip (stores_note hlayout) hliteral hmark
  obtain ⟨-, hiff⟩ := hrenders notePlan 0 (rendersAlone_note _ _)
  exact ⟨stores_note hlayout, hliteral, hmark, e', hrun, hiff.2 hopens⟩

/-- Of a text whose first line goes on after the prefix mark nothing is left, though the line is not the mark. -/
theorem rule_line_lost :
    plainSite.Stores (noteEngine "---- a rule") "note" .markdown "---- a rule" ∧
      ¬['\x7b', '\x7b'] <:+: "---- a rule".toList ∧ "---- a rule".toList.head? ≠ some '\ufeff' ∧
      FrontMatter.firstLine "---- a rule".toList ≠ PageFormat.markdown.argsPrefix.toList ∧
      ∃ e', runOn (plainSite.getPage "note") (noteEngine "---- a rule") = (.ok (some (plainSite.pathId "note")), e') ∧
        ((plainSite.renderText notePlan 1).run e').outcome = .ok "" := by
  have hlayout : plainSite.layoutOf? (noteEngine "---- a rule").files notePlan.page .markdown
      (PageFormat.markdown.parseSource "---- a rule").1 = .ok none := by
    rw [toPageRules_plainSite]
    rfl
  have hstores := stores_note hlayout
  have hliteral : ¬['\x7b', '\x7b'] <:+: "---- a rule".toList := by decide +kernel
  have hmark : "---- a rule".toList.head? ≠ some '\ufeff' := by decide +kernel
  have hfirst : FrontMatter.firstLine "---- a rule".toList ≠ PageFormat.markdown.argsPrefix.toList := by decide +kernel
  have hbody : PageFormat.markdown.bodyOf "---- a rule" = [] := by decide +kernel
  obtain ⟨e', hrun, hknows⟩ := hstores.exists_getPage
  have htext := hstores.outcome_renderText hliteral hmark hknows (rendersAlone_note _ _) 0
  rw [hbody] at htext
  exact ⟨hstores, hliteral, hmark, hfirst, e', hrun, htext⟩

end PageTemplates
