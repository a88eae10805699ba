import PageTemplates.Proofs.Rendering.Termination

/-!
# Partials

Partials nest as deep as the settings allow, and at that depth another one fails. So pages that use partials only, however they
include each other, are always rendered to a text or an error. Main statements: an expression that asks for a page at that depth
fails with the name of the page (`Environment.Calls.fails`), no scope of a render is deeper (`Site.Opens.depth_le`), and a
render without `select` ends (`Site.ends_of_withoutSelect`).
-/

namespace PageTemplates

open Emit

/-! ## The limit -/

/-- A use of a block filter asks for the page of a name: `partial` for its value, or `selectPartial` for an item. -/
inductive BlockCall.Asks (c : BlockCall) (name : String) : Prop
  | ofPartial {locals : Table Value} (hrun : c.run = Blocks.writePage) (hname : c.value.text? = some name)
      (hlocals : Blocks.partialLocals c.args = .ok locals)
  | ofSelectPartial {item : Value} {items : List Value} (hrun : c.run = Blocks.selectPartial)
      (hname : Argument.text "selectPartial" c.args 0 = .ok name) (hitems : Blocks.itemsOf c.value = item :: items)

namespace Environment

variable {env : Environment} {I : Engine → Prop}

/-- Partials as deep as the settings allow write nothing, and fail with the name of the page. -/
theorem fails_writePartial {s : Session} (hdepth : env.site.settings.maxPartialDepth ≤ s.scope.depth) (name : String)
    (locals : Table Value) : Fails (fun n => env.writePartial (env.writeFragments n) name locals) s
      (.recursivePartial name env.site.settings.maxPartialDepth) := by
  have hrun : ∀ n, (env.writePartial (env.writeFragments n) name locals).run s =
      { output := []
        outcome := .error (.error (.recursivePartial name env.site.settings.maxPartialDepth))
        state := s } := by
    intro n
    rw [writePartial_eq, Emit.Stable.run_bind_ok (x := ofEval Eval.scope) (a := s.scope) rfl]
    simp only [if_pos hdepth]
    rfl
  exact ⟨_, ⟨by simp, fun n => Or.inr (hrun n), 0, fun n _ => hrun n⟩, rfl⟩

theorem fails_writeCall {c : BlockCall} {name : String} (h : c.Asks name)
    (hdepth : env.site.settings.maxPartialDepth ≤ c.session.scope.depth) :
    Fails (env.writeCall c) c.session (.filter c.name (.recursivePartial name env.site.settings.maxPartialDepth)) := by
  have hfails := fails_writePartial hdepth name
  suffices h : ∃ locals, Exposes (fun n => c.run (env.access n) c.value c.args) c.session
      (fun n => env.writePartial (env.writeFragments n) name locals) c.session id by
    obtain ⟨locals, h⟩ := h
    exact (h.inFilter c.name).fails _ (hfails locals)
  cases h with
  | @ofPartial locals hrun hname hlocals =>
    refine ⟨locals, ?_⟩
    simp only [hrun, Blocks.writePage, hname, hlocals]
    exact Exposes.after_run rfl rfl (Exposes.refl _ _)
  | @ofSelectPartial item items hrun hname hitems =>
    refine ⟨[("it", item), ("index", Blocks.placeValue 0)], ?_⟩
    simp only [hrun, Blocks.selectPartial, hname, hitems]
    exact Exposes.after_run rfl rfl (Exposes.refl _ _).bind

/-- **The limit.** An expression that asks for a page as deep as the settings allow fails with the name of the page. -/
theorem Calls.fails (h : env.Keeps I) {v : Variable} {s : Session} {c : BlockCall} (hc : env.Calls v s c) {name : String}
    (hasks : c.Asks name) (hdepth : s.scope.depth = env.site.settings.maxPartialDepth) :
    Fails (env.evaluate v) s (.filter c.name (.recursivePartial name env.site.settings.maxPartialDepth)) := by
  have hsame := (hc.uses h.maintainsWriting).session.depth
  exact hc.exposes.fails _ (fails_writeCall hasks (Nat.le_of_eq (hdepth.symm.trans hsame.symm)))

end Environment

namespace Site

variable {site : Site} {plan : RenderPlan} {I : Engine → Prop} {Q : Page → Prop} {e : Engine}

/-- The sessions in which a render begins to write templates: the layout, the page, and the templates that the expressions in
them start at any depth. -/
inductive Opens (site : Site) (plan : RenderPlan) (e : Engine) : Session → Prop
  | layout {page layout : LoadedPage} {e' : Engine}
      (hprepare : Load.runOn (site.prepare plan) e = (.ok (page, some layout), e')) :
      Opens site plan e { engine := e', scope := layoutScope page layout }
  | page {page : LoadedPage} {s : Session} (hbegins : site.BeginsPage plan e page s) : Opens site plan e s
  | inside {v w : Variable} {s t u : Session} {k : Nat} {kind : TemplateKind} {fragments : List Fragment}
      (hcomes : site.ComesTo plan e v s) (hnests : (plan.environment site).Nests k v s w t)
      (hstarts : (plan.environment site).StartsTemplate w t kind fragments u) : Opens site plan e u

/-- **Depth.** No scope of a render is deeper than the settings allow. -/
theorem Opens.depth_le (h : (plan.environment site).Keeps I) (hkept : site.toPageRules.KeptByLoading I Q)
    (hprepare : Load.Keeps I (site.prepare plan)) (he : I e) {s : Session} (hopens : site.Opens plan e s) :
    s.scope.depth ≤ site.settings.maxPartialDepth := by
  have hzero : ∀ s : Session, s.scope.depth = 0 → s.scope.depth ≤ site.settings.maxPartialDepth := fun s hs =>
    hs ▸ Nat.zero_le _
  cases hopens with
  | layout hrun => exact hzero _ rfl
  | page hbegins => exact hzero _ (hbegins.outermost h.maintainsWriting hprepare he).depth
  | inside hcomes hnests hstarts =>
    have houter := hcomes.outermost h.maintainsWriting hprepare he
    obtain ⟨hengine, hdepth⟩ := hnests.session h.maintainsWriting hkept houter.engine (hzero _ houter.depth)
    exact (hstarts.begins h.maintainsWriting hkept hengine).depth_le hdepth

end Site

/-! ## Pages without inline templates -/

/-- No expression of a template uses `select`. -/
def AvoidsSelect (fragments : List Fragment) : Prop :=
  ∀ v, .var v ∈ fragments → "select" ∉ v.stageNames

namespace Site

variable {site : Site} {e : Engine}

/-- A page has a format of the site and, once it is loaded, a template without `select`. -/
structure PlainPage (site : Site) (p : Page) : Prop where
  format : p.format ∈ site.formats
  content : ∀ c, p.content = some c → AvoidsSelect c.fragments

/-- A site whose pages do not use `select`, in what is loaded and in what the formats of the site read from any file. -/
structure WithoutSelect (site : Site) (e : Engine) : Prop where
  page : ∀ id p, e.page? id = some p → site.PlainPage p
  file : ∀ kind path bytes source, (e.filesFor kind).read path = .ok bytes → Utf8.decode? bytes = some source →
    ∀ f ∈ site.formats, AvoidsSelect (f.parseSource source).2

end Site

namespace Site

variable {site : Site} {e : Engine}

/-- A new site does not use `select` if none of its files does. -/
theorem withoutSelect_over {m : MemoryFiles} (h : ∀ file ∈ m.files, ∀ source, Utf8.decode? file.2.bytes = some source →
    ∀ f ∈ site.formats, AvoidsSelect (f.parseSource source).2) : site.WithoutSelect (Engine.over (.memory m)) := by
  refine ⟨fun id p hp => ?_, fun kind path bytes source hread hsource f hf => ?_⟩
  · unfold Engine.page? at hp
    split at hp <;> cases hp
  · have hfile : ∀ files : MemoryFiles, (FileStore.memory files).read path = .ok bytes →
        ∃ name file, (name, file) ∈ files.files ∧ file.bytes = bytes := by
      intro files hread
      unfold FileStore.read at hread
      cases hfile : files.get? path with
      | none => simp [hfile] at hread
      | some file =>
        simp only [hfile] at hread
        exact ⟨_, file, Table.mem_of_get? hfile, Except.ok.inj hread⟩
    unfold Engine.filesFor at hread
    split at hread
    · obtain ⟨name, file, hmem, -⟩ := hfile _ hread
      cases hmem
    · obtain ⟨name, file, hmem, rfl⟩ := hfile _ hread
      exact h _ hmem source hsource f hf

theorem WithoutSelect.putPage (h : site.WithoutSelect e) {p : Page} (hp : site.PlainPage p) :
    site.WithoutSelect (e.putPage p) := by
  refine ⟨fun id q hq => ?_, fun kind path bytes source hread => ?_⟩
  · rcases Engine.page?_putPage hq with rfl | hq
    · exact hp
    · exact h.page id q hq
  · rw [Engine.filesFor_putPage] at hread
    exact h.file kind path bytes source hread

/-- Loading pages loads none that uses `select`. -/
theorem WithoutSelect.keptByLoading (site : Site) : site.toPageRules.KeptByLoading site.WithoutSelect site.PlainPage where
  page e id p he hp := he.page id p hp
  put e p he hp := he.putPage hp
  registered id path f hf := ⟨hf, nofun⟩
  checked p time hp := ⟨hp.format, hp.content⟩
  loaded e p q c bytes source he hp hq hread hsource hc := by
    refine ⟨hq.format, fun c' hc' => ?_⟩
    obtain rfl := Option.some.inj hc'
    rw [hc]
    exact he.file _ _ bytes source hread hsource _ hp.format

theorem WithoutSelect.of_pages (h : site.WithoutSelect e) {e' : Engine} (hpages : e'.pages = e.pages)
    (hone : e'.oneTimePages = e.oneTimePages) (hfiles : e'.files = e.files) (htemp : e'.tempFiles = e.tempFiles) :
    site.WithoutSelect e' := by
  refine ⟨fun id p hp => h.page id p ?_, fun kind path bytes source hread => h.file kind path bytes source ?_⟩
  · unfold Engine.page? at hp ⊢
    rw [← hpages, ← hone]
    exact hp
  · unfold Engine.filesFor at hread ⊢
    rw [← hfiles, ← htemp]
    exact hread

end Site

/-! ### Inline templates -/

namespace Blocks

/-- The error of a block filter that is given nothing. -/
def refusal (run : BlockAccess → Value → List Value → Emit Session Unit) : Option TemplateError :=
  ((run { writeFragments := fun _ => pure (), writePartial := fun _ _ => pure () } .null []).run
    { engine := {}, scope := Site.pageScope { format := .html, content := default } none }).error?

/-- Nothing but `select` does what `select` does. -/
theorem name_of_select {d : FilterDef} (hd : d ∈ filters) (hrun : d.body = .block select) : d.name = "select" := by
  have hrefusal : ∀ run, FilterBody.block run = .block select → refusal run = refusal select := fun run h =>
    congrArg refusal (FilterBody.block.inj h)
  simp only [filters, List.mem_cons, List.not_mem_nil, or_false] at hd
  rcases hd with rfl | rfl | rfl | rfl
  · exact absurd (hrefusal _ hrun) (by decide)
  · exact absurd (hrefusal _ hrun) (by decide)
  · exact absurd (hrefusal _ hrun) (by decide)
  · rfl

end Blocks

namespace Environment

variable {env : Environment} {I : Engine → Prop} {site : Site}

/-- An expression that starts an inline template uses `select`. -/
theorem StartsTemplate.select_mem (henv : env.Standard) (h : env.Keeps I) {v : Variable} {s : Session}
    {fragments : List Fragment} {t : Session} (hstart : env.StartsTemplate v s .inline fragments t) :
    "select" ∈ v.stageNames := by
  obtain ⟨hcall, hstart⟩ := hstart
  obtain ⟨hname, ⟨arity, kind, d, hd, hbody⟩, -⟩ := hcall.uses h.maintainsWriting
  cases hstart with
  | ofSelect hrun =>
    rw [hrun] at hbody
    have hselect := Blocks.name_of_select (henv.block hd (congrArg FilterBody.kind hbody)) hbody
    rwa [← (answers_of_findFilterOfKind hd).2.1, hselect] at hname

/-- No inline templates nest in an expression without `select`, if the pages of the site do not use it either. -/
theorem Nests.eq_zero (henv : env.Standard) (h : env.Keeps I) (hkept : env.site.toPageRules.KeptByLoading I site.PlainPage)
    {k : Nat} {v w : Variable} {s t : Session} (hnests : env.Nests k v s w t) (hs : I s.engine) (hv : "select" ∉ v.stageNames) :
    k = 0 := by
  induction hnests with
  | refl => rfl
  | page hstart hcomes _ ih =>
    have hbegins := hstart.begins h.maintainsWriting hkept hs
    obtain ⟨p, c, hp, hc, hfragments⟩ := hbegins.page rfl
    refine ih ((hcomes.steady h.maintainsWriting).engine hbegins.engine) ?_
    obtain ⟨rfl, -, -, -⟩ := hcomes
    exact hp.content c hc _ (hfragments ▸ List.mem_append_right _ List.mem_cons_self)
  | inline hstart _ _ _ => exact absurd (hstart.select_mem henv h) hv

end Environment

namespace Site

variable {site : Site} {plan : RenderPlan} {e : Engine}

/-- A page that a render begins to write is the one that was prepared. -/
theorem BeginsPage.prepared {page : LoadedPage} {s : Session} (h : site.BeginsPage plan e page s) :
    ∃ layout e', Load.runOn (site.prepare plan) e = (.ok (page, layout), e') := by
  cases h with
  | alone hprepare => exact ⟨_, _, hprepare⟩
  | inLayout hlayout _ =>
    obtain ⟨hprepare, -, -, -, -⟩ := hlayout
    exact ⟨_, _, hprepare⟩

/-- The expressions of a render are those of its page and its layout. -/
theorem ComesTo.mem {v : Variable} {t : Session} (h : site.ComesTo plan e v t) :
    ∃ page layout e', Load.runOn (site.prepare plan) e = (.ok (page, layout), e') ∧
      ∃ loaded ∈ page :: layout.toList, .var v ∈ loaded.content.fragments := by
  cases h with
  | ofPage hbegins hcomes =>
    obtain ⟨layout, e', hprepare⟩ := hbegins.prepared
    obtain ⟨hfragments, -, -, -⟩ := hcomes
    exact ⟨_, layout, e', hprepare, _, List.mem_cons_self, hfragments ▸ List.mem_append_right _ List.mem_cons_self⟩
  | ofLayout hlayout _ =>
    obtain ⟨hprepare, hfragments, -, -, -⟩ := hlayout
    exact ⟨_, _, _, hprepare, _, by simp, hfragments ▸ List.mem_append_right _ List.mem_cons_self⟩

/-- **Termination.** If no page uses `select`, every render ends. -/
theorem ends_of_withoutSelect (hsite : site.Standard) (hplan : ∀ d ∈ plan.filters, d.kind = .value) (he : e.Truthful)
    (hpages : site.WithoutSelect e) : Ends (fun n => site.writeTo plan n) e := by
  have hkept := (Engine.Truthful.keptByLoading site.toPageRules).and (WithoutSelect.keptByLoading site)
  have henv := hsite.environment hplan
  have hcaching : Caching Binder.compile fun e => e.Truthful ∧ site.WithoutSelect e :=
    Engine.Truthful.caching_and fun _ _ _ h => h.of_pages rfl rfl rfl rfl
  have hcells : ∀ (e : Engine) cells, e.Truthful ∧ site.WithoutSelect e →
      Engine.Truthful { e with cells } ∧ site.WithoutSelect { e with cells } := fun _ _ h =>
    ⟨h.1.of_caches rfl rfl, h.2.of_pages rfl rfl rfl rfl⟩
  have hclose : ∀ e : Engine, e.Truthful ∧ site.WithoutSelect e →
      Engine.Truthful { e with initialized := true } ∧ site.WithoutSelect { e with initialized := true } := fun _ h =>
    ⟨h.1.of_caches rfl rfl, h.2.of_pages rfl rfl rfl rfl⟩
  have hkeeps := henv.keeps hcaching hcells fun path name => hkept.partialContent rfl path name
  have hprepare := hkept.prepare hclose plan
  refine ends_writeTo_of_nests henv hkeeps hkept hprepare ⟨he, hpages⟩ (k := 0) ?_
  intro v s j w t hv hw
  obtain ⟨page, layout, e', hrun, loaded, hloaded, hmem⟩ := hv.mem
  obtain ⟨p, hp, -, hcontent⟩ := hkept.of_prepare hclose ⟨he, hpages⟩ hrun loaded hloaded
  have houter := hv.outermost hkeeps.maintainsWriting hprepare ⟨he, hpages⟩
  exact Nat.le_of_eq (hw.eq_zero henv hkeeps hkept houter.engine (hp.content _ hcontent v hmem))

end Site

end PageTemplates
