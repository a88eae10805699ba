import PageTemplates.Proofs.Rendering.PageBody
import PageTemplates.Proofs.Rendering.Passthrough
import PageTemplates.Proofs.Syntax.FrontMatter

/-!
# Templates that are no pages of the site

A template is evaluated as a page of one use: its text is written to a file that is there only while the page is loaded. Main
statements: making such a page loads it as the text reads, whatever the state of the site is (`runOn_oneTimePage`), and a
template whose expressions all mean nothing is given back as it stands (`unknown_expressions_pass_through`).
-/

namespace PageTemplates

open Load

/-! ## Loading a page of one use -/

theorem MemoryFiles.get?_write_self (m : MemoryFiles) (path : String) (bytes : Bytes) (now : Int) :
    (m.write path bytes now).get? path = some { bytes, stamp := m.nextStamp path now } := by
  rw [write, writeAt, get?, Table.get?_insert, if_pos rfl]

/-- A file that was written and removed is not there. -/
theorem MemoryFiles.get?_remove_write {m : MemoryFiles} (h : (Table.names m.files).Nodup) (path : String) (bytes : Bytes)
    (now : Int) : ((m.write path bytes now).remove path).get? path = none := by
  rw [remove, write, writeAt, get?, Table.erase_insert]
  exact Table.get?_erase_self h _

theorem Load.runOn_attempt {α : Type} {x : Load α} {e e' : Engine} {r : Except TemplateError α} (h : runOn x e = (r, e')) :
    runOn (Load.attempt x) e = (.ok r, e') := by
  have hrun : runOn (Load.attempt x) e = (.ok (runOn x e).1, (runOn x e).2) := rfl
  rw [hrun, h]

/-- Every file of a page of one use is there once. -/
def Engine.TempFilesDistinct (e : Engine) : Prop :=
  (Table.names e.tempFiles.files).Nodup

theorem tempFilesDistinct_over (files : FileStore) : (Engine.over files).TempFilesDistinct :=
  List.nodup_nil

namespace PageRules

variable (rules : PageRules) {e : Engine}

/-- Loading pages does not touch these files. -/
theorem keptByLoading_tempFilesDistinct : rules.KeptByLoading Engine.TempFilesDistinct fun _ => True := by
  refine ⟨fun _ _ _ _ _ => trivial, fun e p he _ => ?_, fun _ _ _ _ => trivial, fun _ _ _ => trivial,
    fun _ _ _ _ _ _ _ _ _ _ _ _ => trivial⟩
  unfold Engine.putPage
  split <;> exact he

/-- Making a page of one use leaves every file there once. -/
theorem keeps_oneTimePage_tempFilesDistinct (text : String) (extension : Option String) :
    Keeps Engine.TempFilesDistinct (rules.oneTimePage text extension) :=
  rules.keptByLoading_tempFilesDistinct.oneTimePage (fun _ _ _ _ h => Table.nodup_names_insert h _ _)
    (fun _ _ h => Table.nodup_names_erase h _) text extension

/-- The first load of a page of one use reads its file. -/
theorem runOn_load_oneTime {p : Page} {file : StoredFile} {text : String} (hp : e.page? p.id = some p)
    (hkind : p.id.kind = .oneTime) (hcontent : p.content = none) (hfile : e.tempFiles.get? p.path = some file)
    (htext : Utf8.decode? file.bytes = some text) :
    ∃ c : PageContent, runOn (rules.load p) e = (.ok c, e.putPage { p with content := some c }) ∧
      c = { path := p.path, args := (p.format.parseSource text).1, fragments := (p.format.parseSource text).2, layout := none,
            stamp := file.stamp } := by
  have hfiles : e.filesFor p.id.kind = .memory e.tempFiles := by
    rw [hkind]
    rfl
  have hinfo : (e.filesFor p.id.kind).info? p.path = .ok (some { path := Path.normalize p.path, stamp := file.stamp }) := by
    rw [hfiles, FileStore.info?, MemoryFiles.info?, hfile]
    rfl
  have hread : (e.filesFor p.id.kind).read p.path = .ok file.bytes := by
    rw [hfiles, FileStore.read, hfile]
  refine ⟨_, ?_, rfl⟩
  rw [load_eq, runOn_get_bind]
  simp only
  rw [hinfo, runOn_ofFile_ok_bind]
  simp only [hcontent, Option.filter_none]
  rw [reload, hread, runOn_ofFile_ok_bind]
  simp only [htext]
  rw [attach, hkind]
  simp only [pure_bind]
  rw [runOn_modify_bind, hp]
  rfl

theorem oneTimeFormat_none {f : PageFormat} (h : rules.formats.head? = some f) : rules.oneTimeFormat none = .ok f := by
  obtain ⟨formats, hformats⟩ := List.head?_eq_some_iff.1 h
  rw [oneTimeFormat, hformats]

/-- The page of one use with the file at a path, before it is loaded. -/
def oneTimeAt (path : String) (f : PageFormat) : Page where
  id := { kind := .oneTime, key := Path.stripExtension path }
  path
  format := f

/-- The state with that page and the file of its text. -/
def withOneTime (e : Engine) (path : String) (f : PageFormat) (text : String) : Engine :=
  { (e.putPage (oneTimeAt path f)) with
    nextTempId := e.nextTempId + 1
    tempFiles := e.tempFiles.write path (Utf8.encode text) e.clock }

/-- The state with the page loaded and the file gone. -/
def afterOneTime (e : Engine) (path : String) (f : PageFormat) (text : String) (c : PageContent) : Engine :=
  { ((withOneTime e path f text).putPage { oneTimeAt path f with content := some c }) with
    tempFiles := (e.tempFiles.write path (Utf8.encode text) e.clock).remove path }

/-- The page is loaded as its text reads, while the file is there. -/
theorem runOn_initPage_oneTime (e : Engine) (path : String) (f : PageFormat) (text : String) :
    ∃ c, runOn (rules.initPage (oneTimeAt path f).id) (withOneTime e path f text) =
        (.ok c, (withOneTime e path f text).putPage { oneTimeAt path f with content := some c }) ∧
      c.args = (f.parseSource text).1 ∧ c.fragments = (f.parseSource text).2 ∧ c.layout = none := by
  have hp : (withOneTime e path f text).page? (oneTimeAt path f).id = some (oneTimeAt path f) := by
    change (e.putPage (oneTimeAt path f)).page? (oneTimeAt path f).id = _
    rw [Engine.page?_putPage_eq, if_pos rfl]
  have hfile : (withOneTime e path f text).tempFiles.get? (oneTimeAt path f).path =
      some { bytes := Utf8.encode text, stamp := e.tempFiles.nextStamp path e.clock } := MemoryFiles.get?_write_self ..
  obtain ⟨c, hload, hc⟩ := runOn_load_oneTime rules hp rfl rfl hfile (Utf8.decode?_encode text)
  have hlayout : c.layout = none := by rw [hc]
  have hrefresh : runOn (rules.refresh (oneTimeAt path f).id) (withOneTime e path f text) =
      (.ok c, (withOneTime e path f text).putPage { oneTimeAt path f with content := some c }) := by
    rw [refresh, runOn_get_bind, hp]
    exact hload
  refine ⟨c, ?_, by rw [hc]; rfl, by rw [hc]; rfl, hlayout⟩
  rw [initPage, runOn_bind_ok hrefresh, hlayout]
  rfl

/-- The page stays as it was loaded, as there is no file of it. -/
theorem loaded_afterOneTime (hfiles : e.TempFilesDistinct) (path : String) (f : PageFormat) (text : String)
    (c : PageContent) : (afterOneTime e path f text c).Loaded (oneTimeAt path f).id { format := f, content := c } := by
  refine ⟨{ oneTimeAt path f with content := some c }, ?_, rfl, rfl, rfl, fun info hinfo => ?_⟩
  · change ((withOneTime e path f text).putPage { oneTimeAt path f with content := some c }).page? (oneTimeAt path f).id = _
    rw [Engine.page?_putPage_eq, if_pos rfl]
  · have hfound : (afterOneTime e path f text c).tempFiles.info? path = some info := Except.ok.inj hinfo
    rw [MemoryFiles.info?, afterOneTime, MemoryFiles.get?_remove_write hfiles] at hfound
    cases hfound

/-- **Pages of one use.** Making such a page loads it as its text reads. Its file is gone then, so it does not change. -/
theorem runOn_oneTimePage {f : PageFormat} (hinit : e.initialized = true) (hf : rules.formats.head? = some f)
    (hfiles : e.TempFilesDistinct) (text : String) :
    ∃ id e' c, runOn (rules.oneTimePage text none) e = (.ok id, e') ∧ id.kind = .oneTime ∧
      e'.Loaded id { format := f, content := c } ∧
      c.args = (f.parseSource text).1 ∧ c.fragments = (f.parseSource text).2 ∧ c.layout = none := by
  rw [oneTimePage, runOn_bind_ok (runOn_requireInitialized hinit), oneTimeFormat_none rules hf,
    runOn_bind_ok (x := oneTimePage.liftExcept (.ok f)) (a := f) rfl]
  simp only [runOn_get_bind, runOn_modify_bind]
  generalize Path.join (Path.normalize rules.settings.tempDirectory) (fileName (toString e.nextTempId) f) = path
  obtain ⟨c, hrun, hparsed⟩ := rules.runOn_initPage_oneTime e path f text
  refine ⟨(oneTimeAt path f).id, afterOneTime e path f text c, c, ?_, rfl, loaded_afterOneTime hfiles path f text c, hparsed⟩
  change runOn (Load.attempt (rules.initPage (oneTimeAt path f).id) >>= _) (withOneTime e path f text) = _
  rw [runOn_bind_ok (runOn_attempt hrun), runOn_modify_bind]
  rfl

end PageRules

/-- A render of a loaded page of one use, in no layout, is prepared without reading anything. -/
theorem Site.runOn_prepare_oneTime (site : Site) (plan : RenderPlan) {e : Engine} {page : LoadedPage}
    (h : e.Loaded plan.page page) (hkind : plan.page.kind = .oneTime) (hlayout : page.content.layout = none)
    (hplan : plan.layout = .none) : ∃ e', runOn (site.prepare plan) e = (.ok (page, none), e') := by
  have hclosed : Engine.Loaded { e with initialized := true } plan.page page := ⟨h.page⟩
  obtain ⟨r, e', hrefresh, hchecked, hr⟩ := PageRules.refresh_of_loaded site.toPageRules hclosed
  rcases hr with rfl | ⟨path, error, hinfo, -⟩
  · have hinit : runOn (site.initPage plan.page) { e with initialized := true } = (.ok page.content, e') := by
      rw [PageRules.initPage, runOn_bind_ok hrefresh, hlayout]
      rfl
    have hselect : site.selectLayout plan page.content = pure none := by
      unfold Site.selectLayout
      rw [hplan]
    refine ⟨e', ?_⟩
    unfold Site.prepare
    rw [runOn_bind_ok (x := Site.close) (a := ()) rfl, runOn_bind_ok hinit,
      runOn_bind_ok (hclosed.checked hchecked).run_loadedPage, hselect]
    rfl
  · -- The files of such pages are in memory, where nothing keeps a path from being followed.
    rw [hkind] at hinfo
    cases hinfo

/-! ## Templates -/

namespace Environment

variable {env : Environment} {v : Variable}

/-- What means nothing in some tables means nothing where only empty ones are added. -/
theorem MeansNothing.mono {tables tables' : List (Table Value)} (h : env.MeansNothing tables v)
    (hsub : ∀ table ∈ tables', table = [] ∨ table ∈ tables) : env.MeansNothing tables' v := by
  cases h with
  | @path path hinitial hstages hunbound hfilter =>
    refine .path hinitial hstages (fun table htable => ?_) hfilter
    rcases hsub table htable with rfl | hmem
    · rfl
    · exact hunbound table hmem
  | call hinitial hfilter => exact .call hinitial hfilter

/-- In a page without arguments and without layout, names are looked up in the arguments of the render and those of the site. -/
theorem mem_layers_of_no_args {page : LoadedPage} (h : page.content.args = []) {table : Table Value}
    (htable : table ∈ env.layers page.content none (Site.pageScope page none)) :
    table = [] ∨ table ∈ [env.args, env.site.args] := by
  have hvalues : page.content.values = [] := by
    rw [PageContent.values, h]
    rfl
  simp only [layers, Site.pageScope, Bool.false_eq_true, if_false, Option.toList_none, List.map_cons, List.map_nil, hvalues,
    List.cons_append, List.nil_append, List.mem_cons, List.not_mem_nil, or_false] at htable ⊢
  rcases htable with hlocals | hargs | hpage | hroot | hsite
  · exact Or.inl hlocals
  · exact Or.inr (Or.inl hargs)
  · exact Or.inl hpage
  · exact Or.inl hroot
  · exact Or.inr (Or.inr hsite)

/-- Such a page is written as it stands if its expressions mean nothing with those arguments. -/
theorem run_writeFragments_of_no_args (env : Environment) (page : LoadedPage) {text : String}
    (hsource : env.site.unhandled = none) (hargs : page.content.args = [])
    (hfragments : page.content.fragments = parseTemplate text.toList)
    (hnothing : ∀ v, .var v ∈ parseTemplate text.toList → env.MeansNothing [env.args, env.site.args] v) (fuel : Nat)
    (engine : Engine) :
    (env.writeFragments (fuel + 3) page.content.fragments).run { engine, scope := Site.pageScope page none } =
      { output := Utf8.encode text, outcome := .ok (), state := { engine, scope := Site.pageScope page none } } := by
  have hlayers : ∀ v, .var v ∈ parseTemplate text.toList →
      env.MeansNothing (env.layers page.content none (Site.pageScope page none)) v :=
    fun v hv => (hnothing v hv).mono fun table htable => mem_layers_of_no_args hargs htable
  have hbody := run_writeFragments_of_meansNothing hsource (s := { engine, scope := Site.pageScope page none }) hlayers fuel
  rw [String.ofList_toList] at hbody
  rw [hfragments]
  exact hbody

end Environment

namespace Site

/-- What the expressions of a template are evaluated in: the site and the arguments. There is no model. -/
def templateEnvironment (site : Site) (args : Table Value) : Environment where
  site
  args := Table.insert args "model" .null

/-- A template is evaluated to what its fragments write as a page without arguments, if writing them changes nothing. The site can
be asked for the next one then. -/
theorem run_evaluateTemplate_of_writes {site : Site} {f : PageFormat} {e : Engine} {text result : String}
    {args : Table Value} {fuel : Nat} (hf : site.formats.head? = some f) (hfiles : e.TempFilesDistinct)
    (hmark : text.toList.head? ≠ some '\ufeff') (hopens : ¬FrontMatter.Opens f.argsPrefix.toList text.toList)
    (hwrites : ∀ (c : PageContent) (engine : Engine), c.args = [] → c.fragments = parseTemplate text.toList →
      ((site.templateEnvironment args).writeFragments fuel c.fragments).run
          { engine, scope := pageScope { format := f, content := c } none } =
        { output := Utf8.encode result, outcome := .ok (),
          state := { engine, scope := pageScope { format := f, content := c } none } }) :
    ∃ e', (site.evaluateTemplate fuel text args).run e = { output := [], outcome := .ok result, state := e' } ∧
      e'.TempFilesDistinct := by
  obtain ⟨id, e', c, hpage, hkind, hloaded, hargs, hfragments, hlayout⟩ :=
    PageRules.runOn_oneTimePage site.toPageRules (e := { e with initialized := true }) rfl hf hfiles text
  rw [PageFormat.parseSource_of_not_opens hmark hopens] at hargs hfragments
  obtain ⟨e'', hprepare⟩ := runOn_prepare_oneTime site (templatePlan id args) hloaded hkind hlayout rfl
  have hfiles' : e'.TempFilesDistinct := by
    have hclosed : Engine.TempFilesDistinct { e with initialized := true } := hfiles
    exact Load.of_runOn (site.keeps_oneTimePage_tempFilesDistinct text none) hclosed hpage
  have hfiles'' : e''.TempFilesDistinct :=
    Load.of_runOn (site.keptByLoading_tempFilesDistinct.prepare (fun _ h => h) (templatePlan id args)) hfiles' hprepare
  have htext := run_renderText_alone rfl rfl hprepare (hwrites c e'' hargs hfragments)
  have hone := run_ofLoad_engine hpage
  refine ⟨e'', ?_, hfiles''⟩
  have hclose : (Emit.ofLoad close).run e = { output := [], outcome := .ok (), state := { e with initialized := true } } := rfl
  rw [evaluateTemplate_eq, Emit.Stable.run_bind_ok (congrArg Emission.outcome hclose), hclose]
  simp only
  rw [Emit.Stable.run_bind_ok (congrArg Emission.outcome hone), hone]
  simp only [htext, List.nil_append]

/-- A template whose expressions mean nothing is given back, and the site can be asked for the next one. -/
theorem run_evaluateTemplate_of_meansNothing {site : Site} {f : PageFormat} {e : Engine} {text : String}
    {args : Table Value} (hsource : site.unhandled = none) (hf : site.formats.head? = some f)
    (hfiles : e.TempFilesDistinct) (hmark : text.toList.head? ≠ some '\ufeff')
    (hopens : ¬FrontMatter.Opens f.argsPrefix.toList text.toList)
    (hnothing : ∀ v, .var v ∈ parseTemplate text.toList →
      (site.templateEnvironment args).MeansNothing [(site.templateEnvironment args).args, site.args] v) (fuel : Nat) :
    ∃ e', (site.evaluateTemplate (fuel + 3) text args).run e = { output := [], outcome := .ok text, state := e' } ∧
      e'.TempFilesDistinct := by
  refine run_evaluateTemplate_of_writes hf hfiles hmark hopens fun c engine hargs hfragments => ?_
  exact (site.templateEnvironment args).run_writeFragments_of_no_args { format := f, content := c } hsource hargs hfragments
    hnothing fuel engine

end Site

/-- **Unknown expressions.** A pipeline means nothing exactly if it is a path without stages that nothing has the head of, or a
call of a filter that there is not; and a template whose expressions all mean nothing with its arguments and those of the
site is given back as it stands, if it begins with neither a byte order mark nor a block of arguments. Each file of a page of
one use is there once before, and so it is afterwards. -/
theorem unknown_expressions_pass_through :
    (∀ (env : Environment) (s : Session) (access : BlockAccess) (fuel : Nat) (body : List Char) (v : Variable),
      .var v ∈ parseTemplate body →
        (((env.evaluatePipeline (fuel + 2) access v.initial v.stages).run s).outcome = .ok .unhandled ↔
          env.MeansNothing (env.layers s.scope.rootPage s.scope.layout s.scope) v)) ∧
    ∀ (site : Site) (f : PageFormat) (e : Engine) (text : String) (args : Table Value) (fuel : Nat),
      site.unhandled = none → site.formats.head? = some f → e.TempFilesDistinct →
      text.toList.head? ≠ some '\ufeff' → ¬FrontMatter.Opens f.argsPrefix.toList text.toList →
      (∀ v, .var v ∈ parseTemplate text.toList →
        (site.templateEnvironment args).MeansNothing [(site.templateEnvironment args).args, site.args] v) →
      ∃ e', (site.evaluateTemplate (fuel + 3) text args).run e = { output := [], outcome := .ok text, state := e' } ∧
        e'.TempFilesDistinct := by
  refine ⟨?_, ?_⟩
  · intro env s access fuel body v hv
    obtain ⟨inner, hspan⟩ := (cuts_parseTemplate body).isSpanOf v hv
    exact Environment.outcome_eq_unhandled_iff hspan fuel access s
  · intro site f e text args fuel hsource hf hfiles hmark hopens hnothing
    exact Site.run_evaluateTemplate_of_meansNothing hsource hf hfiles hmark hopens hnothing fuel

/-- A template with a path that nothing has the head of and a call of a filter that there is not. -/
def unknownText : String :=
  "a \x7b\x7b b.c \x7d\x7d \x7b\x7b f(1) | upper \x7d\x7d"

/-- The path of the template. -/
def unknownPath : Variable where
  source := "\x7b\x7b b.c \x7d\x7d"
  initial := .binding { text := "b.c", head := "b", steps := [.member "c"] }
  binding := some "b.c"
  stages := []

/-- The call of the template, with a stage after it. -/
def unknownCall : Variable where
  source := "\x7b\x7b f(1) | upper \x7d\x7d"
  initial := .call { name := "f", args := [.literal (.int 1)] }
  binding := none
  stages := [{ name := "upper", args := [] }]

theorem parseTemplate_unknownText :
    parseTemplate unknownText.toList = [.text "a ", .var unknownPath, .text " ", .var unknownCall] := by
  cbv

theorem meansNothing_unknownText : ∀ v, .var v ∈ parseTemplate unknownText.toList →
    (plainSite.templateEnvironment []).MeansNothing [(plainSite.templateEnvironment []).args, plainSite.args] v := by
  intro v hv
  rw [parseTemplate_unknownText] at hv
  have hcases : v = unknownPath ∨ v = unknownCall := by simpa using hv
  rcases hcases with rfl | rfl
  · refine .path rfl rfl ?_ ?_
    · intro table htable
      have hargs : plainSite.args = [] := rfl
      have htables : table = [("model", .null)] ∨ table = [] := by
        simpa [Site.templateEnvironment, Table.insert, hargs] using htable
      rcases htables with rfl | rfl <;> rfl
    · rw [Environment.findFilterOfKind_ofList [] _ rfl (Site.filters_build _ _ _ _)]
      rfl
  · refine .call rfl ?_
    rw [Environment.findFilter_ofList [] _ rfl (Site.filters_build _ _ _ _)]
    rfl

/-- So the template is given back, though nothing in it has a meaning. -/
theorem unknown_expressions_pass_through_unknownText :
    .var unknownPath ∈ parseTemplate unknownText.toList ∧
      ((((plainSite.templateEnvironment []).evaluatePipeline 2 ((plainSite.templateEnvironment []).access 0) unknownPath.initial
        unknownPath.stages).run selfSession).outcome = .ok .unhandled ↔
        (plainSite.templateEnvironment []).MeansNothing ((plainSite.templateEnvironment []).layers selfSession.scope.rootPage
          selfSession.scope.layout selfSession.scope) unknownPath) ∧
      ∃ e, (plainSite.evaluateTemplate 3 unknownText []).run emptyEngine =
        { output := [], outcome := .ok unknownText, state := e } ∧ e.TempFilesDistinct := by
  have hmem : .var unknownPath ∈ parseTemplate unknownText.toList := by
    rw [parseTemplate_unknownText]
    simp
  have hmark : unknownText.toList.head? ≠ some '\ufeff' := by
    decide +kernel
  have hopens : ¬FrontMatter.Opens PageFormat.html.argsPrefix.toList unknownText.toList := by
    decide +kernel
  obtain ⟨hpipelines, htemplates⟩ := unknown_expressions_pass_through
  have hpath := hpipelines (plainSite.templateEnvironment []) selfSession ((plainSite.templateEnvironment []).access 0) 0
    unknownText.toList unknownPath hmem
  rw [Nat.zero_add] at hpath
  have hformats : plainSite.formats.head? = some .html := by
    rw [toPageRules_plainSite]
    rfl
  have hsource : plainSite.unhandled = none := rfl
  have hfiles : emptyEngine.TempFilesDistinct := tempFilesDistinct_over _
  have htext := htemplates plainSite .html emptyEngine unknownText [] 0 hsource hformats hfiles hmark hopens
    meansNothing_unknownText
  rw [Nat.zero_add] at htext
  exact ⟨hmem, hpath, htext⟩

end PageTemplates
