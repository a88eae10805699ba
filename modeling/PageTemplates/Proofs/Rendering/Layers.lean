import PageTemplates.Proofs.Rendering.Partials
import PageTemplates.Proofs.Rendering.InlineTemplates

/-!
# Where names are looked up

A name means what the first of some tables binds it to: the locals, the arguments of the render, those of the page being
written, of the page that the render is for and of the layout, and those of the site; else the value of a filter. What a render
does to its scopes decides which of these tables a scope has. It has them all in the layout and in the page, at any depth of
inline templates, and all but the arguments of the layout in a partial. Main statements: looking a name up goes through the
tables of the scope (`Environment.run_lookup`), and these are the tables for every scope of a render (`Site.During.lookup`).
-/

namespace PageTemplates

open Emit

/-! ## The tables of a scope -/

/-- The arguments of a page, as values. -/
def PageContent.values (c : PageContent) : Table Value :=
  c.args.map fun (name, text) => (name, .string text)

theorem PageContent.get?_values (c : PageContent) (name : String) :
    Table.get? c.values name = (Table.get? c.args name).map .string := by
  unfold values
  induction c.args with
  | nil => rfl
  | cons arg args ih =>
    obtain ⟨other, text⟩ := arg
    rw [List.map_cons, Table.get?_cons, Table.get?_cons]
    split
    · rfl
    · exact ih

namespace Environment

variable (env : Environment)

/-- The tables that a name is looked for in, from the first to the last, when a page is rendered in a layout: the page being
written comes before the page of the render, but while the layout is written, the page comes before it. -/
def layers (page : PageContent) (layout : Option PageContent) (s : Scope) : List (Table Value) :=
  let pages := if s.inLayout then page :: layout.toList else s.page :: page :: layout.toList
  s.locals :: env.args :: (pages.map PageContent.values ++ [env.site.args])

/-- The value that the first table with a name binds it to, else that of the value filter of the name without arguments. -/
def firstValue (tables : List (Table Value)) (name : String) : Eval (Option Value) :=
  match tables.findSome? (Table.get? · name) with
  | some v => return some v
  | none => env.callNullary name

/-- What a scope binds a name to is found in its tables. -/
theorem bound?_eq (s : Scope) (name : String) :
    env.bound? s name = (env.layers s.rootPage s.layout s).findSome? (Table.get? · name) := by
  have hpages : ∀ pages : List PageContent, (pages.findSome? fun page => Table.get? page.args name).map Value.string =
      (pages.map PageContent.values).findSome? (Table.get? · name) := by
    intro pages
    induction pages with
    | nil => rfl
    | cons page pages ih =>
      rw [List.map_cons, List.findSome?_cons, List.findSome?_cons, page.get?_values]
      cases Table.get? page.args name with
      | none => exact ih
      | some text => rfl
  have hlast : [env.site.args].findSome? (Table.get? · name) = Table.get? env.site.args name := by
    rw [List.findSome?_cons]
    cases Table.get? env.site.args name <;> rfl
  unfold bound? layers Scope.pageArg? Scope.pageLayers
  rw [hpages, List.findSome?_cons, List.findSome?_cons, List.findSome?_append, hlast]
  cases Table.get? s.locals name with
  | some v => rfl
  | none =>
    cases Table.get? env.args name with
    | some v => rfl
    | none =>
      simp only [Option.orElse_none]
      cases List.findSome? _ _ <;> rfl

variable {env} in
theorem run_lookup_of_bound {s : Session} {name : String} {v : Value} (h : env.bound? s.scope name = some v) :
    (ofEval (env.lookup name)).run s = (pure (some v) : Emit Session (Option Value)).run s := by
  rw [lookup, ofEval_bind, Emit.Stable.run_bind_ok (x := ofEval Eval.scope) (a := s.scope) rfl, h]
  rfl

variable {env} in
theorem run_lookup_of_unbound {s : Session} {name : String} (h : env.bound? s.scope name = none) :
    (ofEval (env.lookup name)).run s = (ofEval (env.callNullary name)).run s := by
  rw [lookup, ofEval_bind, Emit.Stable.run_bind_ok (x := ofEval Eval.scope) (a := s.scope) rfl, h]
  rfl

/-- Looking a name up goes through the tables of the scope. -/
theorem run_lookup (s : Session) (name : String) :
    (ofEval (env.lookup name)).run s =
      (ofEval (env.firstValue (env.layers s.scope.rootPage s.scope.layout s.scope) name)).run s := by
  rw [firstValue, ← bound?_eq]
  cases hbound : env.bound? s.scope name with
  | some v => exact run_lookup_of_bound hbound
  | none => exact run_lookup_of_unbound hbound

/-- A filter that is called for its value alone gives one or fails. -/
theorem outcome_callNullary_eq_none_iff (s : Session) (name : String) :
    ((ofEval (env.callNullary name)).run s).outcome = .ok none ↔ env.findFilterOfKind name 0 .value = none := by
  unfold callNullary
  cases hd : env.findFilterOfKind name 0 .value with
  | none => exact iff_of_true rfl rfl
  | some d =>
    have hkind : d.body.kind = .value := (answers_of_findFilterOfKind hd).1
    have hsome : ∀ x : Eval Value, ((ofEval (do return some (← x))).run s).outcome ≠ .ok none := by
      intro x hx
      rw [ofEval_bind] at hx
      cases hr : ((ofEval x).run s).outcome with
      | error fault =>
        rw [Emit.Stable.run_bind_error hr] at hx
        cases hx
      | ok v =>
        rw [Emit.Stable.run_bind_ok hr] at hx
        cases hx
    simp only [reduceCtorEq, iff_false]
    cases hb : d.body with
    | value run => exact hsome _
    | remembering memory run => exact hsome _
    | context run =>
      rw [hb] at hkind
      cases hkind
    | block run =>
      rw [hb] at hkind
      cases hkind

/-- No value is found for a name exactly if no table has it and no value filter without arguments has the name. -/
theorem outcome_firstValue_eq_none_iff (tables : List (Table Value)) (s : Session) (name : String) :
    ((ofEval (env.firstValue tables name)).run s).outcome = .ok none ↔
      (∀ table ∈ tables, Table.get? table name = none) ∧ env.findFilterOfKind name 0 .value = none := by
  rw [← List.findSome?_eq_none_iff, firstValue]
  cases hfound : tables.findSome? (Table.get? · name) with
  | some v => exact iff_of_false nofun nofun
  | none => simp only [outcome_callNullary_eq_none_iff, true_and]

/-- The filters of an environment change nothing of a scope but the locals, if what they ask does not. -/
def LeavesScopes : Prop :=
  ∀ name arity kind d, env.findFilterOfKind name arity kind = some d → d.body.Steady fun _ => True

variable {env}

theorem LeavesScopes.maintainsWriting (h : env.LeavesScopes) : env.MaintainsWriting fun _ => True :=
  maintainsWriting_true h

/-- Value filters see no scope, and the built-in filters change only the locals. -/
theorem Standard.leavesScopes (h : env.Standard) : env.LeavesScopes := by
  have hparsing : KeptByParsing fun _ => True := fun _ _ _ _ => trivial
  intro name arity kind d hd
  rcases h.filter name arity kind d hd with hd | hd | hd
  · exact FilterBody.steady_of_kind _ hd
  · exact Scoping.steady_filters hparsing d hd
  · exact Blocks.steady_filters hparsing d hd

end Environment

/-! ## The scopes of a render -/

/-- A scope in the render of a page in a layout. Outside of partials the layout or the page is written; a partial is written
without the layout. -/
structure Scope.InRender (page : PageContent) (around : Option PageContent) (s : Scope) : Prop where
  rootPage : s.rootPage = page
  layout : s.layout = if s.depth = 0 then around else none
  outermost : s.depth = 0 → if s.inLayout then around = some s.page else s.page = page
  partials : s.depth ≠ 0 → s.inLayout = false

/-- A scope that has become another one by locals and by the count of nested evaluations alone. -/
def Scope.Same (s t : Scope) : Prop :=
  t = { s with locals := t.locals, nesting := t.nesting }

namespace Scope.InRender

variable {page : PageContent} {layout : Option PageContent} {s t : Scope}

theorem same (h : s.InRender page layout) (hst : s.Same t) : t.InRender page layout := by
  rw [hst]
  exact ⟨h.rootPage, h.layout, h.outermost, h.partials⟩

/-- The scope of a partial does not have the layout. -/
theorem child (h : s.InRender page layout) (content : PageContent) (format : PageFormat) :
    (s.child content format).InRender page layout :=
  ⟨h.rootPage, rfl, nofun, fun _ => rfl⟩

end Scope.InRender

theorem Session.Steady.same {I : Engine → Prop} {s t : Session} (h : Session.Steady I s t) : s.scope.Same t.scope := by
  have hnesting := h.nesting
  unfold Scope.Same
  rw [hnesting]
  exact h.scope

namespace Environment

variable {env : Environment} {page : PageContent} {layout : Option PageContent}

theorem Includes.inRender {name : String} {locals : Table Value} {s t : Session} {loaded : LoadedPage}
    (h : env.Includes name locals s loaded t) (hs : s.scope.InRender page layout) : t.scope.InRender page layout := by
  rw [h.scope]
  exact (hs.child loaded.content loaded.format).same rfl

/-- **Templates.** The template that an expression starts is written in the same render: a page in a child of the scope, and an
inline template in the scope. -/
theorem StartsTemplate.inRender (h : env.LeavesScopes) {v : Variable} {s t : Session} {kind : TemplateKind}
    {fragments : List Fragment} (hstart : env.StartsTemplate v s kind fragments t) (hs : s.scope.InRender page layout) :
    t.scope.InRender page layout := by
  have hkeeps := h.maintainsWriting
  obtain ⟨hcall, hstart⟩ := hstart
  have hcalled := hs.same (hcall.uses hkeeps).session.same
  cases hstart with
  | ofPartial hrun hname hlocals hpage => exact hpage.inRender hcalled
  | ofSelectPartial hrun hname hitems hr hok hpage =>
    exact hpage.inRender (hcalled.same (hr.steady (steady_forItems_partialItem hkeeps _ _)).same)
  | @ofSelect text fragments before after item parsed r hrun htext hparsed hfragments hitems hr hok =>
    have hparse := hcalled.same (hparsed ▸ (Scoping.steady_parsed hkeeps.parsing .inlineTemplate text _).same)
    have hitems : (parsed.state.inside outsideItems).scope.InRender page layout := hparse.same rfl
    have hbefore := hitems.same (hr.steady (steady_forItems_inlineItem hkeeps fragments before)).same
    exact hbefore.same (t := itemScope item before.length r.state.scope) rfl

theorem ComesTo.inRender (h : env.LeavesScopes) {fragments : List Fragment} {s t : Session} {v : Variable}
    (hcomes : env.ComesTo fragments s v t) (hs : s.scope.InRender page layout) : t.scope.InRender page layout :=
  hs.same (hcomes.steady h.maintainsWriting).same

/-- **Nesting.** So are the templates inside one another, at any depth. -/
theorem Nests.inRender (h : env.LeavesScopes) {k : Nat} {v w : Variable} {s t : Session} (hnests : env.Nests k v s w t)
    (hs : s.scope.InRender page layout) : t.scope.InRender page layout := by
  induction hnests with
  | refl => exact hs
  | page hstart hcomes _ ih | inline hstart hcomes _ ih => exact ih (hcomes.inRender h (hstart.inRender h hs))

end Environment

namespace Site

variable {site : Site} {plan : RenderPlan} {e : Engine} {page : LoadedPage}

/-- A render writes its page in the layout that was prepared with it. -/
structure Prepares (site : Site) (plan : RenderPlan) (e : Engine) (page : LoadedPage) (layout : Option LoadedPage) : Prop where
  runs : ∃ e', Load.runOn (site.prepare plan) e = (.ok (page, layout), e')

theorem LayoutComesTo.scope_eq (h : (plan.environment site).LeavesScopes) {v : Variable} {t : Session}
    (hcomes : site.LayoutComesTo plan e page v t) :
    ∃ layout, site.Prepares plan e page (some layout) ∧
      t.scope = { layoutScope page layout with locals := t.scope.locals } := by
  obtain @⟨layout, e', before, after, r, hprepare, -, hr, -, rfl⟩ := hcomes
  obtain ⟨n, hn⟩ := hr.eventually
  have hsteady : Session.Steady (fun _ => True) { engine := e', scope := layoutScope page layout } r.state :=
    hn n (Nat.le_refl n) ▸ steady_writeLayout h.maintainsWriting n before (.refl _)
  exact ⟨layout, ⟨e', hprepare⟩, hsteady.scope⟩

/-- The page begins in the scope of the page and the selected layout, with the locals that the layout set before the page. -/
theorem BeginsPage.scope_eq (h : (plan.environment site).LeavesScopes) {s : Session} (hbegins : site.BeginsPage plan e page s) :
    ∃ layout, site.Prepares plan e page layout ∧
      s.scope = { pageScope page (layout.map (·.content)) with locals := s.scope.locals } ∧
      (layout = none → s.scope.locals = []) := by
  cases hbegins with
  | alone hprepare => exact ⟨none, ⟨_, hprepare⟩, rfl, fun _ => rfl⟩
  | @inLayout v t hlayout hhole =>
    obtain ⟨layout, hprepares, ht⟩ := hlayout.scope_eq h
    refine ⟨some layout, hprepares, ?_, nofun⟩
    unfold Session.inside holeScope
    simp only
    rw [ht]
    rfl

theorem LayoutComesTo.inRender (h : (plan.environment site).LeavesScopes) {v : Variable} {t : Session}
    (hcomes : site.LayoutComesTo plan e page v t) :
    ∃ layout, site.Prepares plan e page (some layout) ∧ t.scope.InRender page.content (some layout.content) := by
  obtain ⟨layout, hprepares, ht⟩ := hcomes.scope_eq h
  rw [ht]
  exact ⟨layout, hprepares, rfl, rfl, fun _ => rfl, nofun⟩

theorem BeginsPage.inRender (h : (plan.environment site).LeavesScopes) {s : Session} (hbegins : site.BeginsPage plan e page s) :
    ∃ layout, site.Prepares plan e page layout ∧ s.scope.InRender page.content (layout.map (·.content)) := by
  obtain ⟨layout, hprepares, hs, -⟩ := hbegins.scope_eq h
  rw [hs]
  exact ⟨layout, hprepares, rfl, rfl, fun _ => rfl, nofun⟩

theorem ComesTo.inRender (h : (plan.environment site).LeavesScopes) {v : Variable} {t : Session}
    (hcomes : site.ComesTo plan e v t) :
    ∃ page layout, site.Prepares plan e page layout ∧ t.scope.InRender page.content (layout.map (·.content)) := by
  cases hcomes with
  | @ofPage page s hbegins hcomes =>
    obtain ⟨layout, hprepares, hs⟩ := hbegins.inRender h
    exact ⟨page, layout, hprepares, hcomes.inRender h hs⟩
  | @ofLayout page hlayout hhole =>
    obtain ⟨layout, hprepares, ht⟩ := hlayout.inRender h
    exact ⟨page, some layout, hprepares, ht⟩

/-- The sessions of a render: those in which it begins to write the layout, the page or a template inside, with whatever locals
and count of nested evaluations the expressions there come to. -/
inductive During (site : Site) (plan : RenderPlan) (e : Engine) (t : Session) : Prop
  | intro {s : Session} (hopens : site.Opens plan e s) (hscope : s.scope.Same t.scope)

/-- What leaves a session of a render in its scope leaves a session of the render. -/
theorem During.steady {I : Engine → Prop} {s t : Session} (h : site.During plan e s) (hst : Session.Steady I s t) :
    site.During plan e t := by
  obtain ⟨hopens, hscope⟩ := h
  refine .intro hopens ?_
  have hsame := hst.same
  unfold Scope.Same at hscope hsame ⊢
  rw [hsame, hscope]

theorem During.inRender (h : (plan.environment site).LeavesScopes) {t : Session} (ht : site.During plan e t) :
    ∃ page layout, site.Prepares plan e page layout ∧ t.scope.InRender page.content (layout.map (·.content)) := by
  obtain ⟨hopens, hscope⟩ := ht
  cases hopens with
  | @layout page layout e' hprepare =>
    have hlayout : (layoutScope page layout).InRender page.content (some layout.content) := ⟨rfl, rfl, fun _ => rfl, nofun⟩
    exact ⟨page, some layout, ⟨e', hprepare⟩, hlayout.same hscope⟩
  | @page page s hbegins =>
    obtain ⟨layout, hprepares, hs⟩ := hbegins.inRender h
    exact ⟨page, layout, hprepares, hs.same hscope⟩
  | inside hcomes hnests hstarts =>
    obtain ⟨page, layout, hprepares, hs⟩ := hcomes.inRender h
    exact ⟨page, layout, hprepares, (hstarts.inRender h (hnests.inRender h hs)).same hscope⟩

/-- **Names.** In every scope of a render, a name is looked up in the locals, the arguments of the render, those of the page
being written and of the page of the render, those of the layout unless a partial is written, and those of the site, and last
among the value filters without arguments. It is not found exactly if none of these has it. -/
theorem During.lookup (h : (plan.environment site).LeavesScopes) {t : Session} (ht : site.During plan e t) :
    ∃ page layout, site.Prepares plan e page layout ∧ t.scope.InRender page.content (layout.map (·.content)) ∧
      ∀ name,
        let tables := (plan.environment site).layers page.content
          (if t.scope.depth = 0 then layout.map (·.content) else none) t.scope
        (ofEval ((plan.environment site).lookup name)).run t =
            (ofEval ((plan.environment site).firstValue tables name)).run t ∧
          (((ofEval ((plan.environment site).lookup name)).run t).outcome = .ok none ↔
            (∀ table ∈ tables, Table.get? table name = none) ∧
              (plan.environment site).findFilterOfKind name 0 .value = none) := by
  obtain ⟨page, layout, hprepares, hrender⟩ := ht.inRender h
  refine ⟨page, layout, hprepares, hrender, fun name => ?_⟩
  have hrun := (plan.environment site).run_lookup t name
  rw [hrender.rootPage, hrender.layout] at hrun
  refine ⟨hrun, ?_⟩
  rw [hrun]
  exact (plan.environment site).outcome_firstValue_eq_none_iff _ t name

end Site

/-- A page with a partial, and a layout with an argument around it. -/
def titledFiles : MemoryFiles where
  files :=
    [("_layout.html", { bytes := Utf8.encode "<!--\ntitle: Home\n-->\n[\x7b\x7b page \x7d\x7d]", stamp := 5 }),
     ("main.html", { bytes := Utf8.encode "\x7b\x7b 'part' | partial \x7d\x7d", stamp := 5 }),
     ("part.html", { bytes := Utf8.encode "\x7b\x7b title \x7d\x7d", stamp := 5 })]

/-- The render of the page. -/
def titledPlan : RenderPlan where
  page := { kind := .page, key := "main" }

/-- The expression of the page, which writes the partial. -/
def partVariable : Variable where
  source := "\x7b\x7b 'part' | partial \x7d\x7d"
  initial := .literal (.string "part")
  binding := none
  stages := [{ name := "partial", args := [] }]

/-- The place of the page in the layout. -/
def holeVariable : Variable where
  source := "\x7b\x7b page \x7d\x7d"
  initial := .binding (.ofName "page")
  binding := some "page"
  stages := []

/-- The page as it is loaded. -/
def titledPage : LoadedPage where
  format := .html
  content :=
    { path := "main.html", args := [], fragments := [.var partVariable], layout := some { kind := .layout, key := "_layout" },
      stamp := 5 }

/-- The layout as it is loaded. -/
def titledLayout : LoadedPage where
  format := .html
  content :=
    { path := "_layout.html", args := [("title", "Home")], fragments := [.text "[", .var holeVariable, .text "]"],
      layout := none, stamp := 5 }

/-- The site once it was asked for the page. -/
def titledEngine : Engine where
  initialized := true
  files := .memory titledFiles
  pages :=
    [({ kind := .page, key := "main" },
      { id := { kind := .page, key := "main" }, path := "main.html", format := .html, content := some titledPage.content }),
     ({ kind := .layout, key := "_layout" },
      { id := { kind := .layout, key := "_layout" }, path := "_layout.html", format := .html,
        content := some titledLayout.content })]

theorem runOn_getPage_titled :
    Load.runOn (plainSite.getPage "main") (Engine.over (.memory titledFiles)) = (.ok (some titledPlan.page), titledEngine) := by
  rw [toPageRules_plainSite]
  cbv

theorem runOn_prepare_titled :
    Load.runOn (plainSite.prepare titledPlan) titledEngine = (.ok (titledPage, some titledLayout), titledEngine) := by
  rfl

/-- The session in which the render begins to write the layout. -/
def titledSession : Session where
  engine := titledEngine
  scope := Site.layoutScope titledPage titledLayout

/-- The session in which it begins to write the page. -/
def mainSession : Session :=
  titledSession.inside (Site.holeScope titledPage)

/-- The partial as it is loaded. -/
def partPage : LoadedPage where
  format := .html
  content :=
    { path := "part.html", args := [],
      fragments :=
        [.var { source := "\x7b\x7b title \x7d\x7d", initial := .binding (.ofName "title"), binding := some "title",
                stages := [] }],
      layout := some { kind := .layout, key := "_layout" }, stamp := 5 }

/-- The session in which it begins to write the partial. -/
def partSession : Session where
  engine :=
    { titledEngine with
      pages := titledEngine.pages ++
        [({ kind := .page, key := "part" },
          { id := { kind := .page, key := "part" }, path := "part.html", format := .html, content := some partPage.content })] }
  scope := { (mainSession.scope.child partPage.content partPage.format) with locals := [] }

theorem runOn_requirePage_part :
    Load.runOn (plainSite.requirePage "part") titledEngine = (.ok { kind := .page, key := "part" }, partSession.engine) := by
  rw [toPageRules_plainSite]
  cbv

theorem partialPage_part :
    (titledPlan.environment plainSite).partialPage "main.html" "part" = plainSite.requirePage "part" := by
  have hdirectory : (Path.parent? "main.html").filter (!·.isEmpty) = none := by
    rfl
  unfold Environment.partialPage
  rw [hdirectory]
  rfl

theorem runOn_partialContent_part :
    Load.runOn ((titledPlan.environment plainSite).partialContent "main.html" "part") titledEngine =
      (.ok partPage, partSession.engine) := by
  rw [Environment.partialContent, partialPage_part, Load.runOn_bind_ok runOn_requirePage_part]
  rfl

theorem standard_titled : (titledPlan.environment plainSite).Standard :=
  standard_plainSite.environment nofun

theorem beginsPage_titled : plainSite.BeginsPage titledPlan titledEngine titledPage mainSession := by
  have hfragments : titledLayout.content.fragments = [.text "["] ++ .var holeVariable :: [.text "]"] := rfl
  have hbefore : Yields (fun n => ([.text "["] : List Fragment).forM
      (Site.writeLayoutFragment (titledPlan.environment plainSite) titledPlan n titledPage titledLayout)) titledSession
      { output := Utf8.encode "[", outcome := .ok (), state := titledSession } :=
    ⟨by simp, fun n => Or.inr (by rfl), 0, fun n _ => by rfl⟩
  exact .inLayout (.intro runOn_prepare_titled hfragments hbefore rfl rfl) rfl

theorem calls_part : (titledPlan.environment plainSite).Calls partVariable mainSession
    { name := "partial", run := Blocks.writePage, value := .string "part", args := [], session := mainSession } := by
  have hfirst : Yields (fun n => (titledPlan.environment plainSite).entryValue n (some (.literal (.string "part")))
      [Stage.ofCall { name := "partial", args := [] }]) mainSession
      { output := [], outcome := .ok (some (.string "part")), state := mainSession } :=
    Yields.of_growing (fun _ _ hnm => Environment.below_entryValue standard_titled.monotone hnm _ _) (n := 1) rfl (by simp)
  have hargs : Yields (fun n => (titledPlan.environment plainSite).stageArgs n
      (Stage.ofCall { name := "partial", args := [] })) mainSession { output := [], outcome := .ok [], state := mainSession } :=
    ⟨by simp, fun _ => Or.inr rfl, 0, fun _ _ => rfl⟩
  have hfilter : (titledPlan.environment plainSite).findFilter "partial" 1 =
      some { name := "partial", arity := 1, body := .block Blocks.writePage } := by
    rw [Environment.findFilter_ofList [] _ rfl (Site.filters_build _ _ _ _)]
    rfl
  exact .intro rfl hfirst rfl (.here hfilter rfl (.intro hargs rfl))

theorem during_part : plainSite.During titledPlan titledEngine partSession := by
  have hincludes : (titledPlan.environment plainSite).Includes "part" [] mainSession partPage partSession :=
    ⟨by decide, runOn_partialContent_part, rfl⟩
  have hstarts : (titledPlan.environment plainSite).StartsTemplate partVariable mainSession .page partPage.content.fragments
      partSession :=
    .intro calls_part (.ofPartial rfl rfl rfl hincludes)
  have hcomes : plainSite.ComesTo titledPlan titledEngine partVariable mainSession :=
    .ofPage beginsPage_titled (Environment.comesTo_head partVariable [] mainSession)
  exact .intro (.inside hcomes (.refl _ _) hstarts) rfl

/-- In the partial, names are looked up without the layout. -/
theorem lookup_in_part :
    (titledPlan.environment plainSite).LeavesScopes ∧ plainSite.During titledPlan titledEngine partSession ∧
      ∃ page layout, plainSite.Prepares titledPlan titledEngine page layout ∧
        partSession.scope.InRender page.content (layout.map (·.content)) ∧
        (((ofEval ((titledPlan.environment plainSite).lookup "title")).run partSession).outcome = .ok none ↔
          (∀ table ∈ (titledPlan.environment plainSite).layers page.content none partSession.scope,
            Table.get? table "title" = none) ∧
            (titledPlan.environment plainSite).findFilterOfKind "title" 0 .value = none) := by
  obtain ⟨page, layout, hprepares, hrender, hlookup⟩ := Site.During.lookup standard_titled.leavesScopes during_part
  exact ⟨standard_titled.leavesScopes, during_part, page, layout, hprepares, hrender, (hlookup "title").2⟩

/-- An argument of the layout is not found in the partial, though it is there when the layout is looked into after the pages. -/
theorem layout_unseen_in_partial :
    Load.runOn (plainSite.getPage "main") (Engine.over (.memory titledFiles)) = (.ok (some titledPlan.page), titledEngine) ∧
      plainSite.Prepares titledPlan titledEngine titledPage (some titledLayout) ∧
      plainSite.During titledPlan titledEngine partSession ∧
      ((ofEval ((titledPlan.environment plainSite).lookup "title")).run partSession).outcome = .ok none ∧
      ((ofEval ((titledPlan.environment plainSite).firstValue ((titledPlan.environment plainSite).layers titledPage.content
        (some titledLayout.content) partSession.scope) "title")).run partSession).outcome = .ok (some (.string "Home")) := by
  refine ⟨runOn_getPage_titled, ⟨_, runOn_prepare_titled⟩, during_part, ?_, ?_⟩
  · rw [Environment.run_lookup, Environment.outcome_firstValue_eq_none_iff]
    refine ⟨by decide, ?_⟩
    rw [Environment.findFilterOfKind_ofList [] _ rfl (Site.filters_build _ _ _ _)]
    rfl
  · rfl

end PageTemplates
