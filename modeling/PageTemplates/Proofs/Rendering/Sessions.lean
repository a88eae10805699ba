import PageTemplates.Proofs.Evaluation.Termination
import PageTemplates.Proofs.Pages.Loading
import PageTemplates.Proofs.Rendering.Nesting

/-!
# Where templates are written

Every use of a block filter belongs to a stage of its expression and begins in the scope of the expression but for the locals. A
page that is started is one level deeper than the expression, within the limit of the settings, and an inline template is at the
same level. Main statements: where uses begin (`Calls.uses`), where templates are started (`StartsTemplate.begins`), and that
the limit holds for the expressions of templates inside one another (`Nests.session`).
-/

namespace PageTemplates

open Emit

/-- The names of the filters that the stages of an expression use. -/
def Variable.stageNames (v : Variable) : List String :=
  match v.initial with
  | .call call => call.name :: v.stages.map (·.name)
  | _ => v.stages.map (·.name)

namespace Environment

variable {env : Environment} {I : Engine → Prop}

/-! ## Uses of block filters -/

/-- A block filter that is used is one of the environment, and the use begins in the scope of an expression but for the locals.
-/
structure Uses (env : Environment) (I : Engine → Prop) (names : List String) (s : Session) (c : BlockCall) : Prop where
  name : c.name ∈ names
  filter : ∃ arity kind d, env.findFilterOfKind c.name arity kind = some d ∧ d.body = .block c.run
  session : Session.Steady I s c.session

/-- A use after something else, by one of more stages. -/
theorem Uses.after {names names' : List String} {s t : Session} {c : BlockCall} (h : env.Uses I names t c)
    (hst : Session.Steady I s t) (hsub : ∀ name ∈ names, name ∈ names') : env.Uses I names' s c :=
  ⟨hsub c.name h.name, h.filter, hst.trans h.session⟩

theorem Uses.steady (h : env.MaintainsWriting I) {names : List String} {s : Session} {c : BlockCall} (hc : env.Uses I names s c)
    (fuel : Nat) : Emit.Steady I (env.writeCall c fuel) := by
  obtain ⟨arity, kind, d, hd, hrun⟩ := hc.filter
  have hfilter := h.block c.name arity kind d hd (congrArg FilterBody.kind hrun)
  rw [hrun] at hfilter
  exact (hfilter _ (steady_access h fuel) c.value c.args).inFilter c.name

theorem StageCall.uses (h : env.MaintainsWriting I) {run : BlockAccess → Value → List Value → Emit Session Unit} {stage : Stage}
    {v : Value} {s : Session} {c : BlockCall} (hc : env.StageCall run stage v s c) {arity : Nat} {kind : FilterKind}
    {d : FilterDef} (hd : env.findFilterOfKind stage.name arity kind = some d) (hrun : d.body = .block run) :
    env.Uses I [stage.name] s c := by
  obtain ⟨hr, hargs⟩ := hc
  exact ⟨List.mem_singleton_self _, ⟨arity, kind, d, hd, hrun⟩, hr.steady fun n => steady_stageArgs h.toMaintains n stage⟩

theorem exists_of_blockFilter? {stage : Stage} {run : BlockAccess → Value → List Value → Emit Session Unit}
    (hrun : env.blockFilter? stage = some run) :
    ∃ d, env.findFilterOfKind stage.name stage.arity .block = some d ∧ d.body = .block run := by
  unfold blockFilter? at hrun
  split at hrun
  · rename_i name arity params acceptsUnknown run' hd
    obtain rfl := Option.some.inj hrun
    exact ⟨_, hd, rfl⟩
  · cases hrun

theorem ChainCalls.uses (h : env.MaintainsWriting I) {buffer : Bytes} {stages : List Stage} {s : Session} {c : BlockCall}
    (hc : env.ChainCalls buffer stages s c) : env.Uses I (stages.map (·.name)) s c := by
  induction hc with
  | here hrun htext hc =>
    obtain ⟨d, hd, hbody⟩ := exists_of_blockFilter? hrun
    exact (hc.uses h hd hbody).after (.refl _) (by simp)
  | afterFilter hrun htext hfirst hr hok hne hnext ih =>
    obtain ⟨d, hd, hbody⟩ := exists_of_blockFilter? hrun
    have hfirst := hfirst.uses h hd hbody
    exact ih.after (hfirst.session.trans (hr.steady (hfirst.steady h))) (by simp_all)
  | afterTransformer hnone htransform hok hnext ih => exact ih.after (.refl _) (by simp_all)

theorem StagesCall.uses (h : env.MaintainsWriting I) {position : Nat} {stages : List Stage} {v : Value} {s : Session}
    {c : BlockCall} (hc : env.StagesCall position stages v s c) : env.Uses I (stages.map (·.name)) s c := by
  induction hc with
  | here hd hrun hc =>
    obtain ⟨kind, hkind⟩ := exists_kind_of_findFilter hd
    exact (hc.uses h hkind hrun).after (.refl _) (by simp)
  | afterBlock hd hrun hfirst hr hok hne hnext =>
    obtain ⟨kind, hkind⟩ := exists_kind_of_findFilter hd
    have hfirst := hfirst.uses h hkind hrun
    exact (hnext.uses h).after (hfirst.session.trans (hr.steady (hfirst.steady h))) (by simp_all)
  | afterValue hnot hr hok hnext ih =>
    exact ih.after (hr.steady fun n => steady_runStages h n (steady_access h n) _ _ _) (by simp_all)

theorem name_mem_stageNames {v : Variable} {first : Option Expression} {stages : List Stage}
    (hstart : env.start? v.initial v.stages = some (first, stages)) : ∀ name ∈ stages.map (·.name), name ∈ v.stageNames := by
  obtain ⟨source, initial, binding, calls⟩ := v
  have hcalls : ∀ stages : List Stage, calls.map Stage.ofCall = stages →
      ∀ name ∈ stages.map (·.name), name ∈ calls.map (·.name) := by
    rintro _ rfl name hname
    rw [List.map_map] at hname
    exact hname
  cases initial with
  | call call =>
    simp only [start?] at hstart
    split at hstart
    · cases hstart
    · cases hstart
      intro name hname
      rcases List.mem_cons.1 hname with rfl | hname
      · exact List.mem_cons_self
      · exact List.mem_cons_of_mem _ (hcalls _ rfl name hname)
  | literal l | binding path | array items | object entries =>
    cases hstart
    exact hcalls _ rfl

/-- **Uses.** An expression uses filters of its stages, in its own scope but for the locals. -/
theorem Calls.uses (h : env.MaintainsWriting I) {v : Variable} {s : Session} {c : BlockCall} (hc : env.Calls v s c) :
    env.Uses I v.stageNames s c := by
  obtain ⟨hstart, hr, hvalue, hcall⟩ := hc
  exact (hcall.uses h).after (hr.steady fun n => steady_entryValue h.toMaintains n _ _) (name_mem_stageNames hstart)

/-! ## Templates -/

end Environment

theorem Session.Steady.inside {I : Engine → Prop} (s : Session) {f : Scope → Scope}
    (hf : ∀ s, f s = { s with locals := (f s).locals }) : Session.Steady I s (s.inside f) :=
  ⟨hf s.scope, id⟩

/-- What a template of a kind does to the depth of partials, within a limit. -/
def TemplateKind.Deepens (limit : Nat) : TemplateKind → Nat → Nat → Prop
  | .page, depth, depth' => depth < limit ∧ depth' = depth + 1
  | .inline, depth, depth' => depth' = depth

namespace Environment

variable {env : Environment} {I : Engine → Prop} {Q : Page → Prop}

/-- A template that is started inside an expression: the state of the site keeps its property, the depth of partials is within
the limit, and a page is one of the pages of such a state. -/
structure Begins (env : Environment) (I : Engine → Prop) (Q : Page → Prop) (s : Session) (kind : TemplateKind)
    (fragments : List Fragment) (t : Session) : Prop where
  engine : I t.engine
  depth : kind.Deepens env.site.settings.maxPartialDepth s.scope.depth t.scope.depth
  page : kind = .page → ∃ p c, Q p ∧ p.content = some c ∧ c.fragments = fragments

theorem Includes.begins (hkept : env.site.toPageRules.KeptByLoading I Q) {name : String} {locals : Table Value}
    {s : Session} {page : LoadedPage} {t : Session} (hs : I s.engine) (hpage : env.Includes name locals s page t) :
    env.Begins I Q s .page page.content.fragments t := by
  obtain ⟨p, hp, -, hcontent⟩ := hkept.of_partialContent rfl hs hpage.found
  refine ⟨Load.of_runOn (hkept.partialContent rfl s.scope.page.path name) hs hpage.found, ⟨hpage.depth, ?_⟩,
    fun _ => ⟨p, page.content, hp, hcontent, rfl⟩⟩
  rw [hpage.scope]
  rfl

theorem Begins.after {s t u : Session} {kind : TemplateKind} {fragments : List Fragment} (h : env.Begins I Q t kind fragments u)
    (hst : Session.Steady I s t) : env.Begins I Q s kind fragments u :=
  ⟨h.engine, hst.depth ▸ h.depth, h.page⟩

theorem steady_forItems_partialItem (h : env.MaintainsWriting I) (name : String) (items : List Value) (fuel : Nat) :
    Emit.Steady I (Blocks.forItems (env.partialItem name fuel) 0 items) :=
  Blocks.steady_forItems (fun _ _ => (steady_access h fuel).writePartial name _) 0 items

theorem steady_forItems_inlineItem (h : env.MaintainsWriting I) (fragments : List Fragment) (items : List Value) (fuel : Nat) :
    Emit.Steady I (Blocks.forItems (env.inlineItem fragments fuel) 0 items) := by
  refine Blocks.steady_forItems (fun _ _ => ?_) 0 items
  exact (Emit.Steady.modifyScope fun _ => rfl).bind fun _ => (steady_access h fuel).writeFragments fragments

theorem CallStarts.begins (h : env.MaintainsWriting I) (hkept : env.site.toPageRules.KeptByLoading I Q) {c : BlockCall}
    {kind : TemplateKind} {fragments : List Fragment} {t : Session} (hs : I c.session.engine)
    (hstart : env.CallStarts c kind fragments t) : env.Begins I Q c.session kind fragments t := by
  cases hstart with
  | ofPartial hrun hname hlocals hpage => exact hpage.begins hkept hs
  | ofSelectPartial hrun hname hitems hr hok hpage =>
    have hbefore := hr.steady (steady_forItems_partialItem h _ _)
    exact (hpage.begins hkept (hbefore.engine hs)).after hbefore
  | @ofSelect text fragments before after item parsed r hrun htext hparsed hfragments hitems hr hok =>
    have hparse : Session.Steady I c.session parsed.state :=
      hparsed ▸ Scoping.steady_parsed h.parsing .inlineTemplate text c.session
    have hsession := ((hparse.trans (.inside parsed.state fun _ => rfl)).trans
      (hr.steady (steady_forItems_inlineItem h fragments before))).trans
        (.inside r.state (f := itemScope item before.length) fun _ => rfl)
    exact ⟨hsession.engine hs, hsession.depth, nofun⟩

/-- **Templates.** Where an expression starts a template. -/
theorem StartsTemplate.begins (h : env.MaintainsWriting I) (hkept : env.site.toPageRules.KeptByLoading I Q) {v : Variable}
    {s : Session} {kind : TemplateKind} {fragments : List Fragment} {t : Session} (hs : I s.engine)
    (hstart : env.StartsTemplate v s kind fragments t) : env.Begins I Q s kind fragments t := by
  obtain ⟨hcall, hstart⟩ := hstart
  have hsession := (hcall.uses h).session
  exact (hstart.begins h hkept (hsession.engine hs)).after hsession

/-- An expression of a template is evaluated in the scope of the template but for the locals. -/
theorem ComesTo.steady (h : env.MaintainsWriting I) {fragments : List Fragment} {s : Session} {v : Variable} {t : Session}
    (hcomes : env.ComesTo fragments s v t) : Session.Steady I s t := by
  obtain ⟨-, hr, -, rfl⟩ := hcomes
  exact hr.steady fun n => steady_writeFragments h n _

theorem Begins.depth_le {s t : Session} {kind : TemplateKind} {fragments : List Fragment}
    (h : env.Begins I Q s kind fragments t) (hs : s.scope.depth ≤ env.site.settings.maxPartialDepth) :
    t.scope.depth ≤ env.site.settings.maxPartialDepth := by
  have hdepth := h.depth
  cases kind with
  | page =>
    obtain ⟨hlt, heq⟩ := hdepth
    omega
  | inline => exact Nat.le_trans (Nat.le_of_eq hdepth) hs

/-- **Nesting.** At any depth inside an expression the state of the site keeps its property, and the depth of partials is within
the limit. -/
theorem Nests.session (h : env.MaintainsWriting I) (hkept : env.site.toPageRules.KeptByLoading I Q) {k : Nat} {v w : Variable}
    {s t : Session} (hnests : env.Nests k v s w t) (hs : I s.engine)
    (hdepth : s.scope.depth ≤ env.site.settings.maxPartialDepth) :
    I t.engine ∧ t.scope.depth ≤ env.site.settings.maxPartialDepth := by
  induction hnests with
  | refl => exact ⟨hs, hdepth⟩
  | page hstart hcomes _ ih | inline hstart hcomes _ ih =>
    have hbegins := hstart.begins h hkept hs
    have hsteady := hcomes.steady h
    exact ih (hsteady.engine hbegins.engine) (hsteady.depth ▸ hbegins.depth_le hdepth)

end Environment

/-! ## Renders -/

namespace Site

variable {site : Site} {plan : RenderPlan} {I : Engine → Prop} {Q : Page → Prop} {e e' : Engine} {page layout : LoadedPage}

theorem steady_writePage {env : Environment} (h : env.MaintainsWriting I) (plan : RenderPlan) (fuel : Nat)
    (content : PageContent) : Emit.Steady I (writePage env plan fuel content) := by
  have hwrite := Environment.steady_writeFragments h fuel content.fragments
  unfold writePage
  split
  · exact hwrite
  · exact hwrite.capture.bind fun _ => (Emit.Steady.ofExcept _).bind fun _ => Emit.Steady.write _

/-- The session after the page was written in its place in a layout. -/
theorem state_writeHole (env : Environment) (fuel : Nat) (s : Session) :
    ((writeHole env plan fuel page layout).run s).state =
      ((writePage env plan fuel page.content).run (s.inside (holeScope page))).state.inside fun scope =>
        { scope with page := layout.content, format := layout.format, inLayout := true } := by
  rw [writeHole, Emit.state_bind (a := ()) rfl, Emit.state_bind (x := Emit.attempt _) rfl, Emit.state_bind (a := ()) rfl,
    Emit.state_resume]
  rfl

/-- A fragment of a layout leaves the scope of the layout as it was but for the locals. -/
theorem steady_writeLayoutFragment {env : Environment} (h : env.MaintainsWriting I) (fuel : Nat) (fragment : Fragment)
    {s : Session} (hs : Session.Steady I { engine := e', scope := layoutScope page layout } s) :
    Session.Steady I { engine := e', scope := layoutScope page layout }
      ((writeLayoutFragment env plan fuel page layout fragment).run s).state := by
  cases fragment with
  | text text => exact hs.trans (Emit.Steady.writeText text s)
  | var v =>
    rw [writeLayoutFragment]
    split
    · have hpage := steady_writePage h plan fuel page.content (s.inside (holeScope page))
      have hscope := hpage.scope
      rw [state_writeHole]
      refine ⟨?_, fun he => hpage.engine (hs.engine he)⟩
      simp only [Session.inside] at hscope ⊢
      rw [hscope, hs.scope]
      rfl
    · exact hs.trans (Environment.steady_writeVariable h fuel (Environment.steady_access h fuel) v s)

theorem steady_writeLayout {env : Environment} (h : env.MaintainsWriting I) (fuel : Nat) (fragments : List Fragment)
    {s : Session} (hs : Session.Steady I { engine := e', scope := layoutScope page layout } s) :
    Session.Steady I { engine := e', scope := layoutScope page layout }
      ((fragments.forM (writeLayoutFragment env plan fuel page layout)).run s).state := by
  induction fragments generalizing s with
  | nil => exact hs
  | cons fragment fragments ih =>
    have hfirst : Session.Steady I { engine := e', scope := layoutScope page layout }
        ((writeLayoutFragment env plan fuel page layout fragment).run s).state :=
      steady_writeLayoutFragment h fuel fragment hs
    cases hr : ((writeLayoutFragment env plan fuel page layout fragment).run s).outcome with
    | error fault =>
      rw [List.forM, Emit.Stable.run_bind_error hr]
      exact hfirst
    | ok a =>
      rw [List.forM, Emit.state_bind hr]
      exact ih hfirst

/-- A template of a render begins: the state of the site keeps its property, and no partial is around. -/
structure Outermost (I : Engine → Prop) (s : Session) : Prop where
  engine : I s.engine
  depth : s.scope.depth = 0

theorem Outermost.steady {s t : Session} (h : Outermost I s) (hst : Session.Steady I s t) : Outermost I t :=
  ⟨hst.engine h.engine, hst.depth.trans h.depth⟩

variable (h : (plan.environment site).MaintainsWriting I) (hprepare : Load.Keeps I (site.prepare plan)) (he : I e)
include h hprepare he

theorem LayoutComesTo.outermost {v : Variable} {t : Session} (hcomes : site.LayoutComesTo plan e page v t) : Outermost I t := by
  obtain @⟨layout, e', before, after, r, hrun, -, hr, -, rfl⟩ := hcomes
  obtain ⟨n, hn⟩ := hr.eventually
  have hlayout : Outermost I { engine := e', scope := layoutScope page layout } := ⟨Load.of_runOn hprepare he hrun, rfl⟩
  exact hlayout.steady (hn n (Nat.le_refl n) ▸ steady_writeLayout h n before (.refl _))

theorem BeginsPage.outermost {s : Session} (hbegins : site.BeginsPage plan e page s) : Outermost I s := by
  cases hbegins with
  | alone hrun => exact ⟨Load.of_runOn hprepare he hrun, rfl⟩
  | inLayout hlayout hhole =>
    obtain ⟨hengine, hdepth⟩ := hlayout.outermost h hprepare he
    exact ⟨hengine, hdepth⟩

/-- **Renders.** The expressions of the page and of the layout are evaluated outside of all partials. -/
theorem ComesTo.outermost {v : Variable} {t : Session} (hcomes : site.ComesTo plan e v t) : Outermost I t := by
  cases hcomes with
  | ofPage hbegins hcomes => exact (hbegins.outermost h hprepare he).steady (hcomes.steady h)
  | ofLayout hlayout hhole => exact hlayout.outermost h hprepare he

end Site

end PageTemplates
