import PageTemplates.Proofs.Evaluation.Expressions
import PageTemplates.Proofs.Pages.Lookup
import PageTemplates.Render

/-!
# Fragments and the state of the site

What is written for fragments depends on the scope and the environment, and of all that the site remembers only on the pages
that partials find. Main statement: if looking for partials is stable, writing fragments is (`stable_writeFragments`).
-/

namespace PageTemplates

namespace Environment

variable {env : Environment} {R : Engine → Engine → Prop}

/-! ## Pipelines -/

theorem stable_stageArgs (h : env.Plain R) (fuel : Nat) (stage : Stage) :
    Emit.Stable (Session.Alike R) (env.stageArgs fuel stage) :=
  Emit.Stable.ofEval (Stable.mapM stage.args (stable_evaluation h fuel).argument)

theorem Plain.blockFilter (h : env.Plain R) {stage : Stage} {run : BlockAccess → Value → List Value → Emit Session Unit}
    (hr : env.blockFilter? stage = some run) : (FilterBody.block run).Stable R := by
  unfold blockFilter? at hr
  split at hr
  · rename_i run' hd
    obtain rfl := Option.some.inj hr
    exact h.filter _ _ _ _ hd
  · simp at hr

/-- A block filter that writes, or whose output is captured, is stable. -/
theorem stable_writing {access : BlockAccess} (ha : access.Stable R) (name : String)
    {run : BlockAccess → Value → List Value → Emit Session Unit} (hrun : (FilterBody.block run).Stable R) (v : Value)
    (args : List Value) : Emit.Stable (Session.Alike R) (Emit.inFilter name (run access v args)) :=
  Emit.Stable.inFilter name (hrun access ha v args)

theorem stable_writeChain (h : env.Plain R) (fuel : Nat) {access : BlockAccess} (ha : access.Stable R) (buffer : Bytes)
    (stages : List Stage) : Emit.Stable (Session.Alike R) (env.writeChain fuel access buffer stages) := by
  induction stages generalizing buffer with
  | nil => exact Emit.Stable.write buffer
  | cons stage stages ih =>
    rw [writeChain]
    split
    · rename_i run hr
      refine (Emit.Stable.ofExcept _).bind fun text => (stable_stageArgs h fuel stage).bind fun args => ?_
      have hwriting := stable_writing ha stage.name (h.blockFilter hr) (.string text) args
      split
      · exact hwriting
      · exact (Emit.Stable.capture hwriting).bind fun next => ih next.2
    · split
      · exact (Emit.Stable.ofExcept _).bind fun next => ih next
      · exact Emit.Stable.fail _

theorem stable_runStages (h : env.Plain R) (fuel : Nat) {access : BlockAccess} (ha : access.Stable R) (position : Nat)
    (stages : List Stage) (v : Value) : Emit.Stable (Session.Alike R) (env.runStages fuel access position stages v) := by
  induction stages generalizing position v with
  | nil => exact Emit.Stable.pure _
  | cons stage stages ih =>
    have hnext : ∀ v, Emit.Stable (Session.Alike R) (do
        env.runStages fuel access (position + 1) stages (← Emit.ofEval (env.resolve fuel v))) := fun v =>
      (Emit.Stable.ofEval ((stable_evaluation h fuel).resolve v)).bind fun v => ih _ v
    rw [runStages]
    cases hd : env.findFilter stage.name stage.arity with
    | none =>
      simp only
      split
      · exact Emit.Stable.pure _
      · exact Emit.Stable.fail _
    | some d =>
      have hbody := h.findFilter hd
      refine (stable_stageArgs h fuel stage).bind fun args => ?_
      cases hb : d.body with
      | value run =>
        exact (Emit.Stable.ofEval (Eval.stable_inFilter stage.name (stable_callValue run v args))).bind hnext
      | remembering memory run =>
        rw [hb] at hbody
        exact (Emit.Stable.ofEval (Eval.stable_inFilter stage.name (hbody v args))).bind hnext
      | context run =>
        rw [hb] at hbody
        have hrun := hbody _ ((stable_evaluation h fuel).access h) v args
        refine (Emit.Stable.ofEval (Eval.stable_inFilter stage.name hrun)).bind fun output => ?_
        cases output with
        | value v => exact hnext v
        | ignore => exact Emit.Stable.pure _
        | stop => exact Emit.Stable.pure _
      | block run =>
        rw [hb] at hbody
        have hwriting := stable_writing ha stage.name hbody v args
        simp only
        split
        · exact hwriting.bind fun _ => Emit.Stable.pure _
        · refine (Emit.Stable.capture hwriting).bind fun next => ?_
          exact (stable_writeChain h fuel ha next.2 stages).bind fun _ => Emit.Stable.pure _

theorem stable_runFrom (h : env.Plain R) (fuel : Nat) {access : BlockAccess} (ha : access.Stable R) (base : Option Value)
    (stages : List Stage) : Emit.Stable (Session.Alike R) (env.runFrom fuel access base stages) := by
  unfold runFrom
  cases base with
  | some v =>
    exact (Emit.Stable.ofEval ((stable_evaluation h fuel).resolve v)).bind fun v => stable_runStages h fuel ha 0 stages v
  | none =>
    simp only
    split
    · exact stable_runStages h fuel ha 0 stages .null
    · exact Emit.Stable.pure _

/-- What comes of a pipeline is the same whatever the site remembers. -/
theorem stable_evaluatePipeline (h : env.Plain R) (fuel : Nat) {access : BlockAccess} (ha : access.Stable R)
    (initial : Expression) (calls : List (FilterCall Expression)) :
    Emit.Stable (Session.Alike R) (env.evaluatePipeline fuel access initial calls) := by
  have hfrom : ∀ e stages, Emit.Stable (Session.Alike R) (do
      env.runFrom fuel access (← Emit.ofEval (env.evalExpression fuel e)) stages) := fun e stages =>
    (Emit.Stable.ofEval ((stable_evaluation h fuel).expression e)).bind fun base => stable_runFrom h fuel ha base stages
  unfold evaluatePipeline
  cases initial with
  | call call =>
    simp only
    split
    · exact Emit.Stable.pure _
    · cases call.args with
      | nil => exact (Emit.Stable.pure _).bind fun base => stable_runFrom h fuel ha base _
      | cons first rest => exact hfrom first _
  | literal l => exact hfrom _ _
  | binding path => exact hfrom _ _
  | array items => exact hfrom _ _
  | object entries => exact hfrom _ _

/-! ## Fragments -/

theorem stable_recover (format : PageFormat) (outcome : Except Fault Outcome) :
    Emit.Stable (Session.Alike R) (env.recover format outcome) := by
  unfold recover
  split
  · exact Emit.Stable.pure _
  · exact Emit.Stable.throwFault _
  · split
    · exact Emit.Stable.pure _
    · exact Emit.Stable.fail _

theorem stable_writeVariable (h : env.Plain R) (fuel : Nat) {access : BlockAccess} (ha : access.Stable R) (v : Variable) :
    Emit.Stable (Session.Alike R) (env.writeVariable fuel access v) := by
  refine (Emit.Stable.attempt (stable_evaluatePipeline h fuel ha v.initial v.stages)).bind fun outcome => ?_
  refine Emit.Stable.scope_bind (fun s t hst => by rw [hst.same]; rfl) fun scope => ?_
  refine (stable_recover scope.format outcome).bind fun outcome => ?_
  split
  · exact Emit.Stable.writeText _
  · exact Emit.Stable.pure _

theorem stable_writeFragment (h : env.Plain R) (fuel : Nat) {access : BlockAccess} (ha : access.Stable R) (f : Fragment) :
    Emit.Stable (Session.Alike R) (env.writeFragment fuel access f) := by
  cases f with
  | text s => exact Emit.Stable.writeText s
  | var v => exact stable_writeVariable h fuel ha v

/-! ## Partials -/

/-- The page that a partial means, once it is loaded. -/
def partialContent (env : Environment) (page name : String) : Load LoadedPage := do
  let id ← env.partialPage page name
  Site.loadedPage id

/-- Writes a loaded page in a child of a scope with more locals. -/
def writeLoaded (write : List Fragment → Emit Session Unit) (scope : Scope) (locals : Table Value) (page : LoadedPage) :
    Emit Session Unit :=
  let child := scope.child page.content page.format
  Emit.withScope { child with locals := Table.insertAll child.locals locals } (write page.content.fragments)

theorem run_ofLoad {α : Type} (x : Load α) (s : Session) :
    (Emit.ofEval (Eval.ofLoad x)).run s =
      { output := []
        outcome := (x.run.run s.engine).1.mapError .error
        state := { s with engine := (x.run.run s.engine).2 } } := by
  have hrun : (Eval.ofLoad x).run.run s =
      (Eval.ofExcept (x.run.run s.engine).1).run.run { s with engine := (x.run.run s.engine).2 } := rfl
  change ({ output := [], outcome := ((Eval.ofLoad x).run.run s).1, state := ((Eval.ofLoad x).run.run s).2 } : Emission _ _) = _
  rw [hrun]
  cases (x.run.run s.engine).1 <;> rfl

theorem run_loadedPage {e : Engine} {id : PageId} {p : Page} {c : PageContent} (hp : e.page? id = some p)
    (hc : p.content = some c) : Load.runOn (Site.loadedPage id) e = (.ok { format := p.format, content := c }, e) := by
  obtain ⟨id', path, format, content, lastChecked⟩ := p
  obtain rfl : content = some c := hc
  unfold Site.loadedPage
  rw [Load.runOn_get_bind, hp]
  rfl

theorem run_loadedPage_error {e : Engine} {id : PageId} (h : ∀ p, e.page? id = some p → p.content = none) :
    Load.runOn (Site.loadedPage id) e = (.error (.notInitialized .page), e) := by
  unfold Site.loadedPage
  rw [Load.runOn_get_bind]
  cases hp : e.page? id with
  | none => rfl
  | some p =>
    obtain ⟨id', path, format, content, lastChecked⟩ := p
    obtain rfl : content = none := h _ hp
    rfl

theorem ofLoad_bind {α β : Type} (x : Load α) (f : α → Load β) :
    Emit.ofEval (Eval.ofLoad (x >>= f)) = Emit.ofEval (Eval.ofLoad x) >>= fun a => Emit.ofEval (Eval.ofLoad (f a)) := by
  ext s : 2
  have hx := run_ofLoad x s
  cases hs : x.run.run s.engine with
  | mk r e =>
    rw [hs] at hx
    cases r with
    | error error =>
      have hrun : (x >>= f).run.run s.engine = (.error error, e) := Stable.run_bind_error hs
      rw [run_ofLoad, hrun, Emit.Stable.run_bind_error (congrArg Emission.outcome hx), hx]
      rfl
    | ok a =>
      have hrun : (x >>= f).run.run s.engine = (f a).run.run e := Stable.run_bind_ok hs
      rw [run_ofLoad, hrun, Emit.Stable.run_bind_ok (congrArg Emission.outcome hx), hx, run_ofLoad]
      rfl

/-- A loaded page is looked up in the state of the site. -/
theorem ofLoad_loadedPage_bind {β : Type} (id : PageId) (k : LoadedPage → Emit Session β) :
    (Emit.ofEval (Eval.ofLoad (Site.loadedPage id)) >>= k) = (do
      match (← Emit.ofEval get).engine.page? id with
      | some { content := some content, format, .. } => k { format, content }
      | _ => Emit.fail (.notInitialized .page)) := by
  ext s : 2
  have hload := run_ofLoad (Site.loadedPage id) s
  rw [Emit.Stable.run_bind_ok (x := Emit.ofEval get) (a := s) rfl]
  cases hp : s.engine.page? id with
  | none =>
    rw [← Load.runOn, run_loadedPage_error (by simp [hp])] at hload
    rw [Emit.Stable.run_bind_error (congrArg Emission.outcome hload), hload]
    rfl
  | some p =>
    obtain ⟨id', path, format, content, lastChecked⟩ := p
    cases content with
    | none =>
      rw [← Load.runOn, run_loadedPage_error (by simp [hp])] at hload
      rw [Emit.Stable.run_bind_error (congrArg Emission.outcome hload), hload]
      rfl
    | some c =>
      rw [← Load.runOn, run_loadedPage hp rfl] at hload
      rw [Emit.Stable.run_bind_ok (congrArg Emission.outcome hload), hload]
      rfl

/-- A partial writes what its page holds once it is loaded. -/
theorem writePartial_eq (env : Environment) (write : List Fragment → Emit Session Unit) (name : String) (locals : Table Value) :
    env.writePartial write name locals = (do
      let scope ← Emit.ofEval Eval.scope
      if env.site.settings.maxPartialDepth ≤ scope.depth then
        Emit.fail (.recursivePartial name env.site.settings.maxPartialDepth)
      else
        let page ← Emit.ofEval (Eval.ofLoad (env.partialContent scope.page.path name))
        writeLoaded write scope locals page) := by
  unfold writePartial
  refine bind_congr fun scope => ?_
  by_cases hdepth : env.site.settings.maxPartialDepth ≤ scope.depth
  · simp only [if_pos hdepth]
  · simp only [if_neg hdepth]
    rw [partialContent, ofLoad_bind, bind_assoc]
    exact bind_congr fun id => (ofLoad_loadedPage_bind id (writeLoaded write scope locals)).symm

/-- Writing a partial is stable if finding its page is. -/
theorem stable_writePartial (hpartial : ∀ page name, Stable R (env.partialContent page name))
    {write : List Fragment → Emit Session Unit} (hwrite : ∀ fragments, Emit.Stable (Session.Alike R) (write fragments))
    (name : String) (locals : Table Value) : Emit.Stable (Session.Alike R) (env.writePartial write name locals) := by
  rw [writePartial_eq]
  -- The scope of a partial starts without a layout, whatever is around the page that it is in.
  refine Emit.Stable.scope_bind (fun s t hst => by rw [hst.same]; rfl) fun scope => ?_
  split
  · exact Emit.Stable.fail _
  · refine (Emit.Stable.ofEval (Eval.stable_ofLoad (hpartial scope.page.path name))).bind fun page => ?_
    exact Emit.Stable.withScope _ (hwrite page.content.fragments)

/-- **Writing.** What a site remembers makes no difference to what is written for fragments, if it makes none to partials. -/
theorem stable_writeFragments (h : env.Plain R) (hpartial : ∀ page name, Stable R (env.partialContent page name))
    (fuel : Nat) (fragments : List Fragment) : Emit.Stable (Session.Alike R) (env.writeFragments fuel fragments) := by
  induction fuel generalizing fragments with
  | zero => exact Emit.Stable.throwFault _
  | succ fuel ih =>
    have haccess : (env.access fuel).Stable R := ⟨ih, stable_writePartial hpartial ih⟩
    rw [writeFragments_succ]
    exact Emit.Stable.forM fragments (stable_writeFragment h fuel haccess)

theorem stable_access (h : env.Plain R) (hpartial : ∀ page name, Stable R (env.partialContent page name))
    (fuel : Nat) : (env.access fuel).Stable R :=
  ⟨stable_writeFragments h hpartial fuel, stable_writePartial hpartial (stable_writeFragments h hpartial fuel)⟩

end Environment

end PageTemplates
