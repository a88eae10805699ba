import Mathlib
import PageTemplates.Proofs.Rendering.Termination

/-!
# Inline templates

A template that is no page of the site is evaluated to a text or an error if, and only if, the inline templates in it nest up to
some depth only. Nothing in the rules of `select` gives such a depth: it does not count how deep it is nested, as `partial`
does. Main statements: the condition (`Site.evaluateTemplate_ends_iff`), and a template that is given to itself, which is never
done (`selfApplied_exhausted`).
-/

namespace PageTemplates

open Emit

namespace Site

/-- The render of a template that is no page of the site. -/
def templatePlan (page : PageId) (args : Table Value) : RenderPlan where
  page
  layout := .none
  args

/-- Evaluating a template comes to an expression inside so many inline templates. -/
inductive TemplateNests (site : Site) (e : Engine) (text : String) (args : Table Value) (k : Nat) (w : Variable) (t : Session) :
    Prop
  | intro {page : PageId} {e' : Engine} {v : Variable} {s : Session}
      (hpage : Load.runOn (site.oneTimePage text none) { e with initialized := true } = (.ok page, e'))
      (hcomes : site.ComesTo (templatePlan page args) e' v s)
      (hnests : ((templatePlan page args).environment site).Nests k v s w t)

variable {site : Site} {e : Engine} {text : String} {args : Table Value}

theorem evaluateTemplate_eq (fuel : Nat) :
    site.evaluateTemplate fuel text args = (do
      Emit.ofLoad close
      let page ← Emit.ofLoad (site.oneTimePage text none)
      site.renderText (templatePlan page args) fuel) := rfl

/-- Within a bound, no more inline templates nest in a template than the bound. -/
theorem TemplateNests.exhausted {k : Nat} {w : Variable} {t : Session} (h : site.TemplateNests e text args k w t) {n : Nat}
    (hn : n < k) : ((site.evaluateTemplate n text args).run e).outcome = .error .exhausted := by
  obtain @⟨page, e', v, s, hpage, hcomes, hnests⟩ := h
  have hwrite := hcomes.exhausted (n := n) fun m hm => hnests.exhausted (Nat.lt_of_le_of_lt hm hn)
  have hexposes : Exposes (fun n => site.evaluateTemplate n text args) e (fun n => site.writeTo (templatePlan page args) n) e'
      id := by
    simp only [evaluateTemplate_eq]
    exact Exposes.after_run rfl rfl (Exposes.after_run (run_ofLoad_engine hpage) rfl (Exposes.refl _ _).capture.bind)
  exact hexposes.exhausted n hwrite

/-- Only so many inline templates nest in a template that is evaluated to a text or an error. -/
theorem exists_nesting_bound (h : Ends (fun n => site.evaluateTemplate n text args) e) :
    ∃ k, ∀ j w t, site.TemplateNests e text args j w t → j ≤ k := by
  obtain ⟨r, hr⟩ := h
  obtain ⟨n, hn⟩ := hr.eventually
  refine ⟨n, ?_⟩
  intro j w t hj
  by_contra hlt
  have hexhausted := hj.exhausted (Nat.lt_of_not_le hlt)
  rw [hn n (Nat.le_refl n)] at hexhausted
  exact hr.finished hexhausted

/-- A template in which only so many inline templates nest is evaluated to a text or an error. -/
theorem ends_evaluateTemplate (hsite : site.Standard) (he : e.Truthful) {k : Nat}
    (hk : ∀ j w t, site.TemplateNests e text args j w t → j ≤ k) : Ends (fun n => site.evaluateTemplate n text args) e := by
  have hkept := Engine.Truthful.keptByLoading site.toPageRules
  simp only [evaluateTemplate_eq]
  refine Ends.after_run (r := { output := [], outcome := .ok (), state := { e with initialized := true } }) rfl rfl ?_
  cases hpage : Load.runOn (site.oneTimePage text none) { e with initialized := true } with
  | mk outcome e' =>
    cases outcome with
    | error error => exact Ends.after_error (run_ofLoad_engine hpage) rfl
    | ok page =>
      refine Ends.after_run (run_ofLoad_engine hpage) rfl (ends_renderText ?_)
      have hclosed : Engine.Truthful { e with initialized := true } := he.of_caches rfl rfl
      have he' : e'.Truthful :=
        Load.of_runOn (hkept.oneTimePage (fun _ _ _ _ h => h.of_caches rfl rfl) (fun _ _ h => h.of_caches rfl rfl) text none) hclosed hpage
      have henv : ((templatePlan page args).environment site).Standard := hsite.environment nofun
      have hprepare := Engine.Truthful.keeps_prepare site (templatePlan page args)
      have hnests : ∀ v s j w t, site.ComesTo (templatePlan page args) e' v s →
          ((templatePlan page args).environment site).Nests j v s w t → j ≤ k := by
        intro v s j w t hv hw
        exact hk j w t (.intro hpage hv hw)
      exact ends_writeTo_of_nests henv henv.keeps_truthful hkept hprepare he' hnests

/-- **Inline templates.** A template is evaluated to a text or an error exactly if only so many inline templates nest in it. -/
theorem evaluateTemplate_ends_iff (hsite : site.Standard) (he : e.Truthful) (text : String) (args : Table Value) :
    Ends (fun n => site.evaluateTemplate n text args) e ↔ ∃ k, ∀ j w t, site.TemplateNests e text args j w t → j ≤ k := by
  constructor
  · exact exists_nesting_bound
  · rintro ⟨k, hk⟩
    exact ends_evaluateTemplate hsite he hk

end Site

/-- A site with nothing of its own. -/
def plainSite : Site :=
  Site.build

/-- A site without files. -/
def emptyEngine : Engine :=
  Engine.over (.memory {})

theorem standard_plainSite : plainSite.Standard :=
  Site.standard_build fun _ hd => absurd hd List.not_mem_nil

/-- So it is for a template that upper-cases a text. -/
theorem evaluateTemplate_ends_iff_upper :
    plainSite.Standard ∧ emptyEngine.Truthful ∧
      (Emit.Ends (fun n => plainSite.evaluateTemplate n "\x7b\x7b 'a' | upper \x7d\x7d" []) emptyEngine ↔
        ∃ k, ∀ j w t, plainSite.TemplateNests emptyEngine "\x7b\x7b 'a' | upper \x7d\x7d" [] j w t → j ≤ k) :=
  ⟨standard_plainSite, truthful_over _, Site.evaluateTemplate_ends_iff standard_plainSite (truthful_over _) _ _⟩

/-! ## A template that is given to itself -/

/-- An inline template that writes the template of its argument for its item. -/
def selfText : String :=
  "\x7b it | select(t) \x7d"

/-- The same template of a page. -/
def selfTemplate : String :=
  "\x7b\x7b it | select(t) \x7d\x7d"

/-- The expression of both. -/
def selfVariable : Variable where
  source := selfTemplate
  initial := .binding (.ofName "it")
  binding := some "it"
  stages := [{ name := "select", args := [.binding (.ofName "t")] }]

/-- The arguments that give the template to itself. -/
def selfArgs : Table Value :=
  [("it", .int 1), ("t", .string selfText)]

theorem parseInline_selfText : Blocks.parseInline selfText = [.var selfVariable] := by
  cbv

namespace Environment

variable {env : Environment}

/-- A session in which the template is given to itself. -/
structure SelfApplied (env : Environment) (s : Session) : Prop where
  engine : s.engine.Truthful
  item : env.bound? s.scope "it" = some (.int 1)
  text : env.bound? s.scope "t" = some (.string selfText)

/-- The value of a name that is bound. -/
theorem run_evalExpression_ofName {name : String} {v : Value} {s : Session}
    (hname : splitBinding name.toList = (name.toList, [])) (hbound : env.bound? s.scope name = some v)
    (hv : v.hasExpression = false) (fuel : Nat) :
    (ofEval (env.evalExpression (fuel + 3) (.binding (.ofName name)))).run s =
      { output := [], outcome := .ok (some v), state := s } := by
  have hlookup : (ofEval (env.lookup name)).run s = { output := [], outcome := .ok (some v), state := s } := by
    simp only [lookup, ofEval_bind]
    rw [Emit.Stable.run_bind_ok (x := ofEval Eval.scope) (a := s.scope) rfl, hbound]
    rfl
  have hresolve : env.resolve (fuel + 1) v = pure v := by simp [resolve, hv]
  simp only [evalExpression, BindingPath.ofName, evaluateBinding, hname, String.ofList_toList, ofEval_bind]
  rw [Emit.Stable.run_bind_ok (congrArg Emission.outcome hlookup), hlookup]
  simp only [hresolve, ofEval_pure, pure_bind, List.isEmpty_nil, Bool.true_or, if_true]
  rfl

/-- The value of an argument that is a name. -/
theorem run_evalArgument_ofName {name : String} {v : Value} {s : Session} (hname : splitBinding name.toList = (name.toList, []))
    (hbound : env.bound? s.scope name = some v) (hv : v.hasExpression = false) (fuel : Nat) :
    (ofEval (env.evalArgument (fuel + 4) (.binding (.ofName name)))).run s =
      { output := [], outcome := .ok v, state := s } := by
  have hvalue := run_evalExpression_ofName hname hbound hv fuel
  have hresolve : env.resolve (fuel + 3) v = pure v := by simp [resolve, hv]
  rw [evalArgument, ofEval_bind, Emit.Stable.run_bind_ok (congrArg Emission.outcome hvalue), hvalue]
  simp only [Option.getD_some, hresolve]
  rfl

variable {d : FilterDef} {s : Session}

/-- The expression uses `select` on its item. -/
theorem SelfApplied.calls (henv : env.Monotone) (hd : env.findFilter "select" 2 = some d)
    (hbody : d.body = .block Blocks.select) (h : env.SelfApplied s) :
    env.Calls selfVariable s
      { name := "select", run := Blocks.select, value := .int 1, args := [.string selfText], session := s } := by
  have hitem : Yields (fun n => env.entryValue n (some (.binding (.ofName "it")))
      [Stage.ofCall { name := "select", args := [.binding (.ofName "t")] }]) s
      { output := [], outcome := .ok (some (.int 1)), state := s } := by
    refine Yields.of_growing (fun _ _ hnm => below_entryValue henv hnm _ _) (n := 3) ?_ (by simp)
    have hvalue := run_evalExpression_ofName (v := .int 1) (by decide) h.item rfl 0
    rw [entryValue, baseValue, Emit.Stable.run_bind_ok (congrArg Emission.outcome hvalue), hvalue]
    rfl
  have hargs : Yields (fun n => env.stageArgs n (Stage.ofCall { name := "select", args := [.binding (.ofName "t")] })) s
      { output := [], outcome := .ok [.string selfText], state := s } := by
    refine Yields.of_growing (fun _ _ hnm => below_stageArgs henv hnm _) (n := 4) ?_ (by simp)
    have hvalue := run_evalArgument_ofName (v := .string selfText) (by decide) h.text rfl 0
    simp only [stageArgs, Stage.ofCall, List.mapM_cons, List.mapM_nil, pure_bind, ofEval_bind]
    rw [Emit.Stable.run_bind_ok (congrArg Emission.outcome hvalue), hvalue]
    rfl
  exact .intro rfl hitem rfl (.here hd hbody (.intro hargs rfl))

/-- The locals of an item hide nothing but what has their names. -/
theorem bound?_itemScope_of_ne (item : Value) (i : Nat) (s : Scope) {name : String} (hit : name ≠ "it")
    (hindex : name ≠ "index") : env.bound? (itemScope item i (outsideItems s)) name = env.bound? s name := by
  have hget : Table.get? (itemScope item i (outsideItems s)).locals name = Table.get? s.locals name := by
    simp only [itemScope, outsideItems, Scope.setLocal, Scope.removeLocal, Table.get?_insert, hit, hindex, if_false]
    rw [Table.get?_erase_of_ne _ hindex, Table.get?_erase_of_ne _ hit]
  rw [bound?, hget]
  rfl

/-- The expression starts the inline template, in which the template is given to itself again. -/
theorem SelfApplied.starts (henv : env.Monotone) (hd : env.findFilter "select" 2 = some d)
    (hbody : d.body = .block Blocks.select) (h : env.SelfApplied s) :
    ∃ t, env.StartsTemplate selfVariable s .inline [.var selfVariable] t ∧ env.SelfApplied t := by
  obtain ⟨hbuilt, hengine⟩ := h.engine.getOrBuild .inlineTemplate selfText
  have hparse : CachedText.parse .inlineTemplate selfText = .ok [.var selfVariable] := congrArg Except.ok parseInline_selfText
  rw [hparse] at hbuilt
  have hnothing : Yields (fun n => Blocks.forItems (env.inlineItem [.var selfVariable] n) 0 [])
      (Session.inside
        { s with engine := { s.engine with
            cache := (s.engine.cache.getOrBuild .inlineTemplate selfText (CachedText.parse .inlineTemplate selfText)).2 } }
        outsideItems)
      _ := Yields.of_run rfl (by simp)
  have hparsed := Scoping.run_parsed .inlineTemplate selfText (CachedText.parse .inlineTemplate selfText) s
  have hitems : Blocks.itemsOf (.int 1) = [] ++ .int 1 :: [] := rfl
  refine ⟨_, .intro (h.calls henv hd hbody) (.ofSelect rfl rfl hparsed ?_ hitems hnothing rfl), hengine, ?_, ?_⟩
  · rw [hparse, hbuilt]
    rfl
  · simp [bound?, Session.inside, itemScope, Scope.setLocal, Table.get?_insert]
  · exact (bound?_itemScope_of_ne (.int 1) 0 s.scope (by decide) (by decide)).trans h.text

/-- Any number of inline templates nest in the expression. -/
theorem SelfApplied.nests (henv : env.Monotone) (hd : env.findFilter "select" 2 = some d)
    (hbody : d.body = .block Blocks.select) (h : env.SelfApplied s) (k : Nat) :
    ∃ t, env.Nests k selfVariable s selfVariable t := by
  induction k generalizing s with
  | zero => exact ⟨s, .refl _ _⟩
  | succ k ih =>
    obtain ⟨t, hstarts, ht⟩ := h.starts henv hd hbody
    obtain ⟨u, hnests⟩ := ih ht
    exact ⟨u, .inline hstarts (comesTo_head selfVariable [] t) hnests⟩

end Environment

/-- The page made from the template. -/
def selfPage : PageId where
  kind := .oneTime
  key := "__tmp/0"

/-- The page as it is loaded. -/
def selfLoaded : LoadedPage where
  format := .html
  content := { path := "__tmp/0.html", args := [], fragments := [.var selfVariable], layout := none, stamp := 0 }

/-- The site once the page is made. -/
def selfEngine : Engine where
  initialized := true
  oneTimePages := [(selfPage, { id := selfPage, path := "__tmp/0.html", format := .html, content := some selfLoaded.content })]
  nextTempId := 1

/-- The session in which the page is written. -/
def selfSession : Session where
  engine := selfEngine
  scope := Site.pageScope selfLoaded none

theorem toPageRules_plainSite : plainSite.toPageRules = { settings := {}, formats := [.html, .markdown] } := rfl

theorem runOn_oneTimePage_self :
    Load.runOn (plainSite.oneTimePage selfTemplate none) { emptyEngine with initialized := true } =
      (.ok selfPage, selfEngine) := by
  rw [toPageRules_plainSite]
  cbv

theorem runOn_prepare_self :
    Load.runOn (plainSite.prepare (Site.templatePlan selfPage selfArgs)) selfEngine = (.ok (selfLoaded, none), selfEngine) := by
  rfl

theorem findFilter_select : ((Site.templatePlan selfPage selfArgs).environment plainSite).findFilter "select" 2 =
    some { name := "select", arity := 2, body := .block Blocks.select } := by
  rw [Environment.findFilter_ofList [] _ rfl (Site.filters_build _ _ _ _)]
  rfl

/-- The template that is given to itself nests in itself any number of times, so no bound is enough to evaluate it. -/
theorem selfApplied_exhausted :
    (∀ k, ∃ w t, plainSite.TemplateNests emptyEngine selfTemplate selfArgs k w t) ∧
    ∀ n, ((plainSite.evaluateTemplate n selfTemplate selfArgs).run emptyEngine).outcome = .error .exhausted := by
  have henv : ((Site.templatePlan selfPage selfArgs).environment plainSite).Standard := standard_plainSite.environment nofun
  have hself : ((Site.templatePlan selfPage selfArgs).environment plainSite).SelfApplied selfSession :=
    ⟨⟨nofun, nofun⟩, rfl, rfl⟩
  have hcomes : plainSite.ComesTo (Site.templatePlan selfPage selfArgs) selfEngine selfVariable selfSession :=
    .ofPage (.alone runOn_prepare_self) (Environment.comesTo_head selfVariable [] selfSession)
  have hnests : ∀ k, ∃ w t, plainSite.TemplateNests emptyEngine selfTemplate selfArgs k w t := by
    intro k
    obtain ⟨t, ht⟩ := hself.nests henv.monotone findFilter_select rfl k
    exact ⟨selfVariable, t, .intro runOn_oneTimePage_self hcomes ht⟩
  refine ⟨hnests, fun n => ?_⟩
  obtain ⟨w, t, h⟩ := hnests (n + 1)
  exact h.exhausted (Nat.lt_succ_self n)

end PageTemplates
