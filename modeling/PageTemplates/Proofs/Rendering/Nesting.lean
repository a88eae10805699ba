import PageTemplates.Proofs.Evaluation.Bounds
import PageTemplates.Proofs.Evaluation.Fragments
import PageTemplates.Proofs.Evaluation.Pipelines
import PageTemplates.Proofs.Freshness.Renders

/-!
# Templates inside templates

Evaluating an expression can use block filters, a block filter can write templates, and writing a template evaluates the
expressions in it. The relations of this file say which uses, templates and expressions a computation comes to, whatever the
bound on nesting is. What goes wrong in a part goes wrong in the whole: a template that fails makes the block filter fail that
writes it, and the use of a block filter the expression that it stands in. Main statements: an expression exposes the templates
that it starts (`StartsTemplate.exposes`), and a template its expressions (`ComesTo.exposes`).
-/

namespace PageTemplates

/-! ## Parts that are exposed -/

namespace Emit

variable {σ τ υ α β γ : Type}

/-- A computation fails with an error. -/
def Fails (x : Nat → Emit σ α) (s : σ) (e : TemplateError) : Prop :=
  ∃ r, Yields x s r ∧ r.outcome = .error (.error e)

theorem Fails.succ {x : Nat → Emit σ α} {s : σ} (h0 : ((x 0).run s).outcome = .error .exhausted) {e : TemplateError} :
    Fails (fun n => x (n + 1)) s e ↔ Fails x s e :=
  exists_congr fun _ => and_congr_left fun _ => Yields.succ h0

/-- What goes wrong in one computation goes wrong in another one that it is a part of: running out of a bound, and errors, which
the other one may wrap. -/
structure Exposes (x : Nat → Emit σ α) (s : σ) (y : Nat → Emit τ β) (t : τ) (wrap : TemplateError → TemplateError) : Prop where
  exhausted : ∀ n, ((y n).run t).outcome = .error .exhausted → ((x n).run s).outcome = .error .exhausted
  fails : ∀ e, Fails y t e → Fails x s (wrap e)

namespace Exposes

variable {x : Nat → Emit σ α} {s : σ} {y : Nat → Emit τ β} {t : τ} {wrap : TemplateError → TemplateError}

theorem refl (x : Nat → Emit σ α) (s : σ) : Exposes x s x s id :=
  ⟨fun _ h => h, fun _ h => h⟩

theorem trans {z : Nat → Emit υ γ} {u : υ} {wrap' : TemplateError → TemplateError} (h : Exposes x s y t wrap)
    (h' : Exposes y t z u wrap') : Exposes x s z u fun e => wrap (wrap' e) :=
  ⟨fun n hn => h.exhausted n (h'.exhausted n hn), fun e he => h.fails _ (h'.fails e he)⟩

/-- A whole exposes its first part. -/
theorem bind {f : Nat → α → Emit σ γ} (h : Exposes x s y t wrap) : Exposes (fun n => x n >>= f n) s y t wrap := by
  refine ⟨fun n hn => by rw [Stable.run_bind_error (h.exhausted n hn)], fun e he => ?_⟩
  obtain ⟨r, hr, hout⟩ := h.fails e he
  exact ⟨_, hr.bind_error hout, rfl⟩

/-- A whole exposes what comes after its first part. -/
theorem after {f : Nat → α → Emit σ γ} {r : Emission σ α} {a : α} (hr : Yields x s r) (ha : r.outcome = .ok a)
    (h : Exposes (fun n => f n a) r.state y t wrap) : Exposes (fun n => x n >>= f n) s y t wrap := by
  refine ⟨fun n hn => ?_, fun e he => ?_⟩
  · rcases hr.same n with hx | hx
    · rw [Stable.run_bind_error hx]
    · rw [Stable.run_bind_ok (hx ▸ ha), hx]
      exact h.exhausted n hn
  · obtain ⟨r', hr', hout⟩ := h.fails e he
    exact ⟨_, hr.bind ha hr', hout⟩

/-- A whole that does something first, whatever the bound is, exposes what comes after it. -/
theorem after_run {x : Emit σ α} {f : Nat → α → Emit σ γ} {r : Emission σ α} {a : α} (hr : x.run s = r)
    (ha : r.outcome = .ok a) (h : Exposes (fun n => f n a) r.state y t wrap) : Exposes (fun n => x >>= f n) s y t wrap :=
  after (Yields.of_run hr (by simp [ha])) ha h

theorem capture (h : Exposes x s y t wrap) : Exposes (fun n => Emit.capture (x n)) s y t wrap := by
  refine ⟨fun n hn => ?_, fun e he => ?_⟩
  · simp only [Emit.capture, h.exhausted n hn, Except.map]
  · obtain ⟨r, hr, hout⟩ := h.fails e he
    exact ⟨_, hr.capture, by simp only [hout, Except.map]⟩

theorem inFilter (name : String) (h : Exposes x s y t wrap) :
    Exposes (fun n => Emit.inFilter name (x n)) s y t fun e => .filter name (wrap e) := by
  refine ⟨fun n hn => ?_, fun e he => ?_⟩
  · exact congrArg (Except.mapError (Fault.inFilter name)) (h.exhausted n hn)
  · obtain ⟨r, hr, hout⟩ := h.fails e he
    exact ⟨_, hr.inFilter name, congrArg (Except.mapError (Fault.inFilter name)) hout⟩

/-- Catching what goes wrong exposes it if it is passed on in the end. -/
theorem attempt_bind {f : Except Fault α → Emit σ γ} (h : Exposes x s y t wrap)
    (hf : ∀ fault s, ((f (.error fault)).run s).outcome = .error fault) :
    Exposes (fun n => attempt (x n) >>= f) s y t wrap := by
  refine ⟨fun n hn => ?_, fun e he => ?_⟩
  · rw [Stable.run_bind_ok (x := attempt (x n)) rfl, h.exhausted n hn]
    exact hf _ _
  · obtain ⟨r, hr, hout⟩ := h.fails e he
    have hafter := hf (.error (wrap e)) r.state
    have hrest : Yields (fun _ => f r.outcome) r.state ((f r.outcome).run r.state) := by
      refine Yields.of_run rfl ?_
      rw [hout, hafter]
      simp
    refine ⟨_, hr.attempt_bind (f := fun _ => f) hrest fun _ => hf _, ?_⟩
    simp only [hout, hafter]

theorem withScope {x : Nat → Emit Session α} {s : Session} {scope : Scope} (h : Exposes x { s with scope } y t wrap) :
    Exposes (fun n => Emit.withScope scope (x n)) s y t wrap := by
  refine ⟨fun n hn => h.exhausted n hn, fun e he => ?_⟩
  obtain ⟨r, hr, hout⟩ := h.fails e he
  exact ⟨_, hr.withScope, hout⟩

theorem inScope {x : Nat → Emit Session α} {engine : Engine} {scope : Scope} (h : Exposes x { engine, scope } y t wrap) :
    Exposes (fun n => Emit.inScope scope (x n)) engine y t wrap := by
  refine ⟨fun n hn => h.exhausted n hn, fun e he => ?_⟩
  obtain ⟨r, hr, hout⟩ := h.fails e he
  exact ⟨_, hr.inScope, hout⟩

end Exposes

end Emit

open Emit

/-! ## Uses of block filters -/

/-- A use of a block filter: its name and what it does, its value and arguments, and the session in which it begins. -/
structure BlockCall where
  name : String
  run : BlockAccess → Value → List Value → Emit Session Unit
  value : Value
  args : List Value
  session : Session

namespace Environment

variable (env : Environment)

/-- What a use of a block filter writes. -/
def writeCall (c : BlockCall) (fuel : Nat) : Emit Session Unit :=
  inFilter c.name (c.run (env.access fuel) c.value c.args)

/-- A stage with a block filter is used on a value. -/
inductive StageCall (run : BlockAccess → Value → List Value → Emit Session Unit) (stage : Stage) (v : Value) (s : Session) :
    BlockCall → Prop
  | intro {r : Emission Session (List Value)} {args : List Value} (hr : Yields (fun n => env.stageArgs n stage) s r)
      (hargs : r.outcome = .ok args) : StageCall run stage v s { name := stage.name, run, value := v, args, session := r.state }

/-- Passing the output of a block filter through stages comes to the use of a block filter. -/
inductive ChainCalls : Bytes → List Stage → Session → BlockCall → Prop
  /-- The first stage is a block filter. -/
  | here {buffer : Bytes} {stage : Stage} {stages : List Stage} {s : Session} {c : BlockCall}
      {run : BlockAccess → Value → List Value → Emit Session Unit} {text : String} (hrun : env.blockFilter? stage = some run)
      (htext : Utf8.decode buffer = .ok text) (hc : env.StageCall run stage (.string text) s c) :
      ChainCalls buffer (stage :: stages) s c
  /-- The first stage is a block filter, and its output comes to the use. -/
  | afterFilter {buffer : Bytes} {stage : Stage} {stages : List Stage} {s : Session} {first c : BlockCall}
      {run : BlockAccess → Value → List Value → Emit Session Unit} {text : String} {r : Emission Session Unit}
      (hrun : env.blockFilter? stage = some run) (htext : Utf8.decode buffer = .ok text)
      (hfirst : env.StageCall run stage (.string text) s first) (hr : Yields (env.writeCall first) first.session r)
      (hok : r.outcome = .ok ()) (hne : stages ≠ []) (hnext : ChainCalls r.output stages r.state c) :
      ChainCalls buffer (stage :: stages) s c
  /-- The first stage is a transformer, and its output comes to the use. -/
  | afterTransformer {buffer next : Bytes} {stage : Stage} {stages : List Stage} {s : Session} {c : BlockCall}
      {transform : Transformer} (hnone : env.blockFilter? stage = none)
      (htransform : env.transformer? stage.name = some transform) (hok : transform buffer = .ok next)
      (hnext : ChainCalls next stages s c) : ChainCalls buffer (stage :: stages) s c

/-- Running stages on a value comes to the use of a block filter. -/
inductive StagesCall : Nat → List Stage → Value → Session → BlockCall → Prop
  /-- The first stage is a block filter. -/
  | here {position : Nat} {stage : Stage} {stages : List Stage} {v : Value} {s : Session} {c : BlockCall} {d : FilterDef}
      {run : BlockAccess → Value → List Value → Emit Session Unit} (hd : env.findFilter stage.name stage.arity = some d)
      (hrun : d.body = .block run) (hc : env.StageCall run stage v s c) : StagesCall position (stage :: stages) v s c
  /-- The first stage is a block filter, and its output comes to the use. -/
  | afterBlock {position : Nat} {stage : Stage} {stages : List Stage} {v : Value} {s : Session} {first c : BlockCall}
      {d : FilterDef} {run : BlockAccess → Value → List Value → Emit Session Unit} {r : Emission Session Unit}
      (hd : env.findFilter stage.name stage.arity = some d) (hrun : d.body = .block run)
      (hfirst : env.StageCall run stage v s first) (hr : Yields (env.writeCall first) first.session r)
      (hok : r.outcome = .ok ()) (hne : stages ≠ []) (hnext : env.ChainCalls r.output stages r.state c) :
      StagesCall position (stage :: stages) v s c
  /-- The first stage hands on a value, which comes to the use. -/
  | afterValue {position : Nat} {stage : Stage} {stages : List Stage} {v next : Value} {s : Session} {c : BlockCall}
      {r : Emission Session Outcome} (hnot : ¬ env.IsBlock stage)
      (hr : Yields (fun n => env.runStages n (env.access n) position [stage] v) s r) (hok : r.outcome = .ok (.value next))
      (hnext : StagesCall (position + 1) stages next r.state c) : StagesCall position (stage :: stages) v s c

/-- Evaluating an expression comes to the use of a block filter. -/
inductive Calls (v : Variable) (s : Session) (c : BlockCall) : Prop
  | intro {first : Option Expression} {stages : List Stage} {r : Emission Session (Option Value)} {value : Value}
      (hstart : env.start? v.initial v.stages = some (first, stages))
      (hr : Yields (fun n => env.entryValue n first stages) s r) (hvalue : r.outcome = .ok (some value))
      (hcall : env.StagesCall 0 stages value r.state c)

/-- What comes of an expression. -/
def evaluate (v : Variable) (fuel : Nat) : Emit Session Outcome :=
  env.evaluatePipeline fuel (env.access fuel) v.initial v.stages

variable {env} {τ β : Type} {y : Nat → Emit τ β} {t : τ} {wrap : TemplateError → TemplateError}

/-- What writes is exposed whatever stages come after it. -/
theorem exposes_passOn (writing : Nat → Emit Session Unit) (stages : List Stage) (s : Session) :
    Exposes (fun n => env.passOn n (env.access n) (writing n) stages) s writing s id := by
  unfold passOn
  split
  · exact Exposes.refl _ _
  · exact (Exposes.refl _ _).capture.bind

/-- What is written is passed to the stages after it, which are exposed. -/
theorem exposes_passOn_after {writing : Nat → Emit Session Unit} {stages : List Stage} {s : Session}
    {r : Emission Session Unit} (hr : Yields writing s r) (hok : r.outcome = .ok ()) (hne : stages ≠ [])
    (h : Exposes (fun n => env.writeChain n (env.access n) r.output stages) r.state y t wrap) :
    Exposes (fun n => env.passOn n (env.access n) (writing n) stages) s y t wrap := by
  have hnonempty : ¬ stages.isEmpty = true := by simpa using hne
  simp only [passOn, if_neg hnonempty]
  refine Exposes.after (a := ((), r.output)) hr.capture ?_ h
  simp only [hok, Except.map]

theorem ChainCalls.exposes {buffer : Bytes} {stages : List Stage} {s : Session} {c : BlockCall}
    (h : env.ChainCalls buffer stages s c) :
    Exposes (fun n => env.writeChain n (env.access n) buffer stages) s (env.writeCall c) c.session id := by
  induction h with
  | here hrun htext hc =>
    obtain ⟨hargs, hok⟩ := hc
    simp only [writeChain_block _ _ _ hrun, htext]
    exact Exposes.after_run rfl rfl (Exposes.after hargs hok (exposes_passOn _ _ _))
  | afterFilter hrun htext hfirst hr hok hne _ ih =>
    obtain ⟨hargs, hargsOk⟩ := hfirst
    simp only [writeChain_block _ _ _ hrun, htext]
    exact Exposes.after_run rfl rfl (Exposes.after hargs hargsOk (exposes_passOn_after hr hok hne ih))
  | afterTransformer hnone htransform hok _ ih =>
    simp only [writeChain_transformer _ _ _ hnone, htransform, hok]
    exact Exposes.after_run rfl rfl ih

theorem StagesCall.exposes {position : Nat} {stages : List Stage} {v : Value} {s : Session} {c : BlockCall}
    (h : env.StagesCall position stages v s c) :
    Exposes (fun n => env.runStages n (env.access n) position stages v) s (env.writeCall c) c.session id := by
  induction h with
  | here hd hrun hc =>
    obtain ⟨hargs, hok⟩ := hc
    simp only [runStages_block _ _ _ hd hrun]
    exact Exposes.after hargs hok (exposes_passOn _ _ _).bind
  | afterBlock hd hrun hfirst hr hok hne hnext =>
    obtain ⟨hargs, hargsOk⟩ := hfirst
    simp only [runStages_block _ _ _ hd hrun]
    exact Exposes.after hargs hargsOk (exposes_passOn_after hr hok hne hnext.exposes).bind
  | afterValue hnot hr hok _ ih =>
    rw [funext fun n => runStages_cons env n (env.access n) hnot _ _ _]
    exact Exposes.after hr hok ih

/-- An expression exposes the uses of block filters that it comes to. -/
theorem Calls.exposes {v : Variable} {s : Session} {c : BlockCall} (h : env.Calls v s c) :
    Exposes (env.evaluate v) s (env.writeCall c) c.session id := by
  obtain ⟨hstart, hr, hvalue, hcall⟩ := h
  unfold evaluate
  simp only [evaluatePipeline_eq, hstart]
  exact Exposes.after hr hvalue hcall.exposes

/-! ## Templates -/

end Environment

/-- The ways in which a template comes to be written inside another one. -/
inductive TemplateKind where
  /-- As a page that `partial` or `selectPartial` names. -/
  | page
  /-- As the text that `select` is given. -/
  | inline

/-- The session in a scope made from its own. -/
def Session.inside (s : Session) (f : Scope → Scope) : Session :=
  { s with scope := f s.scope }

namespace Environment

variable {env : Environment} {τ β : Type} {y : Nat → Emit τ β} {t : τ} {wrap : TemplateError → TemplateError}

/-- A partial begins to write a page: it is not nested too deep, and the page is found and loaded. The page gets a child of the
scope around it. -/
structure Includes (env : Environment) (name : String) (locals : Table Value) (s : Session) (page : LoadedPage) (t : Session) :
    Prop where
  depth : s.scope.depth < env.site.settings.maxPartialDepth
  found : Load.runOn (env.partialContent s.scope.page.path name) s.engine = (.ok page, t.engine)
  scope : t.scope = { s.scope.child page.content page.format with locals := Table.insertAll s.scope.locals locals }

theorem Includes.exposes {name : String} {locals : Table Value} {s : Session} {page : LoadedPage} {t : Session}
    (h : env.Includes name locals s page t) :
    Exposes (fun n => env.writePartial (env.writeFragments n) name locals) s
      (fun n => env.writeFragments n page.content.fragments) t id := by
  obtain ⟨engine, scope⟩ := t
  obtain ⟨hdepth, hfound, rfl⟩ := h
  have hrun := run_ofLoad (env.partialContent s.scope.page.path name) s
  have hrunOn : (env.partialContent s.scope.page.path name).run.run s.engine = (.ok page, engine) := hfound
  rw [hrunOn] at hrun
  simp only [writePartial_eq]
  refine Exposes.after_run (a := s.scope) rfl rfl ?_
  simp only [if_neg (Nat.not_le.2 hdepth)]
  exact Exposes.after_run hrun rfl (Exposes.refl _ _).withScope

theorem forItems_append (f : Value → Nat → Emit Session Unit) (i : Nat) (items others : List Value) :
    Blocks.forItems f i (items ++ others) =
      Blocks.forItems f i items >>= fun _ => Blocks.forItems f (i + items.length) others := by
  induction items generalizing i with
  | nil => rfl
  | cons item items ih =>
    simp only [List.cons_append, Blocks.forItems, ih, bind_assoc, List.length_cons]
    refine bind_congr fun _ => bind_congr fun _ => ?_
    rw [Nat.add_right_comm, Nat.add_assoc]

/-- Going through items exposes what is done for one of them, once the items before it are done. -/
theorem exposes_forItems {f : Nat → Value → Nat → Emit Session Unit} {before after : List Value} {item : Value} {s : Session}
    {r : Emission Session Unit} (hr : Yields (fun n => Blocks.forItems (f n) 0 before) s r) (hok : r.outcome = .ok ())
    (h : Exposes (fun n => f n item before.length) r.state y t wrap) :
    Exposes (fun n => Blocks.forItems (f n) 0 (before ++ item :: after)) s y t wrap := by
  simp only [forItems_append, Nat.zero_add]
  exact Exposes.after hr hok h.bind

/-- The page that `selectPartial` writes for an item. -/
def partialItem (env : Environment) (name : String) (fuel : Nat) (item : Value) (i : Nat) : Emit Session Unit :=
  (env.access fuel).writePartial name [("it", item), ("index", Blocks.placeValue i)]

/-- The scope of the inline template for an item. -/
def itemScope (item : Value) (i : Nat) (s : Scope) : Scope :=
  (s.setLocal "it" item).setLocal "index" (Blocks.placeValue i)

/-- The inline template that `select` writes for an item. -/
def inlineItem (env : Environment) (fragments : List Fragment) (fuel : Nat) (item : Value) (i : Nat) : Emit Session Unit := do
  Emit.ofEval (Eval.modifyScope (itemScope item i))
  (env.access fuel).writeFragments fragments

/-- The scope without the locals of an item. -/
def outsideItems (s : Scope) : Scope :=
  (s.removeLocal "it").removeLocal "index"

/-- A use of a block filter starts a template: the page of a partial, or an inline text for an item, once the items before it
are done. -/
inductive CallStarts (env : Environment) (c : BlockCall) : TemplateKind → List Fragment → Session → Prop
  | ofPartial {name : String} {locals : Table Value} {page : LoadedPage} {t : Session} (hrun : c.run = Blocks.writePage)
      (hname : c.value.text? = some name) (hlocals : Blocks.partialLocals c.args = .ok locals)
      (hpage : env.Includes name locals c.session page t) : CallStarts env c .page page.content.fragments t
  | ofSelectPartial {name : String} {before after : List Value} {item : Value} {r : Emission Session Unit} {page : LoadedPage}
      {t : Session} (hrun : c.run = Blocks.selectPartial) (hname : Argument.text "selectPartial" c.args 0 = .ok name)
      (hitems : Blocks.itemsOf c.value = before ++ item :: after)
      (hr : Yields (fun n => Blocks.forItems (env.partialItem name n) 0 before) c.session r) (hok : r.outcome = .ok ())
      (hpage : env.Includes name [("it", item), ("index", Blocks.placeValue before.length)] r.state page t) :
      CallStarts env c .page page.content.fragments t
  | ofSelect {text : String} {fragments : List Fragment} {before after : List Value} {item : Value}
      {parsed : Emission Session (List Fragment)} {r : Emission Session Unit} (hrun : c.run = Blocks.select)
      (htext : Argument.text "select" c.args 0 = .ok text)
      (hparsed : (ofEval (Scoping.parsed .inlineTemplate text (.ok (Blocks.parseInline text)))).run c.session = parsed)
      (hfragments : parsed.outcome = .ok fragments) (hitems : Blocks.itemsOf c.value = before ++ item :: after)
      (hr : Yields (fun n => Blocks.forItems (env.inlineItem fragments n) 0 before) (parsed.state.inside outsideItems) r)
      (hok : r.outcome = .ok ()) :
      CallStarts env c .inline fragments (r.state.inside (itemScope item before.length))

/-- A use of a block filter exposes the templates that it starts, with the name of the filter. -/
theorem CallStarts.exposes {c : BlockCall} {kind : TemplateKind} {fragments : List Fragment} {t : Session}
    (h : env.CallStarts c kind fragments t) :
    Exposes (env.writeCall c) c.session (fun n => env.writeFragments n fragments) t (.filter c.name) := by
  suffices hrun : Exposes (fun n => c.run (env.access n) c.value c.args) c.session
      (fun n => env.writeFragments n fragments) t id from hrun.inFilter c.name
  cases h with
  | ofPartial hrun hname hlocals hpage =>
    simp only [hrun, Blocks.writePage, hname, hlocals]
    exact Exposes.after_run rfl rfl hpage.exposes
  | ofSelectPartial hrun hname hitems hr hok hpage =>
    simp only [hrun, Blocks.selectPartial, hname, hitems]
    exact Exposes.after_run rfl rfl (exposes_forItems hr hok hpage.exposes)
  | ofSelect hrun htext hparsed hfragments hitems hr hok =>
    simp only [hrun, Blocks.select, htext, hitems]
    refine Exposes.after_run rfl rfl (Exposes.after_run hparsed hfragments ?_)
    refine Exposes.after_run rfl rfl (Exposes.after_run rfl rfl ?_)
    refine Exposes.attempt_bind (exposes_forItems hr hok ?_) fun fault s => rfl
    exact Exposes.after_run rfl rfl (Exposes.refl _ _)

/-- Evaluating an expression starts a template: it comes to a use of a block filter that does. -/
inductive StartsTemplate (env : Environment) (v : Variable) (s : Session) (kind : TemplateKind) (fragments : List Fragment)
    (t : Session) : Prop
  | intro {c : BlockCall} (hcall : env.Calls v s c) (hstart : env.CallStarts c kind fragments t)

/-- Writing a template comes to an expression in it, once what stands before it is written. -/
inductive ComesTo (env : Environment) (fragments : List Fragment) (s : Session) (v : Variable) (t : Session) : Prop
  | intro {before after : List Fragment} {r : Emission Session Unit} (hfragments : fragments = before ++ .var v :: after)
      (hr : Yields (fun n => env.writeFragments n before) s r) (hok : r.outcome = .ok ()) (hstate : r.state = t)

/-- Writing a template comes to an expression that it begins with. -/
theorem comesTo_head (v : Variable) (after : List Fragment) (s : Session) : env.ComesTo (.var v :: after) s v s := by
  have hnothing : Yields (fun n => env.writeFragments (n + 1) []) s { output := [], outcome := .ok (), state := s } :=
    Yields.of_run rfl (by simp)
  have hfragments : .var v :: after = [] ++ .var v :: after := rfl
  exact .intro hfragments ((Yields.succ rfl).1 hnothing) rfl rfl

/-- Writing a template exposes the writing of an expression that it comes to. -/
theorem ComesTo.exposes {fragments : List Fragment} {s : Session} {v : Variable} {t : Session}
    (h : env.ComesTo fragments s v t) :
    Exposes (fun n => env.writeFragments (n + 1) fragments) s (fun n => env.writeVariable n (env.access n) v) t id := by
  obtain ⟨rfl, hr, hok, rfl⟩ := h
  have hbefore := (Yields.succ rfl).2 hr
  simp only [writeFragments_succ, List.forM_eq_forM, List.forM_append] at hbefore ⊢
  exact Exposes.after hbefore hok (Exposes.refl _ _).bind

/-- What stands before an expression is written within a bound if the expression is. Whatever the format offers, running out of
the bound is passed on. -/
theorem exhausted_writeVariable {v : Variable} {s : Session} {n : Nat}
    (h : ((env.evaluate v n).run s).outcome = .error .exhausted) :
    ((env.writeVariable n (env.access n) v).run s).outcome = .error .exhausted := by
  unfold writeVariable
  rw [Emit.Stable.run_bind_ok (x := attempt (env.evaluatePipeline n (env.access n) v.initial v.stages)) (congrArg Except.ok h)]
  rfl

/-- Evaluating an expression comes to evaluating another one, through templates inside one another. The number counts the inline
templates among these. -/
inductive Nests (env : Environment) : Nat → Variable → Session → Variable → Session → Prop
  | refl (v : Variable) (s : Session) : Nests env 0 v s v s
  | page {k : Nat} {v w u : Variable} {s s' t t' : Session} {fragments : List Fragment}
      (hstart : env.StartsTemplate v s .page fragments s') (hcomes : env.ComesTo fragments s' w t)
      (hnests : Nests env k w t u t') : Nests env k v s u t'
  | inline {k : Nat} {v w u : Variable} {s s' t t' : Session} {fragments : List Fragment}
      (hstart : env.StartsTemplate v s .inline fragments s') (hcomes : env.ComesTo fragments s' w t)
      (hnests : Nests env k w t u t') : Nests env (k + 1) v s u t'

end Environment

/-! ## Renders -/

namespace Site

variable {site : Site} {plan : RenderPlan} {e e' : Engine} {page layout : LoadedPage}

/-- The scope of a page in its place in the layout. -/
def holeScope (page : LoadedPage) (s : Scope) : Scope :=
  { s with page := page.content, format := page.format, inLayout := false }

/-- A render writes a layout up to one of its expressions. -/
inductive LayoutComesTo (site : Site) (plan : RenderPlan) (e : Engine) (page : LoadedPage) (v : Variable) (t : Session) : Prop
  | intro {layout : LoadedPage} {e' : Engine} {before after : List Fragment} {r : Emission Session Unit}
      (hprepare : Load.runOn (site.prepare plan) e = (.ok (page, some layout), e'))
      (hfragments : layout.content.fragments = before ++ .var v :: after)
      (hr : Yields (fun n => before.forM (writeLayoutFragment (plan.environment site) plan n page layout))
        { engine := e', scope := layoutScope page layout } r)
      (hok : r.outcome = .ok ()) (hstate : r.state = t)

/-- A render begins to write its page, by itself or in its place in a layout. -/
inductive BeginsPage (site : Site) (plan : RenderPlan) (e : Engine) (page : LoadedPage) : Session → Prop
  | alone {e' : Engine} (hprepare : Load.runOn (site.prepare plan) e = (.ok (page, none), e')) :
      BeginsPage site plan e page { engine := e', scope := pageScope page none }
  | inLayout {v : Variable} {t : Session} (hlayout : site.LayoutComesTo plan e page v t) (hhole : v.isPageHole = true) :
      BeginsPage site plan e page (t.inside (holeScope page))

/-- A render comes to an expression of its page or of its layout. -/
inductive ComesTo (site : Site) (plan : RenderPlan) (e : Engine) (v : Variable) (t : Session) : Prop
  | ofPage {page : LoadedPage} {s : Session} (hbegins : site.BeginsPage plan e page s)
      (hcomes : (plan.environment site).ComesTo page.content.fragments s v t)
  | ofLayout {page : LoadedPage} (hlayout : site.LayoutComesTo plan e page v t) (hhole : v.isPageHole = false)

theorem exposes_writeTo {layout : Option LoadedPage} (h : Load.runOn (site.prepare plan) e = (.ok (page, layout), e')) :
    Exposes (fun n => site.writeTo plan n) e (fun n => site.writeBody plan n page layout) e' id := by
  refine Exposes.after_run (run_ofLoad_engine h) rfl ?_
  simp only [Bool.false_eq_true, if_false]
  split
  · exact Exposes.refl _ _
  · exact (Exposes.refl _ _).capture.bind

theorem exposes_writePage (s : Session) :
    Exposes (fun n => writePage (plan.environment site) plan n page.content) s
      (fun n => (plan.environment site).writeFragments n page.content.fragments) s id := by
  unfold writePage
  split
  · exact Exposes.refl _ _
  · exact (Exposes.refl _ _).capture.bind

/-- A render exposes the fragments of its layout. -/
theorem LayoutComesTo.exposes {v : Variable} {t : Session} (h : site.LayoutComesTo plan e page v t) :
    ∃ layout, Exposes (fun n => site.writeTo plan n) e
      (fun n => writeLayoutFragment (plan.environment site) plan n page layout (.var v)) t id := by
  obtain @⟨layout, e', before, after, r, hprepare, hfragments, hr, hok, rfl⟩ := h
  refine ⟨layout, (exposes_writeTo hprepare).trans ?_⟩
  unfold writeBody
  simp only [hfragments, List.forM_eq_forM, List.forM_append] at hr ⊢
  exact (Exposes.after hr hok (Exposes.refl _ _).bind).inScope

/-- A render exposes its page. -/
theorem BeginsPage.exposes {s : Session} (h : site.BeginsPage plan e page s) :
    Exposes (fun n => site.writeTo plan n) e (fun n => (plan.environment site).writeFragments n page.content.fragments) s
      id := by
  cases h with
  | alone hprepare =>
    refine (exposes_writeTo hprepare).trans ?_
    exact (exposes_writePage _).inScope
  | inLayout hlayout hhole =>
    obtain ⟨layout, h⟩ := hlayout.exposes
    refine h.trans ?_
    simp only [writeLayoutFragment, hhole, if_true]
    exact Exposes.after_run rfl rfl (Exposes.attempt_bind (exposes_writePage _) fun fault s => rfl)

/-- A render fails with the error of an expression of its page or of its layout. -/
theorem ComesTo.fails {v : Variable} {t : Session} (h : site.ComesTo plan e v t) {error : TemplateError}
    (he : Fails (fun n => (plan.environment site).writeVariable n ((plan.environment site).access n) v) t error) :
    Fails (fun n => site.writeTo plan n) e error := by
  cases h with
  | ofPage hbegins hcomes => exact hbegins.exposes.fails _ ((Fails.succ rfl).1 (hcomes.exposes.fails _ he))
  | ofLayout hlayout hhole =>
    obtain ⟨layout, h⟩ := hlayout.exposes
    simp only [writeLayoutFragment, hhole] at h
    exact h.fails _ he

end Site

end PageTemplates
