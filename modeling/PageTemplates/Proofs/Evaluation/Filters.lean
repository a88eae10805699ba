import PageTemplates.Evaluation.Environment
import PageTemplates.Proofs.Evaluation.Stable

/-!
# Filters and the state of the site

The built-in filters touch the state of the site only through the cache of parsed texts. So they are stable for all states whose
caches answer the same. Main statements: an environment finds the first filter that answers in the lists its filters were
registered from (`Environment.findFilter_ofList`), and every built-in filter is stable if what it asks of the evaluation is
(`BuiltIn.stable_body`).
-/

namespace PageTemplates

/-- What a cached text parses to. -/
def CachedText.parse : (kind : CachedText) → String → Except TemplateError kind.Parsed
  | .assignTarget, text => AssignTarget.parse text
  | .inlineTemplate, text => .ok (Blocks.parseInline text)

/-- In states with a property the caches answer what compiling and parsing answer, and what they learn keeps the property. -/
structure Caching (compiler : BindingCompiler) (I : Engine → Prop) : Prop where
  binder : ∀ e kind expression rest, I e →
    (e.binders.getOrCompile compiler kind expression rest).1 = compiler kind expression rest ∧
      I { e with binders := (e.binders.getOrCompile compiler kind expression rest).2 }
  text : ∀ e kind text, I e →
    (e.cache.getOrBuild kind text (kind.parse text)).1 = kind.parse text ∧
      I { e with cache := (e.cache.getOrBuild kind text (kind.parse text)).2 }

/-- The caches of related states answer the same, and the states stay related when the caches learn. -/
structure CachesAlike (compiler : BindingCompiler) (R : Engine → Engine → Prop) : Prop where
  binder : ∀ e e' kind expression rest, R e e' →
    (e.binders.getOrCompile compiler kind expression rest).1 = (e'.binders.getOrCompile compiler kind expression rest).1 ∧
      R { e with binders := (e.binders.getOrCompile compiler kind expression rest).2 }
        { e' with binders := (e'.binders.getOrCompile compiler kind expression rest).2 }
  text : ∀ e e' kind text, R e e' →
    (e.cache.getOrBuild kind text (kind.parse text)).1 = (e'.cache.getOrBuild kind text (kind.parse text)).1 ∧
      R { e with cache := (e.cache.getOrBuild kind text (kind.parse text)).2 }
        { e' with cache := (e'.cache.getOrBuild kind text (kind.parse text)).2 }

/-- Caches that answer what compiling and parsing answer are alike. -/
theorem Caching.both {compiler : BindingCompiler} {I : Engine → Prop} (h : Caching compiler I) :
    CachesAlike compiler (Engine.Both I) where
  binder e e' kind expression rest hboth := by
    obtain ⟨hs, hs'⟩ := h.binder e kind expression rest hboth.1
    obtain ⟨ht, ht'⟩ := h.binder e' kind expression rest hboth.2
    exact ⟨hs.trans ht.symm, hs', ht'⟩
  text e e' kind text hboth := by
    obtain ⟨hs, hs'⟩ := h.text e kind text hboth.1
    obtain ⟨ht, ht'⟩ := h.text e' kind text hboth.2
    exact ⟨hs.trans ht.symm, hs', ht'⟩

/-- What a context filter can ask is stable. -/
structure ScopeAccess.Stable (R : Engine → Engine → Prop) (access : ScopeAccess) : Prop where
  lookup : ∀ name, PageTemplates.Stable (Session.Alike R) (access.lookup name)
  evaluateBinding : ∀ path, PageTemplates.Stable (Session.Alike R) (access.evaluateBinding path)

/-- What a block filter can ask is stable. -/
structure BlockAccess.Stable (R : Engine → Engine → Prop) (access : BlockAccess) : Prop where
  writeFragments : ∀ fragments, Emit.Stable (Session.Alike R) (access.writeFragments fragments)
  writePartial : ∀ name locals, Emit.Stable (Session.Alike R) (access.writePartial name locals)

/-- A filter is stable if what it asks is. One with a memory also asks what it remembers. -/
def FilterBody.Stable (R : Engine → Engine → Prop) : FilterBody → Prop
  | .value _ => True
  | .remembering memory run => ∀ v args, PageTemplates.Stable (Session.Alike R) (Environment.callRemembering memory run v args)
  | .context run => ∀ access : ScopeAccess, access.Stable R → ∀ v args,
      PageTemplates.Stable (Session.Alike R) (run access v args)
  | .block run => ∀ access : BlockAccess, access.Stable R → ∀ v args, Emit.Stable (Session.Alike R) (run access v args)

section

variable {R : Engine → Engine → Prop} {compiler : BindingCompiler}

/-! ## Context filters -/

namespace Scoping

/-- A parsed text is the same whether it was in the cache or not. -/
theorem stable_parsed (h : CachesAlike compiler R) (kind : CachedText) (text : String) :
    Stable (Session.Alike R) (parsed kind text (kind.parse text)) := by
  intro s t hst
  obtain ⟨hanswer, hlearned⟩ := h.text s.engine t.engine kind text hst.engine
  have hrun : ∀ s : Session, (parsed kind text (kind.parse text)).run.run s =
      (Eval.ofExcept (s.engine.cache.getOrBuild kind text (kind.parse text)).1).run.run
        { s with engine := { s.engine with cache := (s.engine.cache.getOrBuild kind text (kind.parse text)).2 } } :=
    fun _ => rfl
  rw [hrun, hrun, hanswer]
  exact Eval.stable_ofExcept _ _ _ ⟨hst.scope, hlearned⟩

theorem stable_takeRoot {access : ScopeAccess} (ha : access.Stable R) (head : String) :
    Stable (Session.Alike R) (takeRoot access head) := by
  refine Eval.stable_scope_bind (fun s t hst => by rw [hst.same]; rfl) fun scope => ?_
  cases Table.get? scope.locals head with
  | some root => exact (Eval.stable_modifyScope fun _ _ => rfl).bind fun _ => Stable.pure root
  | none => exact Stable.map _ (ha.lookup head)

theorem stable_assign {access : ScopeAccess} (ha : access.Stable R) (target : AssignTarget) (v : Value) :
    Stable (Session.Alike R) (assign access target v) := by
  unfold assign
  split
  · exact (Eval.stable_modifyScope fun _ _ => rfl).bind fun _ => Stable.pure _
  · refine (stable_takeRoot ha target.head).bind fun root => ?_
    refine (Eval.stable_ofExcept _).bind fun root => ?_
    exact (Eval.stable_modifyScope fun _ _ => rfl).bind fun _ => Stable.pure _

theorem stable_assignTo (h : CachesAlike compiler R) {access : ScopeAccess} (ha : access.Stable R) (v : Value) (args : List Value) :
    Stable (Session.Alike R) (assignTo access v args) := by
  unfold assignTo
  split
  · exact Eval.stable_fail _
  · rename_i text _
    exact (stable_parsed h .assignTarget text).bind fun target => stable_assign ha target v

/-- The context filters are stable. -/
theorem stable_filters (h : CachesAlike compiler R) : ∀ d ∈ filters, d.body.Stable R := by
  intro d hd
  rcases List.mem_cons.1 hd with rfl | hd
  · exact fun access ha v args => stable_assignTo h ha v args
  · obtain rfl := List.mem_singleton.1 hd
    exact fun access _ v args => Stable.pure _

end Scoping

/-! ## Block filters -/

namespace Blocks

theorem stable_forItems {f : Value → Nat → Emit Session Unit} (hf : ∀ item i, Emit.Stable (Session.Alike R) (f item i))
    (i : Nat) (items : List Value) : Emit.Stable (Session.Alike R) (forItems f i items) := by
  induction items generalizing i with
  | nil => exact Emit.Stable.pure ()
  | cons item items ih => exact (hf item i).bind fun _ => ih (i + 1)

theorem stable_writePage {access : BlockAccess} (ha : access.Stable R) (v : Value) (args : List Value) :
    Emit.Stable (Session.Alike R) (writePage access v args) := by
  unfold writePage
  split
  · exact Emit.Stable.fail _
  · exact (Emit.Stable.ofExcept _).bind fun locals => ha.writePartial _ locals

theorem stable_selectPartial {access : BlockAccess} (ha : access.Stable R) (v : Value) (args : List Value) :
    Emit.Stable (Session.Alike R) (selectPartial access v args) :=
  (Emit.Stable.ofExcept _).bind fun _ => stable_forItems (fun _ _ => ha.writePartial _ _) 0 _

theorem restoreLocal_withLayout (s : Scope) (layout : Option PageContent) (name : String) (saved : Option Value) :
    (s.withLayout layout).restoreLocal name saved = (s.restoreLocal name saved).withLayout layout := by
  cases saved <;> rfl

theorem stable_select (h : CachesAlike compiler R) {access : BlockAccess} (ha : access.Stable R) (v : Value) (args : List Value) :
    Emit.Stable (Session.Alike R) (select access v args) := by
  have hscope : ∀ f : Scope → Scope, (∀ (s : Scope) layout, f (s.withLayout layout) = (f s).withLayout layout) →
      Emit.Stable (Session.Alike R) (Emit.ofEval (Eval.modifyScope f)) := fun f hf =>
    Emit.Stable.ofEval (Eval.stable_modifyScope hf)
  refine (Emit.Stable.ofExcept _).bind fun text => ?_
  refine (Emit.Stable.ofEval (Scoping.stable_parsed h .inlineTemplate text)).bind fun fragments => ?_
  refine Emit.Stable.scope_bind (fun s t hst => by rw [hst.same]; rfl) fun scope => ?_
  refine (hscope _ fun _ _ => rfl).bind fun _ => (Emit.Stable.attempt ?_).bind fun outcome => ?_
  · exact stable_forItems (fun _ _ => (hscope _ fun _ _ => rfl).bind fun _ => ha.writeFragments fragments) 0 _
  · refine (hscope _ fun s layout => ?_).bind fun _ => Emit.Stable.resume outcome
    rw [restoreLocal_withLayout, restoreLocal_withLayout]

/-- The block filters are stable. -/
theorem stable_filters (h : CachesAlike compiler R) : ∀ d ∈ filters, d.body.Stable R := by
  intro d hd
  simp only [filters, List.mem_cons, List.not_mem_nil, or_false] at hd
  rcases hd with rfl | rfl | rfl | rfl
  · exact fun access ha v args => stable_writePage ha v args
  · exact fun access ha v args => stable_writePage ha v args
  · exact fun access ha v args => stable_selectPartial ha v args
  · exact fun access ha v args => stable_select h ha v args

end Blocks

/-! ## All of them -/

theorem mem_register {r : FilterRegistry} {d d' : FilterDef} (h : d' ∈ (r.register d).2.defs) : d' = d ∨ d' ∈ r.defs := by
  unfold FilterRegistry.register at h
  split at h
  · exact Or.inr h
  · simpa [or_comm] using h

/-- Registering filters one after the other adds only these. -/
theorem mem_foldl_register {defs : List FilterDef} {d : FilterDef} {r : FilterRegistry}
    (h : d ∈ (defs.foldl (fun r d => (r.register d).2) r).defs) : d ∈ defs ∨ d ∈ r.defs := by
  induction defs generalizing r with
  | nil => exact Or.inr h
  | cons d' defs ih =>
    rcases ih h with hd | hd
    · exact Or.inl (List.mem_cons_of_mem d' hd)
    · rcases mem_register hd with rfl | hd
      · exact Or.inl List.mem_cons_self
      · exact Or.inr hd

theorem mem_of_mem_ofList {defs : List FilterDef} {d : FilterDef} (h : d ∈ (FilterRegistry.ofList defs).defs) : d ∈ defs := by
  rcases mem_foldl_register h with hd | hd
  · exact hd
  · simp at hd

/-- A filter that is registered answers only the calls that nothing answered before. -/
theorem find?_register (r : FilterRegistry) (d : FilterDef) (kind : FilterKind) (name : String) (arity : Nat) :
    (r.register d).2.find? kind name arity =
      (r.find? kind name arity).or ([d].find? (·.answers kind name arity)) := by
  unfold FilterRegistry.register
  cases hd : r.find? d.kind d.name d.arity with
  | none => simp only [FilterRegistry.find?, List.find?_append]
  | some d' =>
    by_cases ha : d.answers kind name arity = true
    · simp only [FilterDef.answers, Bool.and_eq_true, decide_eq_true_eq] at ha
      obtain ⟨⟨rfl, rfl⟩, rfl⟩ := ha
      simp only [hd, Option.some_or]
    · simp only [List.find?_cons, ha, List.find?_nil, Option.or_none]

/-- Of filters registered one after the other, the first one that answers a call is found. -/
theorem find?_ofList (defs : List FilterDef) (kind : FilterKind) (name : String) (arity : Nat) :
    (FilterRegistry.ofList defs).find? kind name arity = defs.find? (·.answers kind name arity) := by
  have hfold : ∀ r : FilterRegistry, (defs.foldl (fun r d => (r.register d).2) r).find? kind name arity =
      (r.find? kind name arity).or (defs.find? (·.answers kind name arity)) := by
    induction defs with
    | nil => exact fun r => (Option.or_none ..).symm
    | cons d defs ih =>
      intro r
      rw [List.foldl_cons, ih, find?_register, Option.or_assoc, ← List.find?_append]
      rfl
  exact hfold {}

theorem Site.filters_build (settings : Settings) (formats : List PageFormat) (filters : List FilterDef)
    (transformers : List (String × Transformer)) :
    (Site.build settings formats filters transformers).filters = FilterRegistry.ofList (filters ++ BuiltIn.filters) :=
  rfl

/-- The filters of an environment are looked up in the lists they were registered from, those of the render first. -/
theorem Environment.findFilterOfKind_ofList {env : Environment} (own defs : List FilterDef)
    (hown : env.filters = FilterRegistry.ofList own) (hsite : env.site.filters = FilterRegistry.ofList defs) (name : String)
    (arity : Nat) : env.findFilterOfKind name arity = fun kind => (own ++ defs).find? (·.answers kind name arity) := by
  funext kind
  rw [Environment.findFilterOfKind, hown, hsite, find?_ofList, find?_ofList, List.find?_append, Option.orElse_eq_or]

theorem Environment.findFilter_ofList {env : Environment} (own defs : List FilterDef)
    (hown : env.filters = FilterRegistry.ofList own) (hsite : env.site.filters = FilterRegistry.ofList defs) (name : String)
    (arity : Nat) :
    env.findFilter name arity = FilterKind.precedence.findSome? fun kind => (own ++ defs).find? (·.answers kind name arity) := by
  rw [Environment.findFilter, Environment.findFilterOfKind_ofList own defs hown hsite]

namespace BuiltIn

/-- A value filter is a plain function. -/
theorem stable_valueFilters : ∀ d ∈ valueFilters, d.body.Stable R := by
  simp [valueFilters, arithmetic, texts, collections, logic, datesAndMoney, value, ofUnknown, FilterBody.Stable]

/-- **Built-in filters.** What a site remembers makes no difference to a built-in filter. -/
theorem stable_body (h : CachesAlike compiler R) : ∀ d ∈ filters, d.body.Stable R := by
  intro d hd
  simp only [filters, List.mem_append] at hd
  rcases hd with (hd | hd) | hd
  · exact stable_valueFilters d hd
  · exact Scoping.stable_filters h d hd
  · exact Blocks.stable_filters h d hd

end BuiltIn

end

end PageTemplates
