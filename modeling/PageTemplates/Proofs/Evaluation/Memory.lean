import PageTemplates.Proofs.Evaluation.Scopes
import PageTemplates.Proofs.Evaluation.Termination

/-!
# States with the same memory

Evaluations read and change what a site remembers besides its pages: the caches of parsed texts, and the memory of filters that
count. To the built-in filters, and to value filters, states that agree in these are no different (`SameMemory.stable_filters`).
Main statement: if filters are no different between such states, whole renders evaluate alike (`SameMemory.plain`).
-/

namespace PageTemplates

/-- Related states have the same caches and cells, and stay related when these become others. -/
structure SameMemory (R : Engine → Engine → Prop) : Prop where
  binders : ∀ e e', R e e' → e'.binders = e.binders ∧ ∀ binders, R { e with binders } { e' with binders }
  cache : ∀ e e', R e e' → e'.cache = e.cache ∧ ∀ cache, R { e with cache } { e' with cache }
  cells : ∀ e e', R e e' → e'.cells = e.cells ∧ ∀ cells, R { e with cells } { e' with cells }

namespace SameMemory

variable {R : Engine → Engine → Prop}

/-- The caches are the same, so they answer the same and learn the same. -/
theorem cachesAlike (h : SameMemory R) (compiler : BindingCompiler) : CachesAlike compiler R where
  binder e e' kind expression rest hR := by
    obtain ⟨hsame, hlearn⟩ := h.binders e e' hR
    rw [hsame]
    exact ⟨rfl, hlearn _⟩
  text e e' kind text hR := by
    obtain ⟨hsame, hlearn⟩ := h.cache e e' hR
    rw [hsame]
    exact ⟨rfl, hlearn _⟩

/-- A filter with a memory finds the same in it, and leaves the same. -/
theorem stable_callRemembering (h : SameMemory R) (memory : String)
    (run : Value → Value → List Value → Except TemplateError (Value × Value)) (v : Value) (args : List Value) :
    Stable (Session.Alike R) (Environment.callRemembering memory run v args) := by
  intro s t hst
  obtain ⟨hsame, hlearn⟩ := h.cells s.engine t.engine hst.engine
  have hrun : ∀ s : Session, (Environment.callRemembering memory run v args).run.run s =
      (((Emit.ofEval (Environment.callRemembering memory run v args)).run s).outcome,
        ((Emit.ofEval (Environment.callRemembering memory run v args)).run s).state) := fun _ => rfl
  rw [hrun, hrun, Environment.run_callRemembering, Environment.run_callRemembering, hsame]
  cases run ((Table.get? s.engine.cells memory).getD .null) v args with
  | ok answer => exact ⟨rfl, hst.scope, hlearn _⟩
  | error error => exact ⟨rfl, hst⟩

/-- A value filter is stable, whether it has a memory or not. -/
theorem stable_of_kind (h : SameMemory R) {body : FilterBody} (hbody : body.kind = .value) : body.Stable R := by
  cases body with
  | value run => trivial
  | remembering memory run => exact fun v args => h.stable_callRemembering memory run v args
  | context run => cases hbody
  | block run => cases hbody

variable {site : Site} {plan : RenderPlan}

/-- Value filters and the built-in filters are functions of their input and of what they ask. -/
theorem stable_filters (h : SameMemory R) (hsite : site.Standard) : ∀ d ∈ site.filters.defs, d.body.Stable R := by
  intro d hd
  rcases hsite.filter d hd with hvalue | hcontext | hblock
  · exact h.stable_of_kind hvalue
  · exact Scoping.stable_filters (h.cachesAlike Binder.compile) d hcontext
  · exact Blocks.stable_filters (h.cachesAlike Binder.compile) d hblock

/-- **Memory.** States with the same memory are no different to a render if they are not to the filters of the render and of the
site. -/
theorem plain (h : SameMemory R) (hfilters : ∀ d ∈ plan.filters ++ site.filters.defs, d.body.Stable R) :
    (plan.environment site).Plain R := by
  refine ⟨h.cachesAlike _, fun name arity kind d hd => hfilters d (List.mem_append.2 ?_)⟩
  rcases Environment.find?_of_findFilterOfKind hd with hd | hd
  · exact Or.inl (mem_of_mem_ofList (List.mem_of_find?_eq_some hd))
  · exact Or.inr (List.mem_of_find?_eq_some hd)

end SameMemory

end PageTemplates
