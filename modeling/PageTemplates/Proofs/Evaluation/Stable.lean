import PageTemplates.Evaluation.Effects

/-!
# What computations depend on

A computation is stable for a relation of states if related states make no difference to it: it writes the same, has the same
outcome, and leaves related states. Stability passes from the parts of a computation to the whole, so for an evaluation it is
enough to look at the few actions that touch the state of the site. Main statements: binding, catching and capturing stable
computations is stable (`Stable.bind`, `Emit.Stable.bind`, `Emit.Stable.capture`).
-/

namespace PageTemplates

/-! ## Actions that write nothing -/

section

variable {ε σ α β : Type} {R : σ → σ → Prop}

/-- Related states make no difference to an action. -/
def Stable (R : σ → σ → Prop) (x : ExceptT ε (StateM σ) α) : Prop :=
  ∀ s t, R s t → (x.run.run s).1 = (x.run.run t).1 ∧ R (x.run.run s).2 (x.run.run t).2

namespace Stable

theorem pure (a : α) : Stable R (Pure.pure a : ExceptT ε (StateM σ) α) :=
  fun _ _ h => ⟨rfl, h⟩

theorem throw (error : ε) : Stable R (MonadExcept.throw error : ExceptT ε (StateM σ) α) :=
  fun _ _ h => ⟨rfl, h⟩

/-- What comes after an action that gave a value runs on the state that it left. -/
theorem run_bind_ok {x : ExceptT ε (StateM σ) α} {f : α → ExceptT ε (StateM σ) β} {s s' : σ} {a : α}
    (h : x.run.run s = (.ok a, s')) : (x >>= f).run.run s = (f a).run.run s' := by
  simp only [ExceptT.run_bind, StateT.run_bind, h]
  rfl

/-- Nothing comes after an action that failed. -/
theorem run_bind_error {x : ExceptT ε (StateM σ) α} {f : α → ExceptT ε (StateM σ) β} {s s' : σ} {error : ε}
    (h : x.run.run s = (.error error, s')) : (x >>= f).run.run s = (.error error, s') := by
  simp only [ExceptT.run_bind, StateT.run_bind, h]
  rfl

theorem bind {x : ExceptT ε (StateM σ) α} {f : α → ExceptT ε (StateM σ) β} (hx : Stable R x) (hf : ∀ a, Stable R (f a)) :
    Stable R (x >>= f) := by
  intro s t h
  have hrun := hx s t h
  cases hs : x.run.run s with
  | mk r s' =>
    cases ht : x.run.run t with
    | mk r' t' =>
      rw [hs, ht] at hrun
      obtain ⟨rfl, hR⟩ : r = r' ∧ R s' t' := hrun
      cases r with
      | error error =>
        rw [run_bind_error hs, run_bind_error ht]
        exact ⟨rfl, hR⟩
      | ok a =>
        rw [run_bind_ok hs, run_bind_ok ht]
        exact hf a s' t' hR

theorem modify {f : σ → σ} (h : ∀ s t, R s t → R (f s) (f t)) :
    Stable R (modifyThe σ f : ExceptT ε (StateM σ) Unit) :=
  fun s t hst => ⟨rfl, h s t hst⟩

theorem map {x : ExceptT ε (StateM σ) α} (f : α → β) (hx : Stable R x) : Stable R (do return f (← x)) :=
  hx.bind fun a => Stable.pure (f a)

theorem mapM {f : α → ExceptT ε (StateM σ) β} (as : List α) (hf : ∀ a, Stable R (f a)) : Stable R (as.mapM f) := by
  induction as with
  | nil =>
    rw [List.mapM_nil]
    exact Stable.pure []
  | cons a as ih =>
    rw [List.mapM_cons]
    exact (hf a).bind fun b => ih.bind fun bs => Stable.pure (b :: bs)

end Stable

end

/-! ## Sessions -/

/-- Two states with a property. -/
def Engine.Both (I : Engine → Prop) (e e' : Engine) : Prop :=
  I e ∧ I e'

/-- The arguments of the layout in a scope; none without a layout. -/
def Scope.layoutArgs (s : Scope) : Table String :=
  match s.layout with
  | some layout => layout.args
  | none => []

/-- The scope with another layout around the page. -/
def Scope.withLayout (s : Scope) (layout : Option PageContent) : Scope :=
  { s with layout }

/-- Two scopes that expressions cannot tell apart: they differ in the layout at most, and not in its arguments. -/
structure Scope.Alike (s t : Scope) : Prop where
  same : t = s.withLayout t.layout
  layoutArgs : s.layoutArgs = t.layoutArgs

namespace Scope

theorem Alike.refl (s : Scope) : s.Alike s :=
  ⟨rfl, rfl⟩

/-- An argument of a name is that of the first page which has it, and else that of the layout. -/
theorem pageArg?_eq (s : Scope) (name : String) :
    s.pageArg? name = ((((if s.inLayout then [s.rootPage] else [s.page, s.rootPage]).findSome? fun page =>
      Table.get? page.args name).or (Table.get? s.layoutArgs name)).map .string) := by
  have hlayout : (s.layout.toList.findSome? fun page => Table.get? page.args name) = Table.get? s.layoutArgs name := by
    unfold layoutArgs
    cases s.layout with
    | none => rfl
    | some layout => simp
  have hlayers : s.pageLayers = (if s.inLayout then [s.rootPage] else [s.page, s.rootPage]) ++ s.layout.toList := by
    unfold pageLayers
    cases s.inLayout <;> rfl
  rw [pageArg?, hlayers, List.findSome?_append, hlayout]

theorem Alike.pageArg? {s t : Scope} (h : s.Alike t) (name : String) : s.pageArg? name = t.pageArg? name := by
  rw [pageArg?_eq, pageArg?_eq, h.layoutArgs, h.same]
  rfl

/-- Scopes stay alike when the same is done to all but the layout. -/
theorem Alike.modify {s t : Scope} (h : s.Alike t) {f : Scope → Scope}
    (hf : ∀ (s : Scope) layout, f (s.withLayout layout) = (f s).withLayout layout) : (f s).Alike (f t) := by
  have hlayout : ∀ s, (f s).layout = s.layout := by
    intro s
    have hsame : f s = (f s).withLayout s.layout := hf s s.layout
    rw [hsame]
    rfl
  refine ⟨?_, ?_⟩
  · rw [hlayout t, ← hf s t.layout, ← h.same]
  · have hargs := h.layoutArgs
    unfold Scope.layoutArgs at hargs ⊢
    rw [hlayout s, hlayout t, hargs]

end Scope

/-- Two sessions in scopes that are alike, on related states. -/
structure Session.Alike (R : Engine → Engine → Prop) (s t : Session) : Prop where
  scope : s.scope.Alike t.scope
  engine : R s.engine t.engine

namespace Eval

variable {α : Type} {R : Engine → Engine → Prop}

theorem stable_fail (e : TemplateError) : Stable (Session.Alike R) (Eval.fail e : Eval α) :=
  Stable.throw _

theorem stable_ofExcept (r : Except TemplateError α) : Stable (Session.Alike R) (Eval.ofExcept r) := by
  cases r with
  | ok a => exact Stable.pure a
  | error e => exact stable_fail e

theorem stable_resume (r : Except Fault α) : Stable (Session.Alike R) (Eval.resume r) := by
  cases r with
  | ok a => exact Stable.pure a
  | error fault => exact Stable.throw fault

theorem stable_attempt {x : Eval α} (hx : Stable (Session.Alike R) x) : Stable (Session.Alike R) (Eval.attempt x) := by
  intro s t h
  obtain ⟨hr, hs⟩ := hx s t h
  exact ⟨congrArg Except.ok hr, hs⟩

theorem stable_inFilter (name : String) {x : Eval α} (hx : Stable (Session.Alike R) x) :
    Stable (Session.Alike R) (Eval.inFilter name x) := by
  refine (stable_attempt hx).bind fun r => ?_
  cases r with
  | ok a => exact Stable.pure a
  | error fault => exact Stable.throw _

/-- What reads the scope is stable if it does the same for scopes that are alike. -/
theorem stable_scope_bind {f : Scope → Eval α} (hsame : ∀ s t : Scope, s.Alike t → f s = f t)
    (hf : ∀ scope, Stable (Session.Alike R) (f scope)) : Stable (Session.Alike R) (Eval.scope >>= f) := by
  intro s t h
  have hrun : ∀ s : Session, (Eval.scope >>= f).run.run s = (f s.scope).run.run s := fun _ => rfl
  rw [hrun, hrun, hsame s.scope t.scope h.scope]
  exact hf t.scope s t h

theorem stable_modifyScope {f : Scope → Scope} (hf : ∀ (s : Scope) layout, f (s.withLayout layout) = (f s).withLayout layout) :
    Stable (Session.Alike R) (Eval.modifyScope f) :=
  Stable.modify fun _ _ h => ⟨h.scope.modify hf, h.engine⟩

/-- A stable action on the state of the site is a stable evaluation. -/
theorem stable_ofLoad {x : Load α} (hx : Stable R x) : Stable (Session.Alike R) (Eval.ofLoad x) := by
  intro s t h
  obtain ⟨hr, hs⟩ := hx s.engine t.engine h.engine
  have hrun : ∀ s : Session, (Eval.ofLoad x).run.run s =
      (Eval.ofExcept (x.run.run s.engine).1).run.run { s with engine := (x.run.run s.engine).2 } := fun _ => rfl
  rw [hrun, hrun, hr]
  exact stable_ofExcept _ _ _ ⟨h.scope, hs⟩

end Eval

/-! ## Computations that write -/

/-- Two runs that wrote the same, with the same outcome, and left related states. -/
structure Emission.Alike {σ α : Type} (R : σ → σ → Prop) (a b : Emission σ α) : Prop where
  output : a.output = b.output
  outcome : a.outcome = b.outcome
  state : R a.state b.state

namespace Emit

variable {σ α β : Type} {R : σ → σ → Prop}

/-- Related states make no difference to a computation. -/
def Stable (R : σ → σ → Prop) (x : Emit σ α) : Prop :=
  ∀ s t, R s t → Emission.Alike R (x.run s) (x.run t)

namespace Stable

theorem pure (a : α) : Emit.Stable R (Pure.pure a : Emit σ α) :=
  fun _ _ h => ⟨rfl, rfl, h⟩

theorem write (bytes : Bytes) : Emit.Stable R (Emit.write bytes : Emit σ Unit) :=
  fun _ _ h => ⟨rfl, rfl, h⟩

theorem writeText (text : String) : Emit.Stable R (Emit.writeText text : Emit σ Unit) :=
  Stable.write _

theorem throwFault (fault : Fault) : Emit.Stable R (Emit.throwFault fault : Emit σ α) :=
  fun _ _ h => ⟨rfl, rfl, h⟩

theorem fail (e : TemplateError) : Emit.Stable R (Emit.fail e : Emit σ α) :=
  Stable.throwFault _

theorem ofExcept (r : Except TemplateError α) : Emit.Stable R (Emit.ofExcept r : Emit σ α) := by
  cases r with
  | ok a => exact Stable.pure a
  | error e => exact Stable.fail e

theorem resume (r : Except Fault α) : Emit.Stable R (Emit.resume r : Emit σ α) := by
  cases r with
  | ok a => exact Stable.pure a
  | error fault => exact Stable.throwFault fault

theorem run_bind_ok {x : Emit σ α} {f : α → Emit σ β} {s : σ} {a : α} (h : (x.run s).outcome = .ok a) :
    (x >>= f).run s =
      { output := (x.run s).output ++ ((f a).run (x.run s).state).output
        outcome := ((f a).run (x.run s).state).outcome
        state := ((f a).run (x.run s).state).state } := by
  change (Emit.bind x f).run s = _
  simp only [Emit.bind, h]

theorem run_bind_error {x : Emit σ α} {f : α → Emit σ β} {s : σ} {fault : Fault} (h : (x.run s).outcome = .error fault) :
    (x >>= f).run s = { output := (x.run s).output, outcome := .error fault, state := (x.run s).state } := by
  change (Emit.bind x f).run s = _
  simp only [Emit.bind, h]

theorem bind {x : Emit σ α} {f : α → Emit σ β} (hx : Emit.Stable R x) (hf : ∀ a, Emit.Stable R (f a)) :
    Emit.Stable R (x >>= f) := by
  intro s t h
  have hrun := hx s t h
  cases hs : (x.run s).outcome with
  | error fault =>
    rw [run_bind_error hs, run_bind_error (hrun.outcome.symm.trans hs)]
    exact ⟨hrun.output, rfl, hrun.state⟩
  | ok a =>
    have hnext := hf a _ _ hrun.state
    rw [run_bind_ok hs, run_bind_ok (hrun.outcome.symm.trans hs)]
    exact ⟨by simp only [hrun.output, hnext.output], hnext.outcome, hnext.state⟩

theorem attempt {x : Emit σ α} (hx : Emit.Stable R x) : Emit.Stable R (Emit.attempt x) := by
  intro s t h
  have hrun := hx s t h
  exact ⟨hrun.output, congrArg Except.ok hrun.outcome, hrun.state⟩

theorem capture {x : Emit σ α} (hx : Emit.Stable R x) : Emit.Stable R (Emit.capture x) := by
  intro s t h
  have hrun := hx s t h
  exact ⟨rfl, by simp only [Emit.capture, hrun.output, hrun.outcome], hrun.state⟩

theorem inFilter (name : String) {x : Emit σ α} (hx : Emit.Stable R x) : Emit.Stable R (Emit.inFilter name x) := by
  intro s t h
  have hrun := hx s t h
  exact ⟨hrun.output, by simp only [Emit.inFilter, hrun.outcome], hrun.state⟩

theorem forM {f : α → Emit σ PUnit} (as : List α) (hf : ∀ a, Emit.Stable R (f a)) : Emit.Stable R (as.forM f) := by
  induction as with
  | nil => exact Stable.pure PUnit.unit
  | cons a as ih => exact (hf a).bind fun _ => ih

variable {R : Engine → Engine → Prop}

theorem ofEval {x : Eval α} (hx : PageTemplates.Stable (Session.Alike R) x) :
    Emit.Stable (Session.Alike R) (Emit.ofEval x) := by
  intro s t h
  obtain ⟨hr, hs⟩ := hx s t h
  exact ⟨rfl, hr, hs⟩

/-- What reads the scope is stable if it does the same for scopes that are alike. -/
theorem scope_bind {f : Scope → Emit Session α} (hsame : ∀ s t : Scope, s.Alike t → f s = f t)
    (hf : ∀ scope, Emit.Stable (Session.Alike R) (f scope)) : Emit.Stable (Session.Alike R) (Emit.ofEval Eval.scope >>= f) := by
  intro s t h
  have hrun : ∀ s : Session, (Emit.ofEval Eval.scope >>= f).run s = (f s.scope).run s := fun _ => rfl
  rw [hrun, hrun, hsame s.scope t.scope h.scope]
  exact hf t.scope s t h

theorem ofLoad {x : Load α} (hx : PageTemplates.Stable R x) : Emit.Stable R (Emit.ofLoad x) := by
  intro s t h
  obtain ⟨hr, hs⟩ := hx s t h
  exact ⟨rfl, congrArg (Except.mapError Fault.error) hr, hs⟩

theorem withScope (scope : Scope) {x : Emit Session α} (hx : Emit.Stable (Session.Alike R) x) :
    Emit.Stable (Session.Alike R) (Emit.withScope scope x) := by
  intro s t h
  have hrun := hx { s with scope } { t with scope } ⟨Scope.Alike.refl scope, h.engine⟩
  exact ⟨hrun.output, hrun.outcome, h.scope, hrun.state.engine⟩

theorem inScope (scope : Scope) {x : Emit Session α} (hx : Emit.Stable (Session.Alike R) x) :
    Emit.Stable R (Emit.inScope scope x) := by
  intro e e' h
  have hrun := hx { engine := e, scope } { engine := e', scope } ⟨Scope.Alike.refl scope, h⟩
  exact ⟨hrun.output, hrun.outcome, hrun.state.engine⟩

end Stable

end Emit

end PageTemplates
