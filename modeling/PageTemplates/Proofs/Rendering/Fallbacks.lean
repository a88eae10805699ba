import PageTemplates.Proofs.Rendering.Nesting

/-!
# Fallbacks of expressions

What came of an expression is written, and if that was an error that counts as recoverable, the page format may offer a value in
place of it. Main statements: an expression fails with its error if nothing is offered (`fails_writeVariable`), what is offered
is written otherwise (`yields_writeVariable_fallback`), and a template that fails makes the expression fail that starts it
(`StartsTemplate.fails`).
-/

namespace PageTemplates

open Emit

namespace Environment

variable {env : Environment}

/-! ## Expressions -/

/-- The value that a format offers in place of an error, if the error is recoverable. -/
def fallback? (env : Environment) (format : PageFormat) (e : TemplateError) : Option Value :=
  if e.isRecoverable then format.fallback env.site.settings e else none

/-- Writes what came of an expression. -/
def writeOutcome (env : Environment) (v : Variable) (outcome : Except Fault Outcome) : Emit Session Unit := do
  let scope ← ofEval Eval.scope
  match env.outcomeText? scope.format v (← env.recover scope.format outcome) with
  | some text => Emit.writeText text
  | none => pure ()

theorem writeVariable_eq (v : Variable) (fuel : Nat) :
    env.writeVariable fuel (env.access fuel) v = attempt (env.evaluate v fuel) >>= env.writeOutcome v := rfl

theorem writeOutcome_exhausted (v : Variable) (s : Session) :
    ((env.writeOutcome v (.error .exhausted)).run s).outcome = .error .exhausted := rfl

theorem recover_error (format : PageFormat) (e : TemplateError) :
    env.recover format (.error (.error e)) =
      match env.fallback? format e with
      | some value => pure (.value value)
      | none => Emit.fail e := rfl

/-- A value is written, and nothing in place of an outcome without text. -/
theorem run_writeOutcome_ok (v : Variable) (outcome : Outcome) (s : Session) :
    (env.writeOutcome v (.ok outcome)).run s =
      { output := ((env.outcomeText? s.scope.format v outcome).map Utf8.encode).getD [], outcome := .ok (), state := s } := by
  unfold writeOutcome
  rw [Emit.Stable.run_bind_ok (x := ofEval Eval.scope) (a := s.scope) rfl]
  simp only [recover, pure_bind]
  cases env.outcomeText? s.scope.format v outcome <;> rfl

/-- Without a fallback the error is passed on. -/
theorem run_writeOutcome_fail {v : Variable} {s : Session} {e : TemplateError} (h : env.fallback? s.scope.format e = none) :
    (env.writeOutcome v (.error (.error e))).run s = { output := [], outcome := .error (.error e), state := s } := by
  unfold writeOutcome
  rw [Emit.Stable.run_bind_ok (x := ofEval Eval.scope) (a := s.scope) rfl, recover_error, h]
  rfl

/-- A fallback is written in place of the error. -/
theorem run_writeOutcome_fallback {v : Variable} {s : Session} {e : TemplateError} {value : Value}
    (h : env.fallback? s.scope.format e = some value) :
    (env.writeOutcome v (.error (.error e))).run s =
      { output := ((env.outcomeText? s.scope.format v (.value value)).map Utf8.encode).getD []
        outcome := .ok ()
        state := s } := by
  unfold writeOutcome
  rw [Emit.Stable.run_bind_ok (x := ofEval Eval.scope) (a := s.scope) rfl, recover_error, h]
  simp only [pure_bind]
  cases env.outcomeText? s.scope.format v (.value value) <;> rfl

/-- An expression fails with its error if the format offers nothing in place of it. -/
theorem fails_writeVariable {v : Variable} {s : Session} {r : Emission Session Outcome} {e : TemplateError}
    (hr : Yields (env.evaluate v) s r) (he : r.outcome = .error (.error e))
    (hnone : env.fallback? r.state.scope.format e = none) : Fails (fun n => env.writeVariable n (env.access n) v) s e := by
  have hrest : Yields (fun _ => env.writeOutcome v r.outcome) r.state
      { output := [], outcome := .error (.error e), state := r.state } := by
    rw [he]
    exact Yields.of_run (run_writeOutcome_fail hnone) (by simp)
  exact ⟨_, hr.attempt_bind (f := fun _ => env.writeOutcome v) hrest fun _ => writeOutcome_exhausted v, rfl⟩

/-- What the format offers in place of an error is written, after what the expression wrote before. -/
theorem yields_writeVariable_fallback {v : Variable} {s : Session} {r : Emission Session Outcome} {e : TemplateError}
    {value : Value} (hr : Yields (env.evaluate v) s r) (he : r.outcome = .error (.error e))
    (hsome : env.fallback? r.state.scope.format e = some value) :
    Yields (fun n => env.writeVariable n (env.access n) v) s
      { output := r.output ++ ((env.outcomeText? r.state.scope.format v (.value value)).map Utf8.encode).getD []
        outcome := .ok ()
        state := r.state } := by
  have hrest : Yields (fun _ => env.writeOutcome v r.outcome) r.state
      { output := ((env.outcomeText? r.state.scope.format v (.value value)).map Utf8.encode).getD []
        outcome := .ok ()
        state := r.state } := by
    rw [he]
    exact Yields.of_run (run_writeOutcome_fallback hsome) (by simp)
  exact hr.attempt_bind (f := fun _ => env.writeOutcome v) hrest fun _ => writeOutcome_exhausted v

/-- Nothing is offered in place of an error that is not recoverable. -/
theorem Fails.writeVariable {v : Variable} {s : Session} {e : TemplateError} (h : Fails (env.evaluate v) s e)
    (he : e.isRecoverable = false) : Fails (fun n => env.writeVariable n (env.access n) v) s e := by
  obtain ⟨r, hr, hout⟩ := h
  exact fails_writeVariable hr hout (by simp [fallback?, he])

/-! ## Templates -/

/-- A template fails with the error of an expression that it comes to. -/
theorem ComesTo.fails {fragments : List Fragment} {s : Session} {v : Variable} {t : Session} {e : TemplateError}
    (h : env.ComesTo fragments s v t) (he : Fails (fun n => env.writeVariable n (env.access n) v) t e) :
    Fails (fun n => env.writeFragments n fragments) s e :=
  (Fails.succ rfl).1 (h.exposes.fails e he)

/-- An expression fails with the error of a template that it starts, as the error of the block filter that writes it. -/
theorem StartsTemplate.fails {v : Variable} {s : Session} {kind : TemplateKind} {fragments : List Fragment} {t : Session}
    {e : TemplateError} (h : env.StartsTemplate v s kind fragments t)
    (he : Fails (fun n => env.writeFragments n fragments) t e) :
    ∃ name, Fails (env.evaluate v) s (.filter name e) := by
  obtain ⟨hcall, hstart⟩ := h
  exact ⟨_, hcall.exposes.fails _ (hstart.exposes.fails e he)⟩

end Environment

/-! ## Renders -/

namespace Site

variable {site : Site} {plan : RenderPlan} {e : Engine} {error : TemplateError}

/-- A render fails with an error, whether it writes to an output or to a text. -/
structure RenderFails (site : Site) (plan : RenderPlan) (e : Engine) (error : TemplateError) : Prop where
  writeTo : Fails (fun n => site.writeTo plan n) e error
  renderText : Fails (fun n => site.renderText plan n) e error

theorem RenderFails.of_writeTo (h : Fails (fun n => site.writeTo plan n) e error) : site.RenderFails plan e error := by
  have htext : Exposes (fun n => site.renderText plan n) e (fun n => site.writeTo plan n) e id :=
    (Exposes.refl _ _).capture.bind
  exact ⟨h, htext.fails error h⟩

end Site

end PageTemplates
