import PageTemplates.Proofs.Evaluation.Memory
import PageTemplates.Proofs.Pages.Composed
import PageTemplates.Proofs.Rendering.Writing

/-!
# Differences that renders do not notice

A difference between states is unnoticed if no lookup depends on it, and lookups and filters keep states related. Then no render
depends on it either. Main statements: this holds of writing a render (`Unnoticed.stable_writeTo`), of rendering a page
(`Unnoticed.stable_renderPage`), and of evaluating a template (`Unnoticed.stable_evaluateTemplate`).
-/

namespace PageTemplates

/-- Related states have the same pages and the same memory, and make no difference to lookups. -/
structure Site.Unnoticed (site : Site) (R : Engine → Engine → Prop) : Prop extends SameMemory R, SameIndex R where
  close : ∀ e e', R e e' → R { e with initialized := true } { e' with initialized := true }
  refresh : ∀ id, Stable R (site.refresh id)
  findLayout : ∀ pageKey name, Stable R (site.findLayout pageKey name)
  getPage : ∀ path, Stable R (site.getPage path)
  oneTimePage : ∀ contents extension, Stable R (site.oneTimePage contents extension)

namespace Site.Unnoticed

variable {site : Site} {plan : RenderPlan} {R : Engine → Engine → Prop} (h : site.Unnoticed R)
include h

/-- Writing a render does not notice the difference. -/
theorem stable_writeTo (hfilters : ∀ d ∈ plan.filters ++ site.filters.defs, d.body.Stable R) (fuel : Nat) :
    Emit.Stable R (site.writeTo plan fuel) :=
  PageTemplates.stable_writeTo (h.plain hfilters) (h.stable_partialPages h.getPage)
    (h.stable_prepare h.refresh h.findLayout h.close plan) fuel

theorem stable_renderText (hfilters : ∀ d ∈ plan.filters ++ site.filters.defs, d.body.Stable R) (fuel : Nat) :
    Emit.Stable R (site.renderText plan fuel) := by
  refine (Emit.Stable.capture (h.stable_writeTo hfilters fuel)).bind fun captured => ?_
  obtain ⟨_, bytes⟩ := captured
  cases hdecode : Utf8.decode? bytes with
  | some text =>
    simp only [hdecode]
    exact Emit.Stable.pure text
  | none =>
    simp only [hdecode]
    -- The error names the file of the page.
    intro e e' hR
    rw [Emit.Stable.run_bind_ok (x := Emit.ofLoad get) (s := e) (a := e) rfl,
      Emit.Stable.run_bind_ok (x := Emit.ofLoad get) (s := e') (a := e') rfl, h.page e e' plan.page hR]
    cases e.page? plan.page with
    | some p => exact ⟨rfl, rfl, hR⟩
    | none => exact ⟨rfl, rfl, hR⟩

/-- Rendering a page does not notice the difference. -/
theorem stable_renderPage (hfilters : ∀ d ∈ site.filters.defs, d.body.Stable R) (fuel : Nat) (path : String)
    (args : Table Value) : Emit.Stable R (site.renderPage fuel path args) :=
  (Emit.Stable.ofLoad (stable_requirePage h.getPage path)).bind fun _ => h.stable_renderText (by simpa using hfilters) fuel

/-- Evaluating a template does not notice the difference. -/
theorem stable_evaluateTemplate (hfilters : ∀ d ∈ site.filters.defs, d.body.Stable R) (fuel : Nat) (text : String)
    (args : Table Value) : Emit.Stable R (site.evaluateTemplate fuel text args) :=
  (Emit.Stable.ofLoad (Stable.modify h.close)).bind fun _ =>
    (Emit.Stable.ofLoad (h.oneTimePage text none)).bind fun _ => h.stable_renderText (by simpa using hfilters) fuel

end Site.Unnoticed

end PageTemplates
