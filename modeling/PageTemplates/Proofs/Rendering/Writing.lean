import PageTemplates.Proofs.Evaluation.Fragments

/-!
# Writing pages and the state of the site

What a render writes depends on the data of the render, and of all that the site remembers only on the pages that it loads.
Main statement: if preparing the render and looking for partials are stable, writing the render is (`stable_writeTo`).
-/

namespace PageTemplates

variable {env : Environment} {R : Engine → Engine → Prop}

theorem stable_writePage (h : env.Plain R) (hpartial : ∀ page name, Stable R (env.partialContent page name))
    (plan : RenderPlan) (fuel : Nat) (content : PageContent) :
    Emit.Stable (Session.Alike R) (Site.writePage env plan fuel content) := by
  have hwrite := Environment.stable_writeFragments h hpartial fuel content.fragments
  unfold Site.writePage
  split
  · exact hwrite
  · refine (Emit.Stable.capture hwrite).bind fun captured => ?_
    exact (Emit.Stable.ofExcept _).bind fun bytes => Emit.Stable.write bytes

theorem stable_writeHole (h : env.Plain R) (hpartial : ∀ page name, Stable R (env.partialContent page name))
    (plan : RenderPlan) (fuel : Nat) (page layout : LoadedPage) :
    Emit.Stable (Session.Alike R) (Site.writeHole env plan fuel page layout) := by
  have hscope : ∀ f : Scope → Scope, (∀ (s : Scope) layout, f (s.withLayout layout) = (f s).withLayout layout) →
      Emit.Stable (Session.Alike R) (Emit.ofEval (Eval.modifyScope f)) := fun f hf =>
    Emit.Stable.ofEval (Eval.stable_modifyScope hf)
  refine (hscope _ fun _ _ => rfl).bind fun _ => ?_
  refine (Emit.Stable.attempt (stable_writePage h hpartial plan fuel page.content)).bind fun outcome => ?_
  exact (hscope _ fun _ _ => rfl).bind fun _ => Emit.Stable.resume outcome

theorem stable_writeLayoutFragment (h : env.Plain R)
    (hpartial : ∀ page name, Stable R (env.partialContent page name)) (plan : RenderPlan) (fuel : Nat)
    (page layout : LoadedPage) (f : Fragment) :
    Emit.Stable (Session.Alike R) (Site.writeLayoutFragment env plan fuel page layout f) := by
  cases f with
  | text s => exact Emit.Stable.writeText s
  | var v =>
    rw [Site.writeLayoutFragment]
    split
    · exact stable_writeHole h hpartial plan fuel page layout
    · exact Environment.stable_writeVariable h fuel (Environment.stable_access h hpartial fuel) v

theorem stable_writeBody {site : Site} {plan : RenderPlan} (h : (plan.environment site).Plain R)
    (hpartial : ∀ page name, Stable R ((plan.environment site).partialContent page name)) (fuel : Nat)
    (page : LoadedPage) (layout : Option LoadedPage) :
    Emit.Stable R (site.writeBody plan fuel page layout) := by
  cases layout with
  | none => exact Emit.Stable.inScope _ (stable_writePage h hpartial plan fuel page.content)
  | some layout =>
    exact Emit.Stable.inScope _ (Emit.Stable.forM _ (stable_writeLayoutFragment h hpartial plan fuel page layout))

theorem stable_writeTo {site : Site} {plan : RenderPlan} (h : (plan.environment site).Plain R)
    (hpartial : ∀ page name, Stable R ((plan.environment site).partialContent page name))
    (hprepare : Stable R (site.prepare plan)) (fuel : Nat) :
    Emit.Stable R (site.writeTo plan fuel) := by
  refine (Emit.Stable.ofLoad hprepare).bind fun prepared => ?_
  have hbody := stable_writeBody h hpartial fuel prepared.1 prepared.2
  simp only [Bool.false_eq_true, if_false]
  split
  · exact hbody
  · refine (Emit.Stable.capture hbody).bind fun captured => ?_
    exact (Emit.Stable.ofExcept _).bind fun bytes => Emit.Stable.write bytes

end PageTemplates
