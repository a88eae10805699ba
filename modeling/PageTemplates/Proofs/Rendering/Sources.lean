import PageTemplates.Proofs.Evaluation.Bounds
import PageTemplates.Proofs.Freshness.Renders
import PageTemplates.Proofs.Syntax.Fragments

/-!
# Fragments that are written as their sources

Text is written as it is. Fragments of which each is written as its source are written as their sources in a row, and a render
without layout and transformers gives what its page's fragments write. Main statements: `Emit.run_forM_sources` and
`Site.run_renderText_alone`.
-/

namespace PageTemplates

open Emit

/-- Fragments that are written as their sources, one by one, are written as their sources in a row. -/
theorem Emit.run_forM_sources {σ : Type} {write : Fragment → Emit σ Unit} {s : σ} {fragments : List Fragment}
    (h : ∀ f ∈ fragments, (write f).run s = { output := Utf8.encode f.source, outcome := .ok (), state := s }) :
    (fragments.forM write).run s =
      { output := Utf8.encode (String.ofList (sourcesOf fragments)), outcome := .ok (), state := s } := by
  induction fragments with
  | nil => rfl
  | cons f fragments ih =>
    have hfirst := h f List.mem_cons_self
    have hrest := ih fun g hg => h g (List.mem_cons_of_mem _ hg)
    rw [List.forM, Emit.Stable.run_bind_ok (congrArg Emission.outcome hfirst), hfirst]
    simp only
    rw [hrest, sourcesOf_cons, String.ofList_append, String.ofList_toList, Utf8.encode_append]

/-- Texts are written whatever the bound is, and change nothing else. -/
theorem Environment.run_writeFragments_texts (env : Environment) {fragments : List Fragment}
    (h : ∀ f ∈ fragments, ∃ text, f = .text text) (n : Nat) (s : Session) :
    (env.writeFragments (n + 1) fragments).run s =
      { output := Utf8.encode (String.ofList (sourcesOf fragments)), outcome := .ok (), state := s } := by
  rw [writeFragments_succ]
  refine Emit.run_forM_sources fun f hf => ?_
  obtain ⟨text, rfl⟩ := h f hf
  rfl

/-- A render of a page alone, without transformers, gives the text that the fragments of the page write. -/
theorem Site.run_renderText_alone {site : Site} {plan : RenderPlan} {fuel : Nat} {e e' : Engine} {page : LoadedPage}
    {text : String} {s : Session} (hpage : plan.pageTransformers = []) (houtput : plan.outputTransformers = [])
    (hprepare : Load.runOn (site.prepare plan) e = (.ok (page, none), e'))
    (hwrite : ((plan.environment site).writeFragments fuel page.content.fragments).run
        { engine := e', scope := pageScope page none } =
      { output := Utf8.encode text, outcome := .ok (), state := s }) :
    (site.renderText plan fuel).run e = { output := [], outcome := .ok text, state := s.engine } := by
  have hbody : (site.writeBody plan fuel page none).run e' =
      { output := Utf8.encode text, outcome := .ok (), state := s.engine } := by
    simp only [writeBody, writePage, hpage, List.isEmpty_nil, if_true, inScope, hwrite]
  have hloaded := run_ofLoad_engine hprepare
  have hto : (site.writeTo plan fuel).run e =
      { output := Utf8.encode text, outcome := .ok (), state := s.engine } := by
    unfold writeTo
    rw [Emit.Stable.run_bind_ok (congrArg Emission.outcome hloaded), hloaded]
    simp only [Bool.false_eq_true, if_false, houtput, List.isEmpty_nil, if_true, hbody, List.nil_append]
  have hcapture : (capture (site.writeTo plan fuel)).run e =
      { output := [], outcome := .ok ((), Utf8.encode text), state := s.engine } := by
    simp only [capture, hto]
    rfl
  unfold renderText
  rw [Emit.Stable.run_bind_ok (congrArg Emission.outcome hcapture), hcapture]
  simp only [Utf8.decode?_encode]
  rfl

end PageTemplates
