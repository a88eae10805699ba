import PageTemplates.Proofs.Evaluation.NestedCalls
import PageTemplates.Proofs.Filters.Escaping
import PageTemplates.Proofs.Filters.IntegerArithmetic
import PageTemplates.Proofs.Rendering.OneTimePages
import PageTemplates.Proofs.Syntax.Printing

/-!
# Templates that compute with integers

A computation is written as a pipeline: the integer that it starts with, and a stage with a filter and an operand for each step.
The template is read back as that pipeline (`Arithmetic.parseTemplate_template`), its stages come to the exact result
(`Environment.runStages_calls`), and the result is written with its decimal digits (`encode_int`). Main statement:
`evaluateTemplate_computation`.
-/

namespace PageTemplates

open Emit Arithmetic

/-! ## Decimal texts -/

/-- The text of an integer is that of the core library. -/
theorem ofList_integer (n : Int) : String.ofList (Decimal.integer n) = toString n := by
  cases n with
  | ofNat n => rfl
  | negSucc n =>
    have hneg : Decimal.integer (Int.negSucc n) = ['-'] ++ Nat.toDigits 10 (n + 1) := by
      rw [Decimal.integer, Decimal.signed, decide_eq_true (Int.negSucc_lt_zero n), if_pos rfl]
      rfl
    rw [hneg, String.ofList_append]
    rfl

theorem integer_eq_toList (n : Int) : Decimal.integer n = (toString n).toList := by
  rw [← ofList_integer, String.toList_ofList]

/-- Digits and the sign mean nothing in HTML. -/
theorem notMem_htmlCharacters_of_mem_integer {n : Int} {c : Char} (hc : c ∈ Decimal.integer n) : c ∉ Text.htmlCharacters := by
  have hdigit : c.isDigit = true ∨ c = '-' := by
    unfold Decimal.integer Decimal.signed at hc
    split at hc
    · rcases List.mem_cons.1 hc with rfl | hc
      · exact Or.inr rfl
      · exact Or.inl (isDigit_of_mem_digitsOf c hc)
    · exact Or.inl (isDigit_of_mem_digitsOf c hc)
  have hother : ∀ d ∈ Text.htmlCharacters, d.isDigit = false ∧ d ≠ '-' := by
    simp [Text.htmlCharacters]
  intro hmem
  obtain ⟨hnodigit, hnosign⟩ := hother c hmem
  rcases hdigit with h | h
  · exact Bool.false_ne_true (hnodigit.symm.trans h)
  · exact hnosign h

/-- The built-in formats write an integer with its decimal digits. -/
theorem encode_int {f : PageFormat} (hf : f ∈ Site.builtInFormats) (n : Int64) : f.encode (.int n) = toString n.toInt := by
  have hdisplay : (Value.int n).display = toString n.toInt := ofList_integer n.toInt
  simp only [Site.builtInFormats, List.mem_cons, List.not_mem_nil, or_false] at hf
  rcases hf with rfl | rfl
  · show Text.escapeHtml (Value.int n).display = _
    rw [Text.escapeHtml_of_notMem, hdisplay]
    intro c hc
    rw [hdisplay, ← integer_eq_toList] at hc
    exact notMem_htmlCharacters_of_mem_integer hc
  · exact hdisplay

/-- A template that begins with an expression has no front matter in the built-in formats. -/
theorem not_opens_of_brace {f : PageFormat} (hf : f ∈ Site.builtInFormats) (cs : List Char) :
    ¬FrontMatter.Opens f.argsPrefix.toList ('\x7b' :: cs) := by
  refine FrontMatter.not_opens_of_cons (by decide) ?_
  simp only [Site.builtInFormats, List.mem_cons, List.not_mem_nil, or_false] at hf
  rcases hf with rfl | rfl
  · decide
  · decide

namespace Arithmetic

/-! ## Computations as templates -/

/-- The text of a step: a bar, the name of the filter, and the operand in parentheses. -/
def Step.text (step : Step) : String :=
  " | " ++ step.operator.name ++ "(" ++ toString step.operand.toInt ++ ")"

/-- The template of a computation. -/
def template (a : Int64) (steps : List Step) : String :=
  "\x7b\x7b " ++ toString a.toInt ++ String.join (steps.map Step.text) ++ " \x7d\x7d"

/-- The call of a step. -/
def Step.call (step : Step) : FilterCall Expression where
  name := step.operator.name
  args := [.literal (.int step.operand)]

/-- The pipeline of a computation. -/
def pipeline (a : Int64) (steps : List Step) : Pipeline where
  initial := .literal (.int a)
  stages := steps.map Step.call

theorem isName_name (o : Operator) : IsName o.name.toList := by
  cases o <;> exact ⟨_, _, rfl, rfl, List.all_eq_true.1 rfl⟩

theorem printable_pipeline (a : Int64) (steps : List Step) : (pipeline a steps).Printable := by
  refine ⟨trivial, fun stage hstage => ?_⟩
  obtain ⟨step, -, rfl⟩ := List.mem_map.1 hstage
  exact ⟨isName_name step.operator, trivial, trivial⟩

theorem printStages_calls (steps : List Step) :
    printStages (steps.map Step.call) = (String.join (steps.map Step.text)).toList := by
  induction steps with
  | nil => rfl
  | cons step steps ih =>
    rw [List.map_cons, List.map_cons, String.join_cons, String.toList_append, ← ih]
    simp only [printStages, Step.call, Step.text, printItems, Expression.print, Literal.print, integer_eq_toList,
      String.toList_append, List.append_assoc]
    rfl

/-- The template is the canonical text of the pipeline between braces. -/
theorem toList_template (a : Int64) (steps : List Step) :
    (template a steps).toList = spanText (' ' :: ((pipeline a steps).print ++ [' '])) := by
  have hprint : (pipeline a steps).print = (toString a.toInt).toList ++ (String.join (steps.map Step.text)).toList := by
    rw [← printStages_calls, ← integer_eq_toList]
    rfl
  simp only [template, spanText, hprint, String.toList_append, List.append_assoc, List.cons_append]
  rfl

/-- The template of a computation is read back as its pipeline. -/
theorem parseTemplate_template (a : Int64) (steps : List Step) :
    parseTemplate (template a steps).toList = [.var (.ofPipeline (template a steps) (pipeline a steps))] := by
  have hparse := parseTemplate_print (pipeline a steps) (printable_pipeline a steps)
  rwa [← toList_template, String.ofList_toList] at hparse

end Arithmetic

namespace Environment

variable {env : Environment}

/-! ## Running the stages -/

/-- The arithmetic filters are the built-in ones. -/
def Calculates (env : Environment) : Prop :=
  ∀ o : Operator, ∃ d, env.findFilterOfKind o.name 2 .value = some d ∧ d.body = .value o.filter

theorem stageArgs_call (fuel : Nat) (step : Step) :
    env.stageArgs (fuel + 2) (Stage.ofCall step.call) = pure [.int step.operand] := rfl

/-- The stage of a step hands on the exact result. -/
theorem handOn_call (fuel : Nat) {step : Step} {a r : Int64} {d : FilterDef} (hd : d.body = .value step.operator.filter)
    (hdefined : step.operator.Defined a.toInt step.operand.toInt) (hr : Decimal.int64? (step.result a.toInt) = some r) :
    env.handOn (fuel + 2) d (Stage.ofCall step.call) (.int a) = pure (.int r) := by
  have hfilter := filter_int step.operator env.site.surroundings hdefined hr
  simp only [handOn, stageArgs_call, applyValue, hd, callValue, hfilter, pure_bind]
  rfl

/-- The stages of an exact computation come to its result, wherever they stand in a pipeline. -/
theorem runStages_calls (h : env.Calculates) (fuel : Nat) (access : BlockAccess) {a : Int64} {steps : List Step}
    (hexact : Exact a.toInt steps) :
    ∃ r : Int64, r.toInt = total a.toInt steps ∧ ∀ position,
      env.runStages (fuel + 2) access position ((steps.map Step.call).map Stage.ofCall) (.int a) = pure (.value (.int r)) := by
  induction steps generalizing a with
  | nil => exact ⟨a, rfl, fun position => rfl⟩
  | cons step steps ih =>
    obtain ⟨hdefined, hrange, hrest⟩ := hexact
    have hr := int64?_eq_some hrange
    have hvalue := Decimal.toInt_of_int64? hr
    rw [← hvalue] at hrest
    obtain ⟨r, htotal, hruns⟩ := ih hrest
    obtain ⟨d, hd, hbody⟩ := h step.operator
    refine ⟨r, by rw [htotal, total_cons, hvalue], fun position => ?_⟩
    rw [List.map_cons, List.map_cons, runStages_value hd, handOn_call fuel hbody hdefined hr, pure_bind, hruns]

/-- A pipeline whose value is not null is written as the format of the page writes this value. -/
theorem run_writeVariable_of_value {v : Variable} {value : Value} {fuel : Nat} {access : BlockAccess} (hnull : value ≠ .null)
    (h : env.evaluatePipeline fuel access v.initial v.stages = pure (.value value)) (s : Session) :
    (env.writeVariable fuel access v).run s =
      { output := Utf8.encode (s.scope.format.encode value), outcome := .ok (), state := s } := by
  unfold writeVariable
  rw [h]
  cases value with
  | null => exact absurd rfl hnull
  | bool | int | float | string | raw | array | object | expression => rfl

/-- The template of an exact computation is written as the decimal text of its result. -/
theorem run_writeFragments_template (h : env.Calculates) (fuel : Nat) {a : Int64} {steps : List Step}
    (hexact : Exact a.toInt steps) {s : Session} (hformat : s.scope.format ∈ Site.builtInFormats) :
    (env.writeFragments (fuel + 3) (parseTemplate (template a steps).toList)).run s =
      { output := Utf8.encode (toString (total a.toInt steps)), outcome := .ok (), state := s } := by
  obtain ⟨r, htotal, hruns⟩ := runStages_calls h fuel (env.access (fuel + 2)) hexact
  have hpipeline : env.evaluatePipeline (fuel + 2) (env.access (fuel + 2)) (pipeline a steps).initial
      (pipeline a steps).stages = pure (.value (.int r)) := hruns 0
  have hwrite := run_writeVariable_of_value (v := .ofPipeline (template a steps) (pipeline a steps)) (by simp) hpipeline s
  rw [encode_int hformat, htotal] at hwrite
  rw [writeFragments_succ, parseTemplate_template]
  simp only [List.forM, writeFragment]
  rw [Emit.Stable.run_bind_ok (congrArg Emission.outcome hwrite), hwrite]
  simp only [Pure.pure, Emit.pure, List.append_nil]

end Environment

/-! ## Sites -/

/-- A site that computes with integers: its arithmetic filters are the built-in ones, and templates without a format of their own
are in a built-in one. -/
structure Site.Calculates (site : Site) : Prop where
  filters : ∀ o : Operator, ∃ d, site.filters.find? .value o.name 2 = some d ∧ d.body = .value o.filter
  format : ∃ f ∈ builtInFormats, site.formats.head? = some f

theorem find?_builtIn (o : Operator) :
    BuiltIn.filters.find? (·.answers .value o.name 2) = some (BuiltIn.value o.name 2 o.filter) := by
  cases o <;> rfl

/-- A site without formats of its own computes with integers if its own filters have other names. -/
theorem Site.calculates_build (settings : Settings) {filters : List FilterDef} (transformers : List (String × Transformer))
    (h : ∀ d ∈ filters, ∀ o : Operator, d.name ≠ o.name) : (Site.build settings [] filters transformers).Calculates where
  filters o := by
    refine ⟨BuiltIn.value o.name 2 o.filter, ?_, rfl⟩
    have hown : filters.find? (·.answers .value o.name 2) = none := by
      rw [List.find?_eq_none]
      intro d hd
      simp [FilterDef.answers, h d hd o]
    rw [Site.filters_build, find?_ofList, List.find?_append, hown, Option.none_or, find?_builtIn]
  format := ⟨.html, by simp [builtInFormats], rfl⟩

theorem Site.Calculates.template {site : Site} (h : site.Calculates) (args : Table Value) :
    (site.templateEnvironment args).Calculates := h.filters

/-- **Integer pipelines.** The template of a computation in which every exact result is a 64-bit integer, no step divides by zero and
no quotient has a remainder is evaluated to the decimal text of its exact result, whatever the integers and the number of steps
are. -/
theorem evaluateTemplate_computation {site : Site} (hsite : site.Calculates) {a : Int64} {steps : List Step}
    (h : Exact a.toInt steps) {e : Engine} (he : e.TempFilesDistinct) (args : Table Value) (fuel : Nat) :
    ∃ e', (site.evaluateTemplate (fuel + 3) (template a steps) args).run e =
        { output := [], outcome := .ok (toString (total a.toInt steps)), state := e' } ∧ e'.TempFilesDistinct := by
  obtain ⟨f, hbuiltIn, hf⟩ := hsite.format
  obtain ⟨cs, hcs⟩ : ∃ cs, (template a steps).toList = '\x7b' :: cs := ⟨_, toList_template a steps⟩
  refine Site.run_evaluateTemplate_of_writes hf he ?_ ?_ fun c engine _ hfragments => ?_
  · rw [hcs]
    exact fun hmark => absurd (Option.some.inj hmark) (by decide)
  · rw [hcs]
    exact not_opens_of_brace hbuiltIn cs
  · rw [hfragments]
    exact Environment.run_writeFragments_template (hsite.template args) fuel h hbuiltIn

/-- Steps with each of the filters. -/
def mixedSteps : List Step :=
  [⟨.add, 9⟩, ⟨.mod, -7⟩, ⟨.multiply, -6⟩, ⟨.divide, 2⟩, ⟨.subtract, 5⟩]

theorem template_mixedSteps : template Int64.minValue mixedSteps =
    "\x7b\x7b -9223372036854775808 | add(9) | mod(-7) | multiply(-6) | divide(2) | subtract(5) \x7d\x7d" := by
  decide +kernel

/-- So it is for one that starts with the least integer. -/
theorem evaluateTemplate_mixedSteps :
    plainSite.Calculates ∧ Exact Int64.minValue.toInt mixedSteps ∧ emptyEngine.TempFilesDistinct ∧
      ∃ e, (plainSite.evaluateTemplate 3
          "\x7b\x7b -9223372036854775808 | add(9) | mod(-7) | multiply(-6) | divide(2) | subtract(5) \x7d\x7d" []).run
            emptyEngine = { output := [], outcome := .ok "13", state := e } ∧ e.TempFilesDistinct := by
  have hsite : plainSite.Calculates := Site.calculates_build {} [] nofun
  have hexact : Exact Int64.minValue.toInt mixedSteps := by
    decide +kernel
  have hfiles : emptyEngine.TempFilesDistinct := tempFilesDistinct_over _
  have hresult := evaluateTemplate_computation hsite hexact hfiles [] 0
  have htotal : toString (total Int64.minValue.toInt mixedSteps) = "13" := by
    decide +kernel
  rw [template_mixedSteps, htotal, Nat.zero_add] at hresult
  exact ⟨hsite, hexact, hfiles, hresult⟩

end PageTemplates
