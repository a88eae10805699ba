import PageTemplates.Format
import PageTemplates.Proofs.Filters.Provenance

/-!
# Escaping

HTML pages write raw text as it is, and the text of any other value in HTML form. Main statements: a text in HTML form has no
markup (`Text.escaped_escapeHtml`), and so has what HTML pages write for the result of built-in value filters other than `raw`
and `json` that got no raw text, in a chain (`BuiltIn.escaped_encode_chain`) or as the stages of a pipeline
(`Environment.returns_escaped`).
-/

namespace PageTemplates

/-! ## Text without markup -/

namespace Text

/-- The characters that mean something in HTML. -/
def htmlCharacters : List Char :=
  ['&', '<', '>', '"', '\x27']

/-- Text without markup: of the characters that mean something in HTML only `&` occurs, and only as the first character of one of
the entities for them. -/
structure Escaped (cs : List Char) : Prop where
  character : ∀ c ∈ cs, c ∈ htmlCharacters → c = '&'
  entity : ∀ rest, '&' :: rest <:+ cs → ∃ c ∈ htmlCharacters, htmlEntity c <+: '&' :: rest

theorem Escaped.nil : Escaped [] :=
  ⟨by simp, by simp⟩

theorem Escaped.append {cs ds : List Char} (hcs : Escaped cs) (hds : Escaped ds) : Escaped (cs ++ ds) := by
  refine ⟨fun c hc => ?_, fun rest hrest => ?_⟩
  · rcases List.mem_append.1 hc with hc | hc
    · exact hcs.character c hc
    · exact hds.character c hc
  · obtain ⟨before, hbefore⟩ := hrest
    rcases List.append_eq_append_iff.1 hbefore with ⟨middle, hmiddle, hrest⟩ | ⟨middle, -, hmiddle⟩
    · cases middle with
      | nil => exact hds.entity rest ⟨[], hrest⟩
      | cons c middle =>
        obtain ⟨rfl, rfl⟩ := List.cons.inj hrest
        obtain ⟨d, hd, hprefix⟩ := hcs.entity middle ⟨before, hmiddle.symm⟩
        exact ⟨d, hd, hprefix.trans (List.prefix_append _ ds)⟩
    · exact hds.entity rest ⟨middle, hmiddle.symm⟩

/-- The entity of a character that means something begins with `&`, and nothing after it means anything. -/
theorem htmlEntity_of_mem {c : Char} (h : c ∈ htmlCharacters) :
    ∃ name, htmlEntity c = '&' :: name ∧ ∀ d ∈ name, d ∉ htmlCharacters := by
  simp only [htmlCharacters, List.mem_cons, List.not_mem_nil, or_false] at h
  rcases h with rfl | rfl | rfl | rfl | rfl
  · exact ⟨['a', 'm', 'p', ';'], rfl, by simp [htmlCharacters]⟩
  · exact ⟨['l', 't', ';'], rfl, by simp [htmlCharacters]⟩
  · exact ⟨['g', 't', ';'], rfl, by simp [htmlCharacters]⟩
  · exact ⟨['q', 'u', 'o', 't', ';'], rfl, by simp [htmlCharacters]⟩
  · exact ⟨['#', '3', '9', ';'], rfl, by simp [htmlCharacters]⟩

theorem htmlEntity_of_notMem {c : Char} (h : c ∉ htmlCharacters) : htmlEntity c = [c] := by
  simp only [htmlCharacters, List.mem_cons, List.not_mem_nil, or_false, not_or] at h
  obtain ⟨h1, h2, h3, h4, h5⟩ := h
  simp only [htmlEntity, h1, h2, h3, h4, h5, if_false]

theorem escaped_htmlEntity (c : Char) : Escaped (htmlEntity c) := by
  by_cases hc : c ∈ htmlCharacters
  · obtain ⟨name, hentity, hname⟩ := htmlEntity_of_mem hc
    refine ⟨fun d hd hmeans => ?_, fun rest hrest => ⟨c, hc, ?_⟩⟩
    · rw [hentity] at hd
      rcases List.mem_cons.1 hd with rfl | hd
      · rfl
      · exact absurd hmeans (hname d hd)
    · rw [hentity] at hrest ⊢
      rcases List.suffix_cons_iff.1 hrest with hrest | hrest
      · exact hrest ▸ List.prefix_refl _
      · exact absurd (by decide) (hname '&' (hrest.subset List.mem_cons_self))
  · rw [htmlEntity_of_notMem hc]
    refine ⟨fun d hd hmeans => ?_, fun rest hrest => ?_⟩
    · rw [List.mem_singleton.1 hd] at hmeans
      exact absurd hmeans hc
    · have hfirst := List.mem_singleton.1 (hrest.subset List.mem_cons_self)
      exact absurd (hfirst ▸ by decide) hc

/-- A text of characters that mean nothing is its own HTML form. -/
theorem escapeHtml_of_notMem {s : String} (h : ∀ c ∈ s.toList, c ∉ htmlCharacters) : escapeHtml s = s := by
  have hsame : s.toList.map htmlEntity = s.toList.map fun c => [c] :=
    List.map_congr_left fun c hc => htmlEntity_of_notMem (h c hc)
  rw [escapeHtml, List.flatMap_def, hsame, ← List.flatMap_def, List.flatMap_singleton', String.ofList_toList]

/-- A text in HTML form has no markup. -/
theorem escaped_escapeHtml (s : String) : Escaped (escapeHtml s).toList := by
  unfold escapeHtml
  rw [String.toList_ofList]
  induction s.toList with
  | nil => exact .nil
  | cons c cs ih => exact (escaped_htmlEntity c).append ih

end Text

/-! ## What is written -/

/-- A value whose raw texts have no markup. -/
def Value.Escaped (v : Value) : Prop :=
  ∀ text, (Value.raw text).Within v → Text.Escaped text.toList

theorem Value.MadeOf.escaped_of {sources : List Value} {v : Value} (h : MadeOf sources v)
    (hsources : ∀ source ∈ sources, source.Escaped) : v.Escaped := by
  intro text hwithin
  rcases (h.within hwithin).raw with ⟨s, rfl⟩ | ⟨source, hmem, hwithin⟩
  · exact Text.escaped_escapeHtml s
  · exact hsources source hmem text hwithin

/-- HTML pages write such a value without markup. -/
theorem Value.Escaped.encode {v : Value} (h : v.Escaped) : Text.Escaped (PageFormat.html.encode v).toList := by
  cases v with
  | raw s => exact h s .refl
  | null | bool b | int n | float x | string s | array items | object fields | expression e => exact Text.escaped_escapeHtml _

namespace BuiltIn

/-- What one of the built-in value filters does, apart from `raw` and `json`. -/
def Escapes (run : ValueFilter) : Prop :=
  ∃ d ∈ valueFilters, d.body = .value run ∧ d.name ≠ "raw" ∧ d.name ≠ "json"

theorem Escapes.makes {run : ValueFilter} (h : Escapes run) : run.Makes := by
  obtain ⟨d, hd, hbody, hraw, hjson⟩ := h
  obtain ⟨run', hbody', hmakes⟩ := makes_valueFilters hd hraw hjson
  obtain rfl : run = run' := FilterBody.value.inj (hbody.symm.trans hbody')
  exact hmakes

/-- **Escaping.** If a chain of built-in value filters other than `raw` and `json` gives a value, and neither the value that it
starts with nor an argument in it is or holds raw text, then the text that HTML pages write for the value has no markup. -/
theorem escaped_encode_chain {surroundings : Surroundings} {calls : List (ValueFilter × List Value)} {v w : Value}
    (hcalls : ∀ call ∈ calls, Escapes call.1)
    (hinputs : ∀ input ∈ v :: calls.flatMap (·.2), ∀ text, ¬ (Value.raw text).Within input)
    (hrun : calls.foldlM (fun v call => call.1 surroundings v call.2) v = .ok w) :
    Text.Escaped (PageFormat.html.encode w).toList := by
  have hmade := madeOf_chain (fun call hcall => (hcalls call hcall).makes) hrun
  have hescaped : w.Escaped := hmade.escaped_of fun source hsource text hwithin => absurd hwithin (hinputs source hsource text)
  exact hescaped.encode

/-- Texts with characters that mean something in HTML. -/
def markupTexts : Value :=
  .array [.string "<b>", .string "'", .null]

/-- A chain that joins the first texts, encodes them, and would put another text in place of null. -/
def encodingCalls : List (ValueFilter × List Value) :=
  [(Collections.take, [.int 2]), (Texts.join, [.string " & "]), (Texts.htmlEncode, []), (Logic.default, [.string "none"])]

/-- The chain `take(2) | join(' & ') | htmlEncode | default('none')` gives raw text, which is written as it is. -/
theorem escaped_encode_encoding :
    ((∀ call ∈ encodingCalls, Escapes call.1) ∧
      ∀ input ∈ markupTexts :: encodingCalls.flatMap (·.2), ∀ text, ¬ (Value.raw text).Within input) ∧
    encodingCalls.foldlM (fun v call => call.1 default v call.2) markupTexts = .ok (.raw "&lt;b&gt; &amp; &#39;") ∧
    Text.Escaped (PageFormat.html.encode (.raw "&lt;b&gt; &amp; &#39;")).toList := by
  have hcalls : ∀ call ∈ encodingCalls, Escapes call.1 := by
    simp only [encodingCalls, List.forall_mem_cons]
    refine ⟨⟨value "take" 2 Collections.take, ?_, rfl, by decide, by decide⟩,
      ⟨value "join" 2 Texts.join ["separator"], ?_, rfl, by decide, by decide⟩,
      ⟨value "htmlEncode" 1 Texts.htmlEncode, ?_, rfl, by decide, by decide⟩,
      ⟨ofUnknown "default" 2 Logic.default, ?_, rfl, by decide, by decide⟩, List.forall_mem_nil _⟩ <;>
      simp [valueFilters, texts, collections, logic]
  have hplain : ∀ input ∈ encodingCalls.flatMap (·.2), input.IsPlain := by simp [encodingCalls, Value.IsPlain]
  have hitems : ∀ item ∈ [Value.string "<b>", .string "'", .null], item.IsPlain := by simp [Value.IsPlain]
  have hinputs : ∀ input ∈ markupTexts :: encodingCalls.flatMap (·.2), ∀ text, ¬ (Value.raw text).Within input := by
    refine List.forall_mem_cons.2 ⟨fun text hwithin => ?_, fun input hinput text => (hplain input hinput).not_within_raw⟩
    cases hwithin with
    | item hmem hwithin => exact (hitems _ hmem).not_within_raw hwithin
  have hrun : encodingCalls.foldlM (fun v call => call.1 default v call.2) markupTexts =
      .ok (.raw "&lt;b&gt; &amp; &#39;") := by
    rfl
  exact ⟨⟨hcalls, hinputs⟩, hrun, escaped_encode_chain hcalls hinputs hrun⟩

end BuiltIn

/-! ## Pipelines -/

namespace Environment

open Emit

variable {env : Environment}

/-- A stage with a built-in value filter other than `raw` and `json`, whose arguments have raw text without markup only. -/
structure EscapingStage (env : Environment) (fuel : Nat) (stage : Stage) : Prop where
  filter : ∃ d ∈ BuiltIn.valueFilters, env.findFilter stage.name stage.arity = some d ∧ d.name ≠ "raw" ∧ d.name ≠ "json"
  args : Returns (fun args : List Value => ∀ arg ∈ args, arg.Escaped) (env.stageArgs fuel stage)

/-- What such stages give is written without markup, if the value is that they start with. -/
theorem returns_escaped {fuel : Nat} {stages : List Stage} (hstages : ∀ stage ∈ stages, env.EscapingStage fuel stage)
    (access : BlockAccess) (position : Nat) {v : Value} (hv : v.Escaped) (hevaluated : v.hasExpression = false) :
    Returns (fun outcome : Outcome => ∀ w, outcome = .value w → Text.Escaped (PageFormat.html.encode w).toList)
      (env.runStages fuel access position stages v) := by
  induction stages generalizing position v with
  | nil =>
    refine .pure fun w hw => ?_
    obtain rfl := Outcome.value.inj hw
    exact hv.encode
  | cons stage stages ih =>
    obtain ⟨hstage, hstages⟩ := List.forall_mem_cons.1 hstages
    obtain ⟨d, hd, hfind, hraw, hjson⟩ := hstage.filter
    obtain ⟨run, hbody, hmakes⟩ := BuiltIn.makes_valueFilters hd hraw hjson
    rw [runStages, hfind]
    refine ((returns_stageArgs fuel stage).and hstage.args).bind fun args hargs => ?_
    simp only [hbody, ofEval_inFilter]
    have hvalue : Returns (Value.MadeOf (v :: args)) (ofEval (env.callValue run v args)) :=
      .ofExceptEval (hmakes env.site.surroundings v args)
    refine (hvalue.inFilter stage.name).bind fun u hu => ?_
    have hnext := hu.hasExpression_eq_false (List.forall_mem_cons.2 ⟨hevaluated, hargs.1⟩)
    have hescaped := hu.escaped_of (List.forall_mem_cons.2 ⟨hv, hargs.2⟩)
    refine (returns_resolve_self fuel hnext).bind fun w hw => ?_
    exact ih hstages (position + 1) (hw ▸ hescaped) (hw ▸ hnext)

end Environment

end PageTemplates
