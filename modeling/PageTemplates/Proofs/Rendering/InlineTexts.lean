import PageTemplates.Proofs.Evaluation.BlockChains
import PageTemplates.Proofs.Rendering.OneTimePages
import PageTemplates.Proofs.Syntax.DoubledSpans

/-!
# Inline templates without expressions

An inline template in which nothing between braces is a pipeline is meant to be written as it is, once for every item. What is
written is the text with every brace doubled, so it is the text only where there is no brace or no item
(`select_of_noPipeline`).
-/

namespace PageTemplates

open Emit

/-- The bytes of a text, a number of times. -/
def copies (n : Nat) (text : String) : Bytes :=
  (List.replicate n (Utf8.encode text)).flatten

theorem copies_succ (n : Nat) (text : String) : copies (n + 1) text = Utf8.encode text ++ copies n text := by
  rw [copies, List.replicate_succ, List.flatten_cons]
  rfl

/-- Equally many copies are the same only of one text. -/
theorem copies_eq_iff {n : Nat} {a b : String} : copies n a = copies n b ↔ n = 0 ∨ a = b := by
  cases n with
  | zero => simp [copies]
  | succ n =>
    constructor
    · intro h
      have hlength := congrArg List.length h
      simp only [copies, List.length_flatten, List.map_replicate, List.sum_replicate_nat] at hlength
      rw [copies_succ, copies_succ] at h
      have hcode := (List.append_inj h (Nat.eq_of_mul_eq_mul_left (Nat.succ_pos n) hlength)).1
      have hdecode := congrArg Utf8.decode? hcode
      rw [Utf8.decode?_encode, Utf8.decode?_encode] at hdecode
      exact Or.inr (Option.some.inj hdecode)
    · rintro (h | rfl)
      · exact absurd h (Nat.succ_ne_zero n)
      · rfl

namespace Environment

variable (env : Environment) (fuel : Nat)

/-- A text is written as it is. -/
theorem run_writeFragments_textFragment (cs : List Char) (s : Session) :
    (env.writeFragments (fuel + 1) (textFragment cs)).run s =
      { output := Utf8.encode (String.ofList cs), outcome := .ok (), state := s } := by
  rw [writeFragments_succ]
  cases cs with
  | nil => rfl
  | cons c cs =>
    rw [textFragment_of_ne_nil (List.cons_ne_nil c cs)]
    simp only [List.forM, writeFragment, bind_pure_unit]
    rfl

/-- A template that is a text is written once for every item. -/
theorem exists_run_forItems_textFragment (cs : List Char) (i : Nat) (items : List Value) (s : Session) :
    ∃ t, (Blocks.forItems (env.inlineItem (textFragment cs) (fuel + 1)) i items).run s =
      { output := copies items.length (String.ofList cs), outcome := .ok (), state := t } := by
  induction items generalizing i s with
  | nil => exact ⟨s, rfl⟩
  | cons item items ih =>
    have hitem : ((env.inlineItem (textFragment cs) (fuel + 1)) item i).run s =
        { output := Utf8.encode (String.ofList cs), outcome := .ok (), state := s.inside (itemScope item i) } := by
      rw [inlineItem, Emit.Stable.run_bind_ok (x := ofEval (Eval.modifyScope (itemScope item i))) (a := ()) rfl]
      exact run_writeFragments_textFragment env fuel cs _
    obtain ⟨t, ht⟩ := ih (i + 1) (s.inside (itemScope item i))
    refine ⟨t, ?_⟩
    rw [Blocks.forItems, Emit.Stable.run_bind_ok (congrArg Emission.outcome hitem), hitem, ht, List.length_cons, copies_succ]

variable {s : Session} {arg : Value} {text : String}

/-- With caches that tell the truth, the inline text is parsed. -/
theorem exists_run_parsed (hs : s.engine.Truthful) (text : String) :
    ∃ t, (ofEval (Scoping.parsed .inlineTemplate text (.ok (Blocks.parseInline text)))).run s =
      { output := [], outcome := .ok (Blocks.parseInline text), state := t } := by
  obtain ⟨hanswer, -⟩ := hs.getOrBuild .inlineTemplate text
  have hrun := Scoping.run_parsed .inlineTemplate text (.ok (Blocks.parseInline text)) s
  rw [show (s.engine.cache.getOrBuild .inlineTemplate text (.ok (Blocks.parseInline text))).1 =
    .ok (Blocks.parseInline text) from hanswer] at hrun
  exact ⟨_, hrun⟩

/-- So `select` writes an inline text that is parsed as a text, once for every item. -/
theorem exists_run_select (hs : s.engine.Truthful) (items : List Value) (harg : arg.text? = some text) {cs : List Char}
    (hparse : Blocks.parseInline text = textFragment cs) :
    ∃ t, (Blocks.select (env.access (fuel + 1)) (.array items) [arg]).run s =
      { output := copies items.length (String.ofList cs), outcome := .ok (), state := t } := by
  have htext : Argument.text "select" [arg] 0 = .ok text := by
    simp [Argument.text, harg]
  obtain ⟨u, hu⟩ := exists_run_parsed hs text
  obtain ⟨t, ht⟩ := exists_run_forItems_textFragment env fuel cs 0 items (u.inside outsideItems)
  rw [← hparse] at ht
  have hattempt : (attempt (Blocks.forItems (env.inlineItem (Blocks.parseInline text) (fuel + 1)) 0 items)).run
      (u.inside outsideItems) = { output := copies items.length (String.ofList cs), outcome := .ok (.ok ()), state := t } := by
    simp only [attempt, ht]
  refine ⟨t.inside fun scope => (scope.restoreLocal "it" (Table.get? u.scope.locals "it")).restoreLocal "index"
    (Table.get? u.scope.locals "index"), ?_⟩
  rw [Blocks.select, htext]
  refine (run_bind_of_ok (run_ofExcept_ok text s)).trans ?_
  refine (run_bind_of_ok hu).trans ?_
  refine (run_bind_of_ok (x := ofEval Eval.scope) (a := u.scope) (t := u) rfl).trans ?_
  refine (run_bind_of_ok (x := ofEval (Eval.modifyScope outsideItems)) (a := ()) (t := u.inside outsideItems) rfl).trans ?_
  refine (Emit.Stable.run_bind_ok (congrArg Emission.outcome hattempt)).trans ?_
  rw [hattempt, Emission.mk.injEq]
  exact ⟨List.append_nil _, rfl, rfl⟩

end Environment

/-- **Inline texts.** An inline text without double braces in which nothing between braces is a pipeline is written with every
brace doubled, once for every item, if no code in it takes in a brace. So it is written as it is only if there is no item or
no brace. -/
theorem select_of_noPipeline (env : Environment) (fuel : Nat) {s : Session} (hs : s.engine.Truthful) (items : List Value)
    {arg : Value} {text : String} (harg : arg.text? = some text) (hsingle : ¬['\x7b', '\x7b'] <:+: text.toList)
    (hno : NoPipeline text.toList) (hclear : CodesClear text.toList) :
    let r := (Blocks.select (env.access (fuel + 1)) (.array items) [arg]).run s
    r.outcome = .ok () ∧ r.output = copies items.length (String.ofList (doubled text.toList)) ∧
      (r.output = copies items.length text ↔ items = [] ∨ ∀ c ∈ text.toList, isBrace c = false) := by
  obtain ⟨t, ht⟩ := Environment.exists_run_select env fuel hs items harg
    (parseInline_of_noPipeline hsingle hno hclear)
  have hsame : String.ofList (doubled text.toList) = text ↔ ∀ c ∈ text.toList, isBrace c = false := by
    rw [← doubled_eq_self_iff, ← String.toList_inj, String.toList_ofList]
  intro r
  refine ⟨congrArg Emission.outcome ht, congrArg Emission.output ht, ?_⟩
  rw [show r.output = _ from congrArg Emission.output ht, copies_eq_iff, hsame, List.length_eq_zero_iff]

/-! ## A style sheet -/

/-- A rule of a style sheet. -/
def styleText : String :=
  "b \x7b color: red; \x7d"

theorem toList_styleText : styleText.toList = ['b', ' '] ++ '\x7b' :: (" color: red; ".toList ++ ['\x7d']) := by
  decide +kernel

/-- The only text between its braces is no pipeline. -/
theorem noPipeline_styleText : NoPipeline styleText.toList := by
  have hparse : (parsePipeline " color: red; ".toList).toOption.isSome = false := by
    cbv
  intro before inner after p h hp
  rw [toList_styleText] at h
  obtain ⟨-, -, hrest⟩ := (List.append_cons_inj_of_notMem (by decide) (by decide)).1 h
  obtain ⟨rfl, -, -⟩ := (List.append_cons_inj_of_notMem (by decide) (by decide)).1 hrest
  rw [hp] at hparse
  exact Bool.noConfusion hparse

theorem single_styleText : ¬['\x7b', '\x7b'] <:+: styleText.toList := by
  decide +kernel

/-- There is no code in it. -/
theorem codesClear_styleText : CodesClear styleText.toList := by
  intro before after h
  have hmem : '\\' ∈ styleText.toList := by
    rw [h]
    simp
  exact absurd hmem (by decide +kernel)

theorem doubled_styleText : String.ofList (doubled styleText.toList) = "b \x7b\x7b color: red; \x7d\x7d" := by
  decide +kernel

/-- So it is for two items. -/
theorem select_of_noPipeline_styleText :
    selfSession.engine.Truthful ∧ ¬['\x7b', '\x7b'] <:+: styleText.toList ∧ NoPipeline styleText.toList ∧
      CodesClear styleText.toList ∧
      ((Blocks.select ((plainSite.templateEnvironment []).access 1) (.array [.int 1, .int 2]) [.string styleText]).run
          selfSession).output = copies 2 "b \x7b\x7b color: red; \x7d\x7d" := by
  have hs : selfSession.engine.Truthful := ⟨nofun, nofun⟩
  have harg : (Value.string styleText).text? = some styleText := rfl
  obtain ⟨-, hwritten, -⟩ := select_of_noPipeline (plainSite.templateEnvironment []) 0 hs [.int 1, .int 2]
    harg single_styleText noPipeline_styleText codesClear_styleText
  rw [doubled_styleText, Nat.zero_add] at hwritten
  exact ⟨hs, single_styleText, noPipeline_styleText, codesClear_styleText, hwritten⟩

/-- The rule is not written as it is for a single item, though nothing in it is an expression. -/
theorem select_doubles_styleText :
    selfSession.engine.Truthful ∧ ¬['\x7b', '\x7b'] <:+: styleText.toList ∧ NoPipeline styleText.toList ∧
      ((Blocks.select ((plainSite.templateEnvironment []).access 1) (.array [.int 1]) [.string styleText]).run
          selfSession).output ≠ copies 1 styleText := by
  have hs : selfSession.engine.Truthful := ⟨nofun, nofun⟩
  have harg : (Value.string styleText).text? = some styleText := rfl
  have hparse := parseInline_of_noPipeline single_styleText noPipeline_styleText codesClear_styleText
  obtain ⟨t, ht⟩ := Environment.exists_run_select (plainSite.templateEnvironment []) 0 hs [.int 1] harg hparse
  refine ⟨hs, single_styleText, noPipeline_styleText, ?_⟩
  rw [doubled_styleText, Nat.zero_add] at ht
  intro h
  rcases copies_eq_iff.1 ((congrArg Emission.output ht).symm.trans h) with h | h
  · exact absurd h (by decide)
  · exact absurd h (by decide +kernel)

end PageTemplates
