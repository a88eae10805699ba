import PageTemplates.Proofs.Syntax.Printing
import PageTemplates.Proofs.Syntax.Stages

/-!
# Arguments after a colon

A text after a colon is the argument of a stage up to the next bar that stands outside of groups. Main statement: a text
without quotes and with balanced braces, written after a colon, is the argument that the same text in quotes between
parentheses is, whatever pipeline it stands in (`parsePipeline_quoted_iff_colon`).
-/

namespace PageTemplates

/-! ## Texts that the scan for a bar takes whole -/

/-- With some groups open before a text, one is open at each of its closing braces and bars. -/
def Grouped (depth : Nat) (r : List Char) : Prop :=
  ∀ i < r.length, r[i]? = some '\x7d' ∨ r[i]? = some '|' →
    (r.take i).count '\x7d' < depth + (r.take i).count '\x7b'

instance (depth : Nat) (r : List Char) : Decidable (Grouped depth r) :=
  inferInstanceAs (Decidable (∀ i < r.length, _))

/-- A text without quotes whose braces are balanced and that has no bar outside of braces. -/
structure IsColonText (r : List Char) : Prop where
  unquoted : ∀ c ∈ r, isQuote c = false
  grouped : Grouped 0 r
  closed : r.count '\x7d' = r.count '\x7b'

/-- A group that a text opens is open in the rest of it. -/
theorem Grouped.of_cons {depth d : Nat} {c : Char} {r : List Char} (h : Grouped depth (c :: r))
    (hd : depth + (if c = '\x7b' then 1 else 0) = d + (if c = '\x7d' then 1 else 0)) : Grouped d r := by
  intro i hi hc
  have hmore := h (i + 1) (by simpa using hi) (by simpa using hc)
  simp only [List.take_succ_cons, List.count_cons, beq_iff_eq] at hmore
  omega

theorem Grouped.pos_of_mark {depth : Nat} {c : Char} {r : List Char} (h : Grouped depth (c :: r))
    (hc : c = '\x7d' ∨ c = '|') : 0 < depth := by
  have := h 0 (by simp) (by simpa using hc)
  simpa using this

/-- The scan for a bar goes through a text without quotes to the bar after it, if the text closes the groups that are open. -/
theorem splitBarFrom_outside {r tail : List Char} (htail : tail = [] ∨ tail.head? = some '|') {depth : Nat}
    (hplain : ∀ c ∈ r, isQuote c = false) (h : Grouped depth r) (hclosed : r.count '\x7d' = depth + r.count '\x7b') :
    splitBarFrom (.outside depth) (r ++ tail) = (r, tail) := by
  induction r generalizing depth with
  | nil =>
    obtain rfl : depth = 0 := by simpa using hclosed.symm
    cases tail with
    | nil => rfl
    | cons c tail =>
      obtain rfl : c = '|' := by simpa using htail
      simp [splitBarFrom]
  | cons c r ih =>
    obtain ⟨hc, hplain⟩ := List.forall_mem_cons.1 hplain
    have hgo : ¬(ScanState.outside depth = .outside 0 ∧ c = '|') := by
      rintro ⟨hdepth, rfl⟩
      have hpos := h.pos_of_mark (Or.inr rfl)
      rw [ScanState.outside.injEq] at hdepth
      omega
    have next : ∀ d, (ScanState.outside depth).step c = .outside d →
        depth + (if c = '\x7b' then 1 else 0) = d + (if c = '\x7d' then 1 else 0) →
        splitBarFrom (.outside depth) (c :: r ++ tail) = (c :: r, tail) := by
      intro d hstep hd
      rw [List.count_cons, List.count_cons] at hclosed
      have hrest := ih hplain (h.of_cons hd) (by simp only [beq_iff_eq] at hclosed; omega)
      rw [List.cons_append, splitBarFrom, if_neg hgo, hstep, hrest]
    by_cases hopen : c = '\x7b'
    · subst hopen
      exact next (depth + 1) (by simp [ScanState.step, hc]) (by simp)
    · by_cases hclose : c = '\x7d'
      · subst hclose
        have hpos := h.pos_of_mark (Or.inl rfl)
        exact next (depth - 1) (by simp [ScanState.step, hc]) (by simp; omega)
      · exact next depth (by simp [ScanState.step, hc, hopen, hclose]) (by simp [hopen, hclose])

theorem IsColonText.splitBar {r tail : List Char} (h : IsColonText r) (htail : tail = [] ∨ tail.head? = some '|') :
    splitBar (' ' :: (r ++ tail)) = (' ' :: r, tail) := by
  have hscan := splitBarFrom_outside htail h.unquoted h.grouped (by rw [h.closed, Nat.zero_add])
  have hstep : (ScanState.outside 0).step ' ' = .outside 0 := rfl
  rw [PageTemplates.splitBar, splitBarFrom, if_neg (by decide), hstep, hscan]

/-! ## The text of an argument -/

/-- A text without quotes is no string literal. -/
theorem ne_string_of_parseExpression {text : List Char} (h : ∀ c ∈ text, isQuote c = false) {e : Expression}
    (he : parseExpression text = .ok e) (s : String) : e ≠ .literal (.string s) := by
  obtain ⟨rest, hr, -⟩ := parseExpression_eq_ok.1 he
  rintro rfl
  cases hr with
  | @string _ w t ds start literal =>
    obtain ⟨quote, body, rfl, hq, -⟩ := literal
    have hstart : quote ∈ Text.trimStart text := by simp [start]
    have hmem : quote ∈ text := (List.dropWhile_suffix Text.isBlank).subset hstart
    exact Bool.false_ne_true ((h quote hmem).symm.trans hq)
  | number start number =>
    obtain ⟨-, -, isFloat, -, -, -, -, -, hv⟩ := number
    unfold numberValue? at hv
    cases isFloat <;> simp only [if_true, if_false, Bool.false_eq_true] at hv
    · split at hv <;> simp at hv
    · simp at hv
  | reserved start name word =>
    unfold reserved? at word
    split at word
    · simp at word
    · split at word
      · simp at word
      · split at word <;> simp at word

/-- A text without quotes after a colon stands for itself, trimmed. -/
theorem colonArgument_of_unquoted {r : List Char} (h : ∀ c ∈ r, isQuote c = false) (hne : Text.trim r ≠ []) :
    colonArgument (' ' :: r) = [.string (String.ofList (Text.trim r))] := by
  have hblank : Text.trim (' ' :: r) = Text.trim r := rfl
  have htrim : ∀ c ∈ Text.trim r, isQuote c = false := fun c hc =>
    h c ((List.dropWhile_suffix Text.isBlank).subset ((trimEnd_isPrefixOf _).subset hc))
  have hempty : (Text.trim r).isEmpty = false := by simpa using hne
  simp only [colonArgument, hblank, hempty, if_false, Bool.false_eq_true]
  split
  · rename_i s hs
    exact absurd rfl (ne_string_of_parseExpression htrim hs s)
  · rfl

/-- A string literal between parentheses is the argument. -/
theorem readsArguments_quoted_iff {args : List Expression} {s tail ds : List Char} :
    ReadsArguments args ('(' :: (StringLiteral.print s ++ ')' :: tail)) ds ↔
      args = [.string (String.ofList s)] ∧ ds = tail := by
  have hliteral : SpellsString anyLiteral (StringLiteral.print s) s := by
    obtain ⟨quote, body, hw, hq, hr, -⟩ := spellsString_print s
    exact ⟨quote, body, hw, hq, hr, trivial⟩
  have hitem : Reads anyLiteral (.moreItems ')' [.string (String.ofList s)]) (StringLiteral.print s ++ ')' :: tail) tail :=
    .lastItem (.string (trimStart_print s _) hliteral) (trimStart_cons _ (by decide)) (by decide)
  have hitems : Reads anyLiteral (.items ')' [.string (String.ofList s)]) (StringLiteral.print s ++ ')' :: tail) tail :=
    .someItems (by rw [trimStart_print]; exact startsNot_cons.2 (by decide)) hitem
  have hparen : Text.trimStart ('(' :: (StringLiteral.print s ++ ')' :: tail)) =
      '(' :: (StringLiteral.print s ++ ')' :: tail) := trimStart_cons _ (by decide)
  constructor
  · intro h
    cases h with
    | list start items =>
      obtain ⟨-, rfl⟩ := List.cons.inj (start.symm.trans hparen)
      exact items.items_unique hitems
    | colon start => simp [hparen] at start
    | none start =>
      rw [hparen] at start
      exact absurd (startsNot_cons.1 start) (by decide)
  · rintro ⟨rfl, rfl⟩
    exact .list hparen hitems

/-- The text after a colon is the argument. -/
theorem readsArguments_colon_iff {args : List Expression} {r tail ds : List Char} (h : IsColonText r) (hne : Text.trim r ≠ [])
    (htail : tail = [] ∨ tail.head? = some '|') :
    ReadsArguments args (':' :: ' ' :: (r ++ tail)) ds ↔
      args = [.string (String.ofList (Text.trim r))] ∧ ds = tail := by
  have hcolon : Text.trimStart (':' :: ' ' :: (r ++ tail)) = ':' :: ' ' :: (r ++ tail) := trimStart_cons _ (by decide)
  have hread : ReadsArguments (colonArgument (splitBar (' ' :: (r ++ tail))).1) (':' :: ' ' :: (r ++ tail))
      (splitBar (' ' :: (r ++ tail))).2 := .colon hcolon
  rw [h.splitBar htail, colonArgument_of_unquoted h.unquoted hne] at hread
  constructor
  · intro h'
    cases h' with
    | list start => simp [hcolon] at start
    | @colon _ cs' start =>
      obtain ⟨-, rfl⟩ := List.cons.inj (start.symm.trans hcolon)
      rw [h.splitBar htail, colonArgument_of_unquoted h.unquoted hne]
      exact ⟨rfl, rfl⟩
    | none start =>
      rw [hcolon] at start
      exact absurd (startsNot_cons.1 start) (by decide)
  · rintro ⟨rfl, rfl⟩
    exact hread

/-! ## Both forms in a pipeline -/

/-- A pipeline that goes on, after an expression, with a stage: its name, the text of its arguments, and what comes after. -/
def withStage (text name arguments tail : List Char) : List Char :=
  text ++ (' ' :: '|' :: ' ' :: (name ++ (arguments ++ tail)))

/-- The initial expression, the name of the stage and the stages after it do not depend on how the arguments are written. -/
theorem parsePipeline_withStage_eq_ok {text name arguments tail : List Char} {e : Expression} {args : List Expression}
    (he : parseExpression text = .ok e) (hn : IsName name) (hends : StartsNot isNameChar (arguments ++ tail))
    (hargs : ∀ args' ds, ReadsArguments args' (arguments ++ tail) ds ↔ args' = args ∧ ds = tail) {p : Pipeline} :
    parsePipeline (withStage text name arguments tail) = .ok p ↔
      p.initial = e ∧ ∃ more, p.stages = { name := String.ofList name, args } :: more ∧ ReadsStages more tail := by
  have hbar : Text.trimStart (' ' :: '|' :: ' ' :: (name ++ (arguments ++ tail))) =
      '|' :: ' ' :: (name ++ (arguments ++ tail)) := rfl
  have hstart : Text.trimStart (' ' :: (name ++ (arguments ++ tail))) = name ++ (arguments ++ tail) :=
    hn.trimStart_append _
  rw [withStage, parsePipeline_append_eq_ok he (by rw [StartsBar, hbar]; rfl), readsStages_bar_iff hbar hstart hn hends]
  refine and_congr_right fun _ => ⟨?_, ?_⟩
  · rintro ⟨args', ds, more, hstages, hread, hmore⟩
    obtain ⟨rfl, rfl⟩ := (hargs args' ds).1 hread
    exact ⟨more, hstages, hmore⟩
  · rintro ⟨more, hstages, hmore⟩
    exact ⟨args, tail, more, hstages, (hargs args tail).2 ⟨rfl, rfl⟩, hmore⟩

/-- A stage with a text after a colon is the stage with the trimmed text as a string literal between parentheses: one pipeline
parses exactly if the other does, and both are the same. -/
theorem parsePipeline_quoted_iff_colon {text name r tail : List Char} {e : Expression} (he : parseExpression text = .ok e)
    (hn : IsName name) (hr : IsColonText r) (hne : Text.trim r ≠ []) (htail : tail = [] ∨ tail.head? = some '|')
    (p : Pipeline) :
    parsePipeline (withStage text name ('(' :: (StringLiteral.print (Text.trim r) ++ [')'])) tail) = .ok p ↔
      parsePipeline (withStage text name (':' :: ' ' :: r) tail) = .ok p := by
  have hquoted : ∀ args ds, ReadsArguments args ('(' :: (StringLiteral.print (Text.trim r) ++ [')']) ++ tail) ds ↔
      args = [.string (String.ofList (Text.trim r))] ∧ ds = tail := by
    intro args ds
    rw [List.cons_append, List.append_assoc]
    exact readsArguments_quoted_iff
  rw [parsePipeline_withStage_eq_ok he hn (startsNot_cons.2 (by decide)) hquoted,
    parsePipeline_withStage_eq_ok he hn (startsNot_cons.2 (by decide)) fun _ _ => readsArguments_colon_iff hr hne htail]

/-- A backslash, a bar and an inner group in braces, a letter of two bytes, and a stage after it. -/
theorem parsePipeline_quoted_iff_colon_braces :
    parseExpression "a.b".toList = .ok (.binding { text := "a.b", head := "a", steps := [.member "b"] }) ∧
      IsName "or".toList ∧ IsColonText " \x7ba | \x7b\\é\x7d\x7d ".toList ∧
      Text.trim " \x7ba | \x7b\\é\x7d\x7d ".toList ≠ [] ∧ "| up".toList.head? = some '|' ∧
      parsePipeline "a.b | or('\x7ba | \x7b\\\\é\x7d\x7d')| up".toList =
        .ok { initial := .binding { text := "a.b", head := "a", steps := [.member "b"] },
              stages := [{ name := "or", args := [.string "\x7ba | \x7b\\é\x7d\x7d"] }, { name := "up", args := [] }] } ∧
      parsePipeline "a.b | or:  \x7ba | \x7b\\é\x7d\x7d | up".toList =
        .ok { initial := .binding { text := "a.b", head := "a", steps := [.member "b"] },
              stages := [{ name := "or", args := [.string "\x7ba | \x7b\\é\x7d\x7d"] }, { name := "up", args := [] }] } := by
  have he : parseExpression "a.b".toList = .ok (.binding { text := "a.b", head := "a", steps := [.member "b"] }) := by rfl
  have hn : IsName "or".toList := ⟨'o', ['r'], rfl, rfl, List.all_eq_true.1 rfl⟩
  have hunquoted : (" \x7ba | \x7b\\é\x7d\x7d ".toList.all (isQuote · == false)) = true := rfl
  have hr : IsColonText " \x7ba | \x7b\\é\x7d\x7d ".toList :=
    ⟨fun c hc => beq_iff_eq.1 (List.all_eq_true.1 hunquoted c hc), by decide, by decide⟩
  have hne : Text.trim " \x7ba | \x7b\\é\x7d\x7d ".toList ≠ [] := by decide +kernel
  have htail : "| up".toList = [] ∨ "| up".toList.head? = some '|' := Or.inr rfl
  have hquoted : parsePipeline "a.b | or('\x7ba | \x7b\\\\é\x7d\x7d')| up".toList =
      .ok { initial := .binding { text := "a.b", head := "a", steps := [.member "b"] },
            stages := [{ name := "or", args := [.string "\x7ba | \x7b\\é\x7d\x7d"] }, { name := "up", args := [] }] } := by
    rfl
  exact ⟨he, hn, hr, hne, rfl, hquoted,
    (parsePipeline_quoted_iff_colon he hn hr hne htail _).1 hquoted⟩

end PageTemplates
