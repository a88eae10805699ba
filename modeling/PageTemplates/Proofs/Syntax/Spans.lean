import PageTemplates.Proofs.Syntax.Parsing
import PageTemplates.Proofs.Syntax.Scanning

/-!
# Expressions as spans

An expression between double braces is meant to be a span of its own. Two readers have to agree for that: the parser on what the
expression is, and the scan on where it ends. Main statements: the span of an accepted text is a fragment exactly when the scan
stops at the end of the text and not before (`parseTemplate_span_iff`), which it does when the text's literals are clear; a
code that takes in a quote makes them disagree.
-/

namespace PageTemplates

/-- A text between double braces. -/
def spanText (t : List Char) : List Char :=
  ['\x7b', '\x7b'] ++ t ++ ['\x7d', '\x7d']

/-! ## Where the scan stops -/

/-- The state of the scan after a text, if it does not stop. -/
def ScanState.run (s : ScanState) (w : List Char) : ScanState :=
  w.foldl ScanState.step s

@[simp]
theorem ScanState.run_nil (s : ScanState) : s.run [] = s := rfl

@[simp]
theorem ScanState.run_cons (s : ScanState) (c : Char) (w : List Char) : s.run (c :: w) = (s.step c).run w := rfl

/-- Before two closing braces the scan goes through a text and stops at its end: it is outside of literals and groups there, and
at no closing brace of the text that a closing brace follows. -/
def StopsAtEnd (s : ScanState) (t : List Char) : Prop :=
  s.run t = .outside 0 ∧
    ∀ u v, t = u ++ '\x7d' :: v → s.run u = .outside 0 → v ≠ [] ∧ v.head? ≠ some '\x7d'

theorem stopsAtEnd_nil {s : ScanState} : StopsAtEnd s [] ↔ s = .outside 0 := by
  simp [StopsAtEnd]

/-- The scan that goes on at the first character goes on as from the state after it. -/
theorem stopsAtEnd_cons {s : ScanState} {c : Char} {t : List Char} :
    StopsAtEnd s (c :: t) ↔
      ¬(s = .outside 0 ∧ c = '\x7d' ∧ (t ++ ['\x7d', '\x7d']).head? = some '\x7d') ∧ StopsAtEnd (s.step c) t := by
  constructor
  · rintro ⟨hrun, hstop⟩
    refine ⟨?_, hrun, fun u v ht hu => hstop (c :: u) v (by rw [ht]; rfl) hu⟩
    rintro ⟨rfl, rfl, hhead⟩
    obtain ⟨hne, hne'⟩ := hstop [] t rfl rfl
    cases t with
    | nil => exact hne rfl
    | cons d t => exact hne' hhead
  · rintro ⟨hgo, hrun, hstop⟩
    refine ⟨hrun, fun u v ht hu => ?_⟩
    cases u with
    | nil =>
      obtain ⟨rfl, rfl⟩ := List.cons.inj ht
      refine ⟨?_, fun hhead => hgo ⟨hu, rfl, ?_⟩⟩
      · rintro rfl
        exact hgo ⟨hu, rfl, rfl⟩
      · rw [List.head?_append, hhead]
        rfl
    | cons d u =>
      obtain ⟨rfl, rfl⟩ := List.cons.inj ht
      exact hstop u v rfl hu

theorem splitCloseFrom_eq_some_iff (s : ScanState) (t : List Char) :
    splitCloseFrom s (t ++ ['\x7d', '\x7d']) = some (t, []) ↔ StopsAtEnd s t := by
  induction t generalizing s with
  | nil =>
    rw [stopsAtEnd_nil, List.nil_append, splitCloseFrom]
    by_cases hs : s = .outside 0
    · simp [hs]
    · simp [hs, splitCloseFrom]
  | cons c t ih =>
    rw [stopsAtEnd_cons, List.cons_append, splitCloseFrom]
    split
    · rename_i hstop
      simp [hstop]
    · rename_i hgo
      rw [← ih, Option.map_eq_some_iff]
      constructor
      · rintro ⟨⟨inner, after⟩, hr, he⟩
        simp only [Prod.mk.injEq, List.cons.injEq, true_and] at he
        obtain ⟨rfl, rfl⟩ := he
        exact ⟨hgo, hr⟩
      · rintro ⟨-, hr⟩
        exact ⟨(t, []), hr, rfl⟩

theorem splitClose?_eq_some_iff (t : List Char) :
    splitClose? (t ++ ['\x7d', '\x7d']) = some (t, []) ↔ StopsAtEnd (.outside 0) t :=
  splitCloseFrom_eq_some_iff _ t

/-! ## The pipeline in a span -/

theorem EndsSolid.trimStart {w : List Char} (h : EndsSolid w) : EndsSolid (Text.trimStart w) := by
  obtain ⟨b, -, hw⟩ := exists_blanks w
  intro c hc
  refine h c ?_
  rw [hw, List.getLast?_append, Option.mem_def.1 hc]
  rfl

/-- Blanks at the end of a text are trimmed. -/
theorem trimEnd_append (cs : List Char) {b : List Char} (hb : ∀ c ∈ b, Text.isBlank c = true) :
    Text.trimEnd (cs ++ b) = Text.trimEnd cs := by
  have hreverse : Text.trimStart (b.reverse ++ cs.reverse) = Text.trimStart cs.reverse :=
    trimStart_blanks_append (by simpa using hb) cs.reverse
  rw [Text.trimEnd, List.reverse_append, ← Text.trimStart, hreverse]
  rfl

/-- Trailing blanks are trimmed, up to a character that is none. -/
theorem trimEnd_append_blanks {w b : List Char} (hw : EndsSolid w) (hb : ∀ c ∈ b, Text.isBlank c = true) :
    Text.trimEnd (w ++ b) = w := by
  have hstart : StartsNot Text.isBlank w.reverse := by
    intro c hc
    rw [List.head?_reverse] at hc
    exact hw c hc
  rw [trimEnd_append w hb, Text.trimEnd, ← Text.trimStart, trimStart_of_startsNot hstart, List.reverse_reverse]

/-- Trimming takes away the blanks around a text. -/
theorem trim_between {before w after : List Char} (hbefore : ∀ c ∈ before, Text.isBlank c = true)
    (hafter : ∀ c ∈ after, Text.isBlank c = true) (hw : ∀ c ∈ w, Text.isBlank c = false) :
    Text.trim (before ++ (w ++ after)) = w := by
  rw [Text.trim, trimStart_blanks_append hbefore]
  cases w with
  | nil => rw [List.nil_append, ← List.append_nil after, trimStart_blanks_append hafter]; rfl
  | cons c w =>
    have hstart : StartsNot Text.isBlank (c :: w ++ after) := startsNot_cons.2 (hw c List.mem_cons_self)
    rw [trimStart_of_startsNot hstart, trimEnd_append_blanks (endsSolid_of_forall hw) hafter]

/-- A text is its trimmed form between blanks. -/
theorem exists_trim_between (cs : List Char) :
    ∃ before after, (∀ c ∈ before, Text.isBlank c = true) ∧ (∀ c ∈ after, Text.isBlank c = true) ∧
      cs = before ++ (Text.trim cs ++ after) := by
  obtain ⟨before, hbefore, hcs⟩ := exists_blanks cs
  obtain ⟨after, hafter, hstart⟩ := exists_blanks (Text.trimStart cs).reverse
  refine ⟨before, after.reverse, hbefore, fun c hc => hafter c (List.mem_reverse.1 hc), ?_⟩
  have hend : Text.trimStart cs = Text.trim cs ++ after.reverse := by
    rw [← List.reverse_reverse (Text.trimStart cs), hstart, List.reverse_append]
    rfl
  rw [← hend]
  exact hcs

theorem isBlank_of_trimStart_eq_nil {cs : List Char} (h : Text.trimStart cs = []) : ∀ c ∈ cs, Text.isBlank c = true := by
  obtain ⟨b, hb, hcs⟩ := exists_blanks cs
  rw [h, List.append_nil] at hcs
  exact hcs ▸ hb

/-- The grammar reads an expression from a text without the blanks around it. -/
theorem Reads.trim {rule : LiteralRule} {e : Expression} {t rest : List Char} (h : Reads rule (.expression e) t rest)
    (hrest : Text.trimStart rest = []) : Reads rule (.expression e) (Text.trim t) [] := by
  obtain ⟨w, rfl, hw, hcut⟩ := h.consumes
  have hr : Reads rule (.expression e) w [] := by
    have := hcut [] rest rfl
    rwa [List.append_nil] at this
  rw [Text.trim, trimStart_append_of_ne_nil hr.trimStart_ne_nil,
    trimEnd_append_blanks hw.trimStart (isBlank_of_trimStart_eq_nil hrest)]
  exact hr.trimStart

/-- An expression and nothing after it is a pipeline without stages. -/
theorem parsePipeline_of_reads {rule : LiteralRule} {e : Expression} {t : List Char} (h : Reads rule (.expression e) t []) :
    parsePipeline t = .ok { initial := e, stages := [] } := by
  obtain ⟨d, hd, hr⟩ := h.parsed (nestingBound t) (Cursor.ofList t) .endOfExpression rfl
    (Nat.add_le_add_left (by decide : 1 ≤ 3) _)
  simp only [Phrase.Parsed] at hd
  have hend : d.skipBlanks.rest = [] := by rw [Cursor.rest_skipBlanks, hr]; rfl
  simp only [parsePipeline, hd, parseStages, hend, bind, Except.bind, pure, Except.pure]

/-- The pipeline in the span of an accepted text is its expression. -/
theorem parsePipeline_trim {e : Expression} {t : List Char} (h : parseExpression t = .ok e) :
    parsePipeline (Text.trim t) = .ok { initial := e, stages := [] } := by
  obtain ⟨rest, hr, hrest⟩ := parseExpression_eq_ok.1 h
  exact parsePipeline_of_reads (hr.trim hrest)

/-! ## Spans as fragments -/

theorem textFragment_of_ne_nil {cs : List Char} (h : cs ≠ []) : textFragment cs = [.text (String.ofList cs)] := by
  simp [textFragment, h]

/-- Pending text comes out first. -/
theorem fragmentsFrom_pending (fuel : Nat) {pending : List Char} (body : List Char) (h : pending ≠ []) :
    ∃ s more, fragmentsFrom fuel pending body = .text s :: more := by
  induction fuel generalizing pending body with
  | zero => exact ⟨_, [], textFragment_of_ne_nil (List.append_ne_nil_of_left_ne_nil h body)⟩
  | succ fuel ih =>
    rw [fragmentsFrom]
    split
    · exact ⟨_, [], textFragment_of_ne_nil (List.append_ne_nil_of_left_ne_nil h body)⟩
    · rename_i before opened _
      split
      · exact ⟨_, [], textFragment_of_ne_nil (List.append_ne_nil_of_left_ne_nil h body)⟩
      · split
        · rw [textFragment_of_ne_nil (List.append_ne_nil_of_left_ne_nil h before)]
          exact ⟨_, _, rfl⟩
        · exact ih _ (by simp)

/-- The fragments of a span depend on where the scan finds its end. -/
theorem parseTemplate_spanText (t : List Char) :
    parseTemplate (spanText t) =
      match splitClose? (t ++ ['\x7d', '\x7d']) with
      | none => [.text (String.ofList (spanText t))]
      | some (inner, after) =>
        match parsePipeline (Text.trim inner) with
        | .ok p => .var (.ofPipeline (String.ofList (spanText inner)) p) :: fragmentsFrom (spanText t).length [] after
        | .error _ => fragmentsFrom (spanText t).length (spanText inner) after := by
  have hopen : splitOpen? (spanText t) = some ([], t ++ ['\x7d', '\x7d']) := rfl
  rw [parseTemplate, fragmentsFrom, hopen]
  simp only
  cases splitClose? (t ++ ['\x7d', '\x7d']) with
  | none => rfl
  | some r => cases parsePipeline (Text.trim r.1) <;> rfl

theorem fragmentsFrom_nil (fuel : Nat) : fragmentsFrom fuel [] [] = [] := by
  cases fuel <;> rfl

/-- A text whose trimmed form is a pipeline is the only fragment of its span exactly when the scan stops at its end. -/
theorem parseTemplate_spanText_iff {p : Pipeline} {t : List Char} (h : parsePipeline (Text.trim t) = .ok p) :
    parseTemplate (spanText t) = [.var (.ofPipeline (String.ofList (spanText t)) p)] ↔ StopsAtEnd (.outside 0) t := by
  rw [parseTemplate_spanText, ← splitClose?_eq_some_iff]
  constructor
  · intro hp
    split at hp
    · simp at hp
    · rename_i inner after hsplit
      split at hp
      · have hsource := congrArg (fun v : List Fragment => v.head?.map Fragment.source) hp
        simp only [List.head?_cons, Option.map_some, Fragment.source, Variable.ofPipeline, Option.some.injEq] at hsource
        have hinner : inner = t := by simpa [spanText] using String.ofList_injective hsource
        rw [hsplit, hinner]
        have := eq_of_splitClose? hsplit
        rw [hinner] at this
        simpa using this
      · obtain ⟨s, more, hs⟩ := fragmentsFrom_pending (spanText t).length after (by simp [spanText] : spanText inner ≠ [])
        rw [hs] at hp
        simp at hp
  · intro hsplit
    rw [hsplit]
    simp only [h, fragmentsFrom_nil]

/-- The scan stops at the end of an expression whose literals are clear. -/
theorem stopsAtEnd_of_reads {e : Expression} {t rest : List Char} (h : Reads clearLiteral (.expression e) t rest)
    (hrest : Text.trimStart rest = []) : StopsAtEnd (.outside 0) t := by
  obtain ⟨w, rfl, hw⟩ := h.passes trivial 0
  have hblank : Passes (.outside 0) rest (.outside 0) :=
    passes_of_inert fun c hc => isInert_of_isBlank (isBlank_of_trimStart_eq_nil hrest c hc)
  have hp : Passes (.outside 0) (w ++ rest) (.outside 0) := Passes.append hw hblank
  rw [← splitClose?_eq_some_iff, splitClose?, hp]
  simp [splitCloseFrom]

/-- The span of an accepted text is one fragment with its expression exactly when the scan stops at the end of the text, and
it does when no code of its literals takes in a quote or a backslash. -/
theorem parseTemplate_span_iff {t : List Char} {e : Expression} (h : parseExpression t = .ok e) :
    (parseTemplate (spanText t) =
        [.var (.ofPipeline (String.ofList (spanText t)) { initial := e, stages := [] })] ↔ StopsAtEnd (.outside 0) t) ∧
      ∀ rest, Reads clearLiteral (.expression e) t rest → Text.trimStart rest = [] →
        parseTemplate (spanText t) = [.var (.ofPipeline (String.ofList (spanText t)) { initial := e, stages := [] })] := by
  have hiff := parseTemplate_spanText_iff (parsePipeline_trim h)
  exact ⟨hiff, fun rest hr hrest => hiff.2 (stopsAtEnd_of_reads hr hrest)⟩

/-- A literal and its span. -/
theorem parseTemplate_span_literal :
    parseExpression ['"', '\x7d', '\x7d', '"'] = .ok (.string "\x7d\x7d") ∧
      (parseTemplate (spanText ['"', '\x7d', '\x7d', '"']) =
        [.var (.ofPipeline "\x7b\x7b\"\x7d\x7d\"\x7d\x7d" { initial := .string "\x7d\x7d", stages := [] })]) := by
  have h : parseExpression ['"', '\x7d', '\x7d', '"'] = .ok (.string "\x7d\x7d") := rfl
  refine ⟨h, (parseTemplate_span_iff h).2 [] ?_ rfl⟩
  exact .string (w := ['"', '\x7d', '\x7d', '"']) rfl ⟨'"', ['\x7d', '\x7d', '"'], rfl, rfl, fun after => rfl, rfl⟩

/-- The code `\u'abc` takes in a quote: the parser accepts the literal, the scan never leaves it, and the span is text. -/
theorem parseTemplate_span_fails :
    parseExpression ['\x27', '\\', 'u', '\x27', 'a', 'b', 'c', '\x27'] = .ok (.string "\\u'abc") ∧
      parseTemplate (spanText ['\x27', '\\', 'u', '\x27', 'a', 'b', 'c', '\x27']) = [.text "\x7b\x7b'\\u'abc'\x7d\x7d"] ∧
      parseTemplate (spanText ['\x27', '\\', 'u', '\x27', 'a', 'b', 'c', '\x27']) ≠
        [.var (.ofPipeline "\x7b\x7b'\\u'abc'\x7d\x7d" { initial := .string "\\u'abc", stages := [] })] := by
  have h : parseTemplate (spanText ['\x27', '\\', 'u', '\x27', 'a', 'b', 'c', '\x27']) =
      [.text "\x7b\x7b'\\u'abc'\x7d\x7d"] := rfl
  refine ⟨rfl, h, ?_⟩
  rw [h]
  simp

end PageTemplates
