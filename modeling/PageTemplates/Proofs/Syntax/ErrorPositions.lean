import PageTemplates.Proofs.Syntax.Lexemes

/-!
# Where parse errors point

A parser's cursors are places of its text, and every error is raised at one of them. So an error that names a character gives
the place where it stands, one about an open literal the place of its quote, and one about a number a piece of the text. Main
statement: this holds for every text that one of the parser's three entries rejects (`pointsInto_of_parse_error`).
-/

namespace PageTemplates

/-- A character stands at a byte offset of a text: the offset is a position of the text before its end, and there is the
character. -/
def StandsAt (text : List Char) (offset : Nat) (c : Char) : Prop :=
  ∃ (p : (String.ofList text).Pos) (h : p ≠ (String.ofList text).endPos), p.offset.byteIdx = offset ∧ p.get h = c

/-- What an error says of a text is so. An offset is one of a character that stands there, and a number is a piece of the text
that starts like a number. -/
def ParseError.PointsInto (text : List Char) : ParseError → Prop
  | .unexpectedChar found position _ => StandsAt text position found
  | .unexpectedEnd _ => True
  | .invalidNumber number =>
    number.toList <:+: text ∧ ∃ x xs, number.toList = x :: xs ∧ (x.isDigit = true ∨ x = '-' ∨ x = '.')
  | .unterminatedString position => ∃ quote, isQuote quote = true ∧ StandsAt text position quote

/-! ## Places of a text -/

theorem utf8ByteSize_ofList (cs : List Char) : (String.ofList cs).utf8ByteSize = utf8Length cs := by
  induction cs with
  | nil => rfl
  | cons c cs ih =>
    have hcons : String.ofList (c :: cs) = String.singleton c ++ String.ofList cs := by
      rw [String.singleton_eq_ofList, ← String.ofList_append]
      rfl
    rw [hcons, String.utf8ByteSize_append, String.utf8ByteSize_singleton, ih]
    rfl

/-- A character stands behind the bytes of what comes before it. -/
theorem standsAt_append (before : List Char) (c : Char) (after : List Char) :
    StandsAt (before ++ c :: after) (utf8Length before) c := by
  have hcut : String.ofList (before ++ c :: after) = String.ofList before ++ (String.singleton c ++ String.ofList after) := by
    rw [String.singleton_eq_ofList, ← String.ofList_append, ← String.ofList_append]
    rfl
  have hsplits := String.Pos.splits_ofEqAppend hcut
  have hoffset := congrArg String.Pos.Raw.byteIdx hsplits.offset_eq_rawEndPos
  exact ⟨_, hsplits.ne_endPos_of_singleton, hoffset.trans (utf8ByteSize_ofList before), hsplits.next.get_eq_of_singleton⟩

namespace Cursor

/-- A cursor is a place of a text: the text goes on with what follows the cursor, and its offset counts the bytes before. -/
def IsIn (c : Cursor) (text : List Char) : Prop :=
  ∃ before, text = before ++ c.rest ∧ c.offset = utf8Length before

variable {text : List Char} {c d : Cursor}

theorem isIn_ofList (text : List Char) : (ofList text).IsIn text :=
  ⟨[], rfl, rfl⟩

/-- Moving on over characters that were read leads to a place of the text. -/
theorem IsIn.skip (h : c.IsIn text) (n : Nat) : (c.skip n).IsIn text := by
  obtain ⟨before, htext, hoffset⟩ := h
  refine ⟨before ++ c.rest.take n, ?_, ?_⟩
  · rw [List.append_assoc, rest_skip, List.take_append_drop, htext]
  · rw [utf8Length_append, ← hoffset]
    rfl

theorem IsIn.skipBlanks (h : c.IsIn text) : c.skipBlanks.IsIn text :=
  h.skip _

/-- The next character stands at the offset of the cursor. -/
theorem IsIn.standsAt (h : c.IsIn text) {x : Char} {xs : List Char} (hx : c.rest = x :: xs) : StandsAt text c.offset x := by
  obtain ⟨before, htext, hoffset⟩ := h
  rw [htext, hoffset, hx]
  exact standsAt_append before x xs

/-- The error of finding the wrong character tells where it stands. -/
theorem IsIn.unexpected (h : c.IsIn text) (expected : Expectation) : (c.unexpected expected).PointsInto text := by
  unfold Cursor.unexpected
  cases hx : c.peek? with
  | none => trivial
  | some x =>
    obtain ⟨xs, hrest⟩ := List.head?_eq_some_iff.1 hx
    exact h.standsAt hrest

theorem IsIn.eat? (h : c.IsIn text) {x : Char} (hd : c.eat? x = some d) : d.IsIn text := by
  simp only [Cursor.eat?] at hd
  split at hd
  · rw [← Option.some.inj hd]
    exact h.skipBlanks.skip 1
  · simp at hd

end Cursor

/-! ## Answers of the parser -/

/-- An answer of the parser on a text: what was read has a property, or the error points into the text. -/
inductive AnswersIn (text : List Char) {α : Type} (P : α → Prop) : Except ParseError α → Prop where
  | ok {a : α} (h : P a) : AnswersIn text P (.ok a)
  | error {e : ParseError} (h : e.PointsInto text) : AnswersIn text P (.error e)

/-- What was read ends at a place of the text. -/
abbrev EndsIn (text : List Char) {α : Type} : Except ParseError (α × Cursor) → Prop :=
  AnswersIn text fun r => r.2.IsIn text

section

variable {text : List Char} {fuel : Nat} {c : Cursor}

theorem AnswersIn.bind {α β : Type} {P : α → Prop} {Q : β → Prop} {x : Except ParseError α} {f : α → Except ParseError β}
    (h : AnswersIn text P x) (hf : ∀ a, P a → AnswersIn text Q (f a)) : AnswersIn text Q (x >>= f) := by
  cases h with
  | ok ha => exact hf _ ha
  | error he => exact .error he

theorem Cursor.IsIn.expect (h : c.IsIn text) (x : Char) (expected : Expectation) :
    AnswersIn text (·.IsIn text) (c.expect x expected) := by
  unfold Cursor.expect
  cases hd : c.eat? x with
  | some d => exact .ok (h.eat? hd)
  | none => exact .error (h.skipBlanks.unexpected expected)

theorem Cursor.IsIn.parseName? (h : c.IsIn text) {name : String} {d : Cursor} (hd : parseName? c = some (name, d)) :
    d.IsIn text := by
  unfold PageTemplates.parseName? at hd
  split at hd
  · split at hd
    · obtain ⟨-, rfl⟩ := Prod.mk.inj (Option.some.inj hd)
      exact h.skip _
    · simp at hd
  · simp at hd

/-- A literal that is not closed is reported at its quote. -/
theorem endsIn_parseString (h : c.IsIn text) {quote : Char} {body : List Char} (hc : c.rest = quote :: body)
    (hquote : isQuote quote = true) : EndsIn text (parseString c) := by
  unfold parseString
  rw [hc]
  simp only
  cases StringLiteral.read? quote .plain body with
  | none => exact .error ⟨quote, hquote, h.standsAt hc⟩
  | some r => exact .ok (h.skip _)

/-- A number that has no value is reported with its text. -/
theorem endsIn_parseNumber (h : c.IsIn text) (hstart : startsNumber c.rest = true) : EndsIn text (parseNumber c) := by
  obtain ⟨isFloat, body, hscan⟩ : ∃ f b, scanNumber false (c.rest.drop (numberSign c.rest).length) = (f, b) := ⟨_, _, rfl⟩
  obtain ⟨after, hafter, -⟩ := scanNumber_append false (c.rest.drop (numberSign c.rest).length)
  have hscanned := startsNumber_scanned hstart
  rw [hscan] at hafter hscanned
  rw [parseNumber_eq c hscan]
  simp only
  split
  · exact .error ((h.skip _).unexpected _)
  · split
    · exact .ok (h.skip _)
    · refine .error ⟨?_, ?_⟩
      · obtain ⟨before, htext, -⟩ := h
        refine ⟨before, after, ?_⟩
        rw [String.toList_ofList, List.append_assoc, List.append_assoc, ← hafter, numberSign_append_drop, htext]
      · rw [String.toList_ofList]
        cases hnumber : numberSign c.rest ++ body with
        | nil => simp [hnumber, startsNumber] at hscanned
        | cons x xs =>
          rw [hnumber] at hscanned
          simp only [startsNumber, Bool.or_eq_true, Bool.and_eq_true, decide_eq_true_eq] at hscanned
          exact ⟨x, xs, rfl, hscanned.imp_right And.left⟩

/-! ## The parser's functions -/

/-- With some fuel, the parser's functions end at places of the text and raise errors that point into it. -/
structure ParsesIn (text : List Char) (fuel : Nat) : Prop where
  expression : ∀ {c : Cursor}, c.IsIn text → EndsIn text (parseExpressionAt fuel c)
  named : ∀ {start c : Cursor} {name : String}, c.IsIn text → EndsIn text (parseNamed fuel start name c)
  steps : ∀ {c : Cursor}, c.IsIn text → EndsIn text (parseStepsAt fuel c)
  items : ∀ {c : Cursor} {close : Char} {expected : Expectation}, c.IsIn text →
    EndsIn text (parseItems fuel c close expected)
  moreItems : ∀ {c : Cursor} {close : Char} {expected : Expectation}, c.IsIn text →
    EndsIn text (parseMoreItems fuel c close expected)
  entries : ∀ {c : Cursor}, c.IsIn text → EndsIn text (parseEntries fuel c)
  moreEntries : ∀ {c : Cursor}, c.IsIn text → EndsIn text (parseMoreEntries fuel c)
  entry : ∀ {c : Cursor}, c.IsIn text → AnswersIn text (fun r => r.2.2.IsIn text) (parseEntry fuel c)

theorem endsIn_parseExpressionAt (ih : ParsesIn text fuel) (h : c.IsIn text) :
    EndsIn text (parseExpressionAt (fuel + 1) c) := by
  have hstart := h.skipBlanks
  simp only [parseExpressionAt]
  split
  · exact .error trivial
  · rename_i x xs hc
    split
    · rename_i hquote
      exact (endsIn_parseString hstart hc hquote).bind fun r hr => .ok hr
    · split
      · rename_i hnumber
        exact (endsIn_parseNumber hstart (by rw [hc]; simpa [startsNumber] using hnumber)).bind fun r hr => .ok hr
      · split
        · exact (ih.items (hstart.skip 1)).bind fun r hr => .ok hr
        · split
          · exact (ih.entries (hstart.skip 1)).bind fun r hr => .ok hr
          · split
            · rename_i name d hname
              exact ih.named (hstart.parseName? hname)
            · exact .error (hstart.unexpected _)

theorem endsIn_parseNamed (ih : ParsesIn text fuel) (h : c.IsIn text) (start : Cursor) (name : String) :
    EndsIn text (parseNamed (fuel + 1) start name c) := by
  simp only [parseNamed]
  split
  · exact (ih.items (h.skip 1)).bind fun r hr => .ok hr
  · split
    · exact (ih.steps h).bind fun r hr => .ok hr
    · split
      · exact .ok h
      · exact .error (h.unexpected _)

theorem endsIn_parseStepsAt (ih : ParsesIn text fuel) (h : c.IsIn text) : EndsIn text (parseStepsAt (fuel + 1) c) := by
  simp only [parseStepsAt]
  split
  · split
    · rename_i name d hname
      exact (ih.steps ((h.skip 1).parseName? hname)).bind fun r hr => .ok hr
    · exact .error ((h.skip 1).unexpected _)
  · refine (ih.expression (h.skip 1)).bind fun index hindex => ?_
    refine (hindex.expect ']' .closingBracket).bind fun d hd => ?_
    exact (ih.steps hd).bind fun r hr => .ok hr
  · exact .ok h

theorem endsIn_parseItems (ih : ParsesIn text fuel) (h : c.IsIn text) (close : Char) (expected : Expectation) :
    EndsIn text (parseItems (fuel + 1) c close expected) := by
  simp only [parseItems]
  split
  · rename_i d hd
    exact .ok (h.eat? hd)
  · exact ih.moreItems h

theorem endsIn_parseMoreItems (ih : ParsesIn text fuel) (h : c.IsIn text) (close : Char) (expected : Expectation) :
    EndsIn text (parseMoreItems (fuel + 1) c close expected) := by
  simp only [parseMoreItems]
  refine (ih.expression h).bind fun item hitem => ?_
  split
  · rename_i d hd
    exact (ih.moreItems (hitem.eat? hd)).bind fun r hr => .ok hr
  · exact (hitem.expect close expected).bind fun d hd => .ok hd

theorem endsIn_parseEntries (ih : ParsesIn text fuel) (h : c.IsIn text) : EndsIn text (parseEntries (fuel + 1) c) := by
  simp only [parseEntries]
  split
  · rename_i d hd
    exact .ok (h.eat? hd)
  · exact ih.moreEntries h

theorem endsIn_parseMoreEntries (ih : ParsesIn text fuel) (h : c.IsIn text) :
    EndsIn text (parseMoreEntries (fuel + 1) c) := by
  simp only [parseMoreEntries]
  refine (ih.entry h.skipBlanks).bind fun entry hentry => ?_
  split
  · rename_i d hd
    exact (ih.moreEntries (hentry.eat? hd)).bind fun r hr => .ok hr
  · exact (hentry.expect '\x7d' .endOfObject).bind fun d hd => .ok hd

theorem answersIn_parseEntry (ih : ParsesIn text fuel) (h : c.IsIn text) :
    AnswersIn text (fun r => r.2.2.IsIn text) (parseEntry (fuel + 1) c) := by
  simp only [parseEntry]
  split
  · rename_i key d hname
    have hd := h.parseName? hname
    split
    · rename_i e he
      exact (ih.expression (hd.eat? he)).bind fun r hr => .ok hr
    · exact .ok hd
  · split
    · rename_i hquote
      cases hc : c.rest with
      | nil => simp [Cursor.peek?, hc] at hquote
      | cons quote body =>
        have hquote : isQuote quote = true := by simpa [Cursor.peek?, hc] using hquote
        refine (endsIn_parseString h hc hquote).bind fun key hkey => ?_
        refine (hkey.expect ':' .colon).bind fun d hd => ?_
        exact (ih.expression hd).bind fun r hr => .ok hr
    · exact .error (h.unexpected _)

/-- Whatever the fuel, all of the parser's functions stay in the text. -/
theorem parsesIn (text : List Char) (fuel : Nat) : ParsesIn text fuel := by
  induction fuel with
  | zero =>
    -- Without fuel the functions raise their error where they stand.
    exact ⟨fun h => .error (h.unexpected _), fun h => .error (h.unexpected _), fun h => .error (h.unexpected _),
      fun h => .error (h.unexpected _), fun h => .error (h.unexpected _), fun h => .error (h.unexpected _),
      fun h => .error (h.unexpected _), fun h => .error (h.unexpected _)⟩
  | succ fuel ih =>
    exact ⟨endsIn_parseExpressionAt ih, fun h => endsIn_parseNamed ih h _ _, endsIn_parseStepsAt ih,
      fun h => endsIn_parseItems ih h _ _, fun h => endsIn_parseMoreItems ih h _ _, endsIn_parseEntries ih,
      endsIn_parseMoreEntries ih, answersIn_parseEntry ih⟩

theorem endsIn_parseStageArguments (h : c.IsIn text) : EndsIn text (parseStageArguments c) := by
  have hstart := h.skipBlanks
  unfold parseStageArguments
  simp only
  split
  · exact (parsesIn text _).items (hstart.skip 1)
  · split
    · exact .ok ((hstart.skip 1).skip _)
    · exact .ok hstart

theorem answersIn_parseStages (h : c.IsIn text) : AnswersIn text (fun _ => True) (parseStages fuel c) := by
  induction fuel generalizing c with
  | zero => exact .error (h.unexpected _)
  | succ fuel ih =>
    have hstart := h.skipBlanks
    simp only [parseStages]
    split
    · exact .ok trivial
    · split
      · have hstage := (hstart.skip 1).skipBlanks
        split
        · exact .error (hstage.unexpected _)
        · rename_i name d hname
          refine (endsIn_parseStageArguments (hstage.parseName? hname)).bind fun args hargs => ?_
          exact (ih hargs).bind fun stages _ => .ok trivial
      · exact .error (hstart.unexpected _)

/-! ## Whole texts -/

theorem answersIn_parseExpression (text : List Char) : AnswersIn text (fun _ => True) (parseExpression text) := by
  refine ((parsesIn text _).expression (Cursor.isIn_ofList text)).bind fun r hr => ?_
  simp only
  split
  · exact .ok trivial
  · exact .error (hr.skipBlanks.unexpected _)

theorem answersIn_parseSteps (text : List Char) : AnswersIn text (fun _ => True) (parseSteps text) := by
  refine ((parsesIn text _).steps (Cursor.isIn_ofList text)).bind fun r hr => ?_
  simp only
  split
  · exact .ok trivial
  · exact .error (hr.unexpected _)

theorem answersIn_parsePipeline (text : List Char) : AnswersIn text (fun _ => True) (parsePipeline text) := by
  refine ((parsesIn text _).expression (Cursor.isIn_ofList text)).bind fun r hr => ?_
  exact (answersIn_parseStages hr).bind fun stages _ => .ok trivial

theorem AnswersIn.pointsInto {α : Type} {P : α → Prop} {x : Except ParseError α} {e : ParseError} (h : AnswersIn text P x)
    (he : x = .error e) : e.PointsInto text := by
  cases h with
  | ok ha => simp at he
  | error hpoints => exact Except.error.inj he ▸ hpoints

end

/-- **Error positions.** The error for a text that is no expression, no pipeline or no steps of a path points into the text: an
unexpected character stands at the offset that is given, an open literal has its quote there, and an invalid number is a piece
of the text that starts with a digit, a minus or a point. -/
theorem pointsInto_of_parse_error {text : List Char} {e : ParseError}
    (h : parseExpression text = .error e ∨ parsePipeline text = .error e ∨ parseSteps text = .error e) :
    e.PointsInto text := by
  rcases h with h | h | h
  · exact (answersIn_parseExpression text).pointsInto h
  · exact (answersIn_parsePipeline text).pointsInto h
  · exact (answersIn_parseSteps text).pointsInto h

/-- Offsets count bytes: each of these errors comes after a character of two bytes. -/
theorem pointsInto_of_parse_error_accented :
    (parseExpression ['\x27', 'é', '\x27', ' ', '€'] = .error (.unexpectedChar '€' 5 .endOfExpression) ∧
        StandsAt ['\x27', 'é', '\x27', ' ', '€'] 5 '€') ∧
      (parsePipeline ['\x27', 'é', '\x27', '|', 'f', '(', '"'] = .error (.unterminatedString 7) ∧
        ∃ quote, isQuote quote = true ∧ StandsAt ['\x27', 'é', '\x27', '|', 'f', '(', '"'] 7 quote) ∧
      (parseSteps ['[', '\x27', 'é', '\x27', ']', '[', '1', 'e', ']'] = .error (.invalidNumber "1e") ∧
        "1e".toList <:+: ['[', '\x27', 'é', '\x27', ']', '[', '1', 'e', ']']) := by
  have hexpression : parseExpression ['\x27', 'é', '\x27', ' ', '€'] =
      .error (.unexpectedChar '€' 5 .endOfExpression) := rfl
  have hpipeline : parsePipeline ['\x27', 'é', '\x27', '|', 'f', '(', '"'] = .error (.unterminatedString 7) := rfl
  have hsteps : parseSteps ['[', '\x27', 'é', '\x27', ']', '[', '1', 'e', ']'] = .error (.invalidNumber "1e") := rfl
  exact ⟨⟨hexpression, pointsInto_of_parse_error (.inl hexpression)⟩,
    ⟨hpipeline, pointsInto_of_parse_error (.inr (.inl hpipeline))⟩,
    ⟨hsteps, (pointsInto_of_parse_error (.inr (.inr hsteps))).1⟩⟩

end PageTemplates
