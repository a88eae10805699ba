import PageTemplates.Proofs.Syntax.Grammar

/-!
# The parser and the grammar

The parser's functions accept exactly what the grammar describes. Soundness is an induction on the fuel, completeness one on the
derivation, with fuel for three calls at each character. Main statement: a whole text is the expression that the parser gives
exactly when the grammar reads that expression and leaves blanks (`parseExpression_eq_ok`).
-/

namespace PageTemplates

theorem Except.bind_eq_ok {ε α β : Type} {x : Except ε α} {f : α → Except ε β} {b : β} :
    (x >>= f) = .ok b ↔ ∃ a, x = .ok a ∧ f a = .ok b := by
  cases x with
  | error e => simp [bind, Except.bind]
  | ok a => simp [bind, Except.bind]

/-- The parser's function for a phrase, called with some fuel, reads it between two cursors. The expectation is the one reported
for a missing closing mark. -/
def Phrase.Parsed (fuel : Nat) (expected : Expectation) (c d : Cursor) : Phrase → Prop
  | .expression e => parseExpressionAt fuel c = .ok (e, d)
  | .steps ss => parseStepsAt fuel c = .ok (ss, d)
  | .items close es => parseItems fuel c close expected = .ok (es, d)
  | .moreItems close es => parseMoreItems fuel c close expected = .ok (es, d)
  | .entries es => parseEntries fuel c = .ok (es, d)
  | .moreEntries es => parseMoreEntries fuel c = .ok (es, d)
  | .entry key value => parseEntry fuel c.skipBlanks = .ok (key, value, d)

/-! ## Soundness -/

/-- What the parser reads with the given fuel is described by the grammar. -/
def SoundAt (fuel : Nat) : Prop :=
  ∀ (φ : Phrase) (expected : Expectation) ⦃c d : Cursor⦄, φ.Parsed fuel expected c d → Reads anyLiteral φ c.rest d.rest

section

variable {fuel : Nat} {c d : Cursor}

/-- After a name comes a call, a reserved word or a path. -/
theorem reads_of_parseNamed (ih : ∀ m < fuel, SoundAt m) {e : Expression} {c₀ start : Cursor} {w : List Char}
    (hstart : Text.trimStart c₀.rest = start.rest) (hw : start.rest = w ++ c.rest) (hn : IsName w)
    (hends : StartsNot isNameChar c.rest) (h : parseNamed fuel start (String.ofList w) c = .ok (e, d)) :
    Reads anyLiteral (.expression e) c₀.rest d.rest := by
  cases fuel with
  | zero => simp [parseNamed] at h
  | succ fuel =>
    have ih := ih fuel (Nat.lt_succ_self fuel)
    have hcs := hstart.trans hw
    simp only [parseNamed] at h
    split at h
    · rename_i hp
      obtain ⟨cs, hc⟩ := List.head?_eq_some_iff.1 hp
      obtain ⟨⟨args, d'⟩, hi, he⟩ := Except.bind_eq_ok.1 h
      obtain ⟨rfl, rfl⟩ := Prod.mk.inj (Except.ok.inj he)
      have hr := ih (.items ')' args) .endOfArguments hi
      rw [Cursor.rest_skip, hc, List.drop_one, List.tail_cons] at hr
      exact .call (hc ▸ hcs) hn hr
    · rename_i hp
      have hplain : StartsNot (· == '(') c.rest := fun x hx => by
        simp only [beq_eq_false_iff_ne]
        rintro rfl
        exact hp hx
      split at h
      · rename_i hsteps
        obtain ⟨⟨steps, d'⟩, hi, he⟩ := Except.bind_eq_ok.1 h
        obtain ⟨rfl, rfl⟩ := Prod.mk.inj (Except.ok.inj he)
        have hr := ih (.steps steps) .step hi
        obtain ⟨u, hu, -, -⟩ := hr.consumes
        have htext : start.upTo d' = w ++ u := Cursor.upTo_eq (by rw [hw, hu, List.append_assoc])
        have hfree : steps = [] → reserved? (String.ofList w) = none := by
          rintro rfl
          have hstop := (reads_steps_nil.1 hr).2
          rcases hsteps with h' | h' | h'
          · simpa [startsStep] using hstop '.' h'
          · simpa [startsStep] using hstop '[' h'
          · exact h'
        rw [htext]
        rw [hu] at hcs hends hplain hr
        exact .path hcs hn hends hplain hfree hr
      · rename_i hsteps
        split at h
        · rename_i l hl
          obtain ⟨rfl, rfl⟩ := Prod.mk.inj (Except.ok.inj h)
          refine .reserved hcs hn hl hends fun x hx => ?_
          rw [not_or, not_or] at hsteps
          simp only [startsStep, Bool.or_eq_false_iff, beq_eq_false_iff_ne]
          refine ⟨?_, ?_, ?_⟩
          · rintro rfl
            exact hp hx
          · rintro rfl
            exact hsteps.1 hx
          · rintro rfl
            exact hsteps.2.1 hx
        · simp at h

/-- The cursor after a mark at the start of a text. -/
theorem Cursor.rest_skip_one {x : Char} {xs : List Char} (h : c.rest = x :: xs) : (c.skip 1).rest = xs := by
  rw [Cursor.rest_skip, h, List.drop_one, List.tail_cons]

theorem reads_of_parseExpressionAt (ih : ∀ m < fuel, SoundAt m) {e : Expression}
    (h : parseExpressionAt fuel c = .ok (e, d)) : Reads anyLiteral (.expression e) c.rest d.rest := by
  cases fuel with
  | zero => simp [parseExpressionAt] at h
  | succ fuel =>
    have hsound := ih fuel (Nat.lt_succ_self fuel)
    have hstart : Text.trimStart c.rest = c.skipBlanks.rest := (Cursor.rest_skipBlanks c).symm
    simp only [parseExpressionAt] at h
    split at h
    · simp at h
    · rename_i x xs hc
      have hmark := Cursor.rest_skip_one hc
      split at h
      · rename_i hq
        obtain ⟨⟨text, d'⟩, hi, he⟩ := Except.bind_eq_ok.1 h
        obtain ⟨rfl, rfl⟩ := Prod.mk.inj (Except.ok.inj he)
        have hquote : ∀ y ∈ c.skipBlanks.rest.head?, isQuote y = true := by
          rw [hc]
          simpa using hq
        obtain ⟨w, t, hw, rfl, hs⟩ := spellsString_of_parseString hquote hi
        exact .string (hstart.trans hw) hs
      · split at h
        · rename_i hnum
          obtain ⟨⟨l, d'⟩, hi, he⟩ := Except.bind_eq_ok.1 h
          obtain ⟨rfl, rfl⟩ := Prod.mk.inj (Except.ok.inj he)
          obtain ⟨w, hw, hs⟩ := spellsNumber_of_parseNumber (by rw [hc]; simpa [startsNumber] using hnum) hi
          exact .number (hstart.trans hw) hs
        · split at h
          · rename_i hx
            obtain ⟨⟨items, d'⟩, hi, he⟩ := Except.bind_eq_ok.1 h
            obtain ⟨rfl, rfl⟩ := Prod.mk.inj (Except.ok.inj he)
            have hr := hsound (.items ']' items) .endOfArray hi
            rw [hmark] at hr
            exact .array (hstart.trans (hx ▸ hc)) hr
          · split at h
            · rename_i hx
              obtain ⟨⟨entries, d'⟩, hi, he⟩ := Except.bind_eq_ok.1 h
              obtain ⟨rfl, rfl⟩ := Prod.mk.inj (Except.ok.inj he)
              have hr := hsound (.entries entries) .endOfObject hi
              rw [hmark] at hr
              exact .object (hstart.trans (hx ▸ hc)) hr
            · split at h
              · rename_i name c' hname
                obtain ⟨w, hn, rfl, hw, hends⟩ := parseName?_eq_some hname
                exact reads_of_parseNamed (fun m hm => ih m (Nat.lt_succ_of_lt hm)) hstart hw hn hends h
              · simp at h

theorem reads_of_parseStepsAt (ih : ∀ m < fuel, SoundAt m) {steps : List (Accessor Expression)}
    (h : parseStepsAt fuel c = .ok (steps, d)) : Reads anyLiteral (.steps steps) c.rest d.rest := by
  cases fuel with
  | zero => simp [parseStepsAt] at h
  | succ fuel =>
    have ih := ih fuel (Nat.lt_succ_self fuel)
    simp only [parseStepsAt] at h
    split at h
    · rename_i xs hc
      have hmark := Cursor.rest_skip_one hc
      split at h
      · rename_i name c' hname
        obtain ⟨w, hn, rfl, hw, hends⟩ := parseName?_eq_some hname
        obtain ⟨⟨steps', d'⟩, hi, he⟩ := Except.bind_eq_ok.1 h
        obtain ⟨rfl, rfl⟩ := Prod.mk.inj (Except.ok.inj he)
        rw [hc, ← hmark, hw]
        exact .member hn hends (ih (.steps steps') .step hi)
      · simp at h
    · rename_i xs hc
      have hmark := Cursor.rest_skip_one hc
      obtain ⟨⟨index, d'⟩, hi, h⟩ := Except.bind_eq_ok.1 h
      obtain ⟨e', hclose, h⟩ := Except.bind_eq_ok.1 h
      obtain ⟨⟨steps', f'⟩, hs, he⟩ := Except.bind_eq_ok.1 h
      obtain ⟨rfl, rfl⟩ := Prod.mk.inj (Except.ok.inj he)
      have hr := ih (.expression index) .step hi
      rw [hmark] at hr
      rw [hc]
      exact .index hr (Cursor.expect_eq_ok hclose) (ih (.steps steps') .step hs)
    · rename_i hpoint hbracket
      obtain ⟨rfl, rfl⟩ := Prod.mk.inj (Except.ok.inj h)
      refine .noStep fun x hx => ?_
      obtain ⟨xs, hc⟩ := List.head?_eq_some_iff.1 hx
      simp only [startsStep, Bool.or_eq_false_iff, beq_eq_false_iff_ne]
      exact ⟨fun hx => hpoint xs (hx ▸ hc), fun hx => hbracket xs (hx ▸ hc)⟩

theorem reads_of_parseItems (ih : ∀ m < fuel, SoundAt m) {close : Char} {expected : Expectation} {items : List Expression}
    (h : parseItems fuel c close expected = .ok (items, d)) : Reads anyLiteral (.items close items) c.rest d.rest := by
  cases fuel with
  | zero => simp [parseItems] at h
  | succ fuel =>
    simp only [parseItems] at h
    split at h
    · rename_i d' hd
      obtain ⟨rfl, rfl⟩ := Prod.mk.inj (Except.ok.inj h)
      exact .noItem (Cursor.eat?_eq_some hd)
    · rename_i hd
      exact .someItems (Cursor.eat?_eq_none hd) (ih fuel (Nat.lt_succ_self fuel) (.moreItems close items) expected h)

theorem reads_of_parseMoreItems (ih : ∀ m < fuel, SoundAt m) {close : Char} {expected : Expectation}
    {items : List Expression} (h : parseMoreItems fuel c close expected = .ok (items, d)) :
    Reads anyLiteral (.moreItems close items) c.rest d.rest := by
  cases fuel with
  | zero => simp [parseMoreItems] at h
  | succ fuel =>
    have ih := ih fuel (Nat.lt_succ_self fuel)
    simp only [parseMoreItems] at h
    obtain ⟨⟨item, d'⟩, hi, h⟩ := Except.bind_eq_ok.1 h
    have hitem := ih (.expression item) expected hi
    simp only at h
    split at h
    · rename_i e' hcomma
      obtain ⟨⟨items', f'⟩, hs, he⟩ := Except.bind_eq_ok.1 h
      obtain ⟨rfl, rfl⟩ := Prod.mk.inj (Except.ok.inj he)
      exact .nextItem hitem (Cursor.eat?_eq_some hcomma) (ih (.moreItems close items') expected hs)
    · rename_i hcomma
      obtain ⟨e', hstop, he⟩ := Except.bind_eq_ok.1 h
      obtain ⟨rfl, rfl⟩ := Prod.mk.inj (Except.ok.inj he)
      have hclose := Cursor.expect_eq_ok hstop
      have hmark := Cursor.eat?_eq_none hcomma
      rw [hclose, startsNot_cons, beq_eq_false_iff_ne] at hmark
      exact .lastItem hitem hclose hmark

theorem reads_of_parseEntry (ih : ∀ m < fuel, SoundAt m) {key : String} {value : Expression}
    (h : parseEntry fuel c.skipBlanks = .ok (key, value, d)) : Reads anyLiteral (.entry key value) c.rest d.rest := by
  cases fuel with
  | zero => simp [parseEntry] at h
  | succ fuel =>
    have ih := ih fuel (Nat.lt_succ_self fuel)
    have hstart : Text.trimStart c.rest = c.skipBlanks.rest := (Cursor.rest_skipBlanks c).symm
    simp only [parseEntry] at h
    split at h
    · rename_i key' c' hname
      obtain ⟨w, hn, rfl, hw, hends⟩ := parseName?_eq_some hname
      split at h
      · rename_i e' hcolon
        obtain ⟨⟨value', f'⟩, hv, he⟩ := Except.bind_eq_ok.1 h
        obtain ⟨rfl, hvd⟩ := Prod.mk.inj (Except.ok.inj he)
        obtain ⟨rfl, rfl⟩ := Prod.mk.inj hvd
        exact .named (hstart.trans hw) hn hends (Cursor.eat?_eq_some hcolon)
          (ih (.expression value') .colon hv)
      · rename_i hcolon
        obtain ⟨rfl, hvd⟩ := Prod.mk.inj (Except.ok.inj h)
        obtain ⟨rfl, rfl⟩ := Prod.mk.inj hvd
        exact .short (hstart.trans hw) hn hends (Cursor.eat?_eq_none hcolon)
    · split at h
      · rename_i hq
        obtain ⟨⟨key', d'⟩, hs, h⟩ := Except.bind_eq_ok.1 h
        obtain ⟨e', hcolon, h⟩ := Except.bind_eq_ok.1 h
        obtain ⟨⟨value', f'⟩, hv, he⟩ := Except.bind_eq_ok.1 h
        obtain ⟨rfl, hvd⟩ := Prod.mk.inj (Except.ok.inj he)
        obtain ⟨rfl, rfl⟩ := Prod.mk.inj hvd
        have hquote : ∀ x ∈ c.skipBlanks.rest.head?, isQuote x = true := fun x hx => by
          rw [Cursor.peek?, Option.mem_def.1 hx] at hq
          simpa using hq
        obtain ⟨w, t, hw, rfl, hl⟩ := spellsString_of_parseString hquote hs
        exact .quoted (hstart.trans hw) hl (Cursor.expect_eq_ok hcolon)
          (ih (.expression value') .colon hv)
      · simp at h

theorem reads_of_parseEntries (ih : ∀ m < fuel, SoundAt m) {entries : List (String × Expression)}
    (h : parseEntries fuel c = .ok (entries, d)) : Reads anyLiteral (.entries entries) c.rest d.rest := by
  cases fuel with
  | zero => simp [parseEntries] at h
  | succ fuel =>
    simp only [parseEntries] at h
    split at h
    · rename_i d' hd
      obtain ⟨rfl, rfl⟩ := Prod.mk.inj (Except.ok.inj h)
      exact .noEntry (Cursor.eat?_eq_some hd)
    · rename_i hd
      exact .someEntries (Cursor.eat?_eq_none hd)
        (ih fuel (Nat.lt_succ_self fuel) (.moreEntries entries) .endOfObject h)

theorem reads_of_parseMoreEntries (ih : ∀ m < fuel, SoundAt m) {entries : List (String × Expression)}
    (h : parseMoreEntries fuel c = .ok (entries, d)) : Reads anyLiteral (.moreEntries entries) c.rest d.rest := by
  cases fuel with
  | zero => simp [parseMoreEntries] at h
  | succ fuel =>
    have ih := ih fuel (Nat.lt_succ_self fuel)
    simp only [parseMoreEntries] at h
    obtain ⟨⟨key, value, d'⟩, hi, h⟩ := Except.bind_eq_ok.1 h
    have hentry := ih (.entry key value) .endOfObject hi
    simp only at h
    split at h
    · rename_i e' hcomma
      obtain ⟨⟨entries', f'⟩, hs, he⟩ := Except.bind_eq_ok.1 h
      obtain ⟨rfl, rfl⟩ := Prod.mk.inj (Except.ok.inj he)
      exact .nextEntry hentry (Cursor.eat?_eq_some hcomma) (ih (.moreEntries entries') .endOfObject hs)
    · obtain ⟨e', hstop, he⟩ := Except.bind_eq_ok.1 h
      obtain ⟨rfl, rfl⟩ := Prod.mk.inj (Except.ok.inj he)
      exact .lastEntry hentry (Cursor.expect_eq_ok hstop)

end

/-- What the parser reads is described by the grammar, whatever the fuel. -/
theorem reads_of_parsed (fuel : Nat) : SoundAt fuel := by
  induction fuel using Nat.strongRecOn with
  | ind fuel ih =>
    intro φ expected c d h
    cases φ with
    | expression e => exact reads_of_parseExpressionAt ih h
    | steps ss => exact reads_of_parseStepsAt ih h
    | items close es => exact reads_of_parseItems ih h
    | moreItems close es => exact reads_of_parseMoreItems ih h
    | entries es => exact reads_of_parseEntries ih h
    | moreEntries es => exact reads_of_parseMoreEntries ih h
    | entry key value => exact reads_of_parseEntry ih h

/-! ## Completeness -/

/-- The fuel that a phrase takes besides that for its characters. -/
def Phrase.cost : Phrase → Nat
  | .expression _ => 1
  | .steps _ => 1
  | .items _ _ => 3
  | .moreItems _ _ => 2
  | .entries _ => 3
  | .moreEntries _ => 2
  | .entry _ _ => 1

theorem Reads.length_le {rule : LiteralRule} {φ : Phrase} {cs ds : List Char} (h : Reads rule φ cs ds) :
    ds.length ≤ cs.length := by
  obtain ⟨w, rfl, -⟩ := h.consumes
  simp

/-- What stands in a text after its leading blanks is no longer than the text. -/
theorem length_le_of_trimStart {cs x : List Char} (h : Text.trimStart cs = x) : x.length ≤ cs.length := by
  rw [← h]
  exact List.length_dropWhile_le Text.isBlank cs

/-- Dropping leading blanks leaves a mark and what follows it, so there was more than that. -/
theorem length_lt_of_trimStart {cs ds : List Char} {x : Char} (h : Text.trimStart cs = x :: ds) :
    ds.length < cs.length := by
  have := length_le_of_trimStart h
  rw [List.length_cons] at this
  omega

/-- What starts a name starts no string, number, array or object. -/
theorem not_special_of_isNameStart {x : Char} (h : isNameStart x = true) :
    isQuote x = false ∧ x.isDigit = false ∧ x ≠ '-' ∧ x ≠ '.' ∧ x ≠ '[' ∧ x ≠ '\x7b' := by
  have hdigit : x.isDigit = false := by
    simp only [isNameStart, Bool.or_eq_true, isAlpha_iff, beq_iff_eq] at h
    simp only [Char.isDigit, Bool.and_eq_false_iff, decide_eq_false_iff_not, UInt32.le_iff_toNat_le, ge_iff_le]
    rcases h with ((⟨h, h'⟩ | ⟨h, h'⟩) | rfl) | rfl
    · exact Or.inr fun hx => absurd (Nat.le_trans h hx) (by decide)
    · exact Or.inr fun hx => absurd (Nat.le_trans h hx) (by decide)
    · exact Or.inr (by decide)
    · exact Or.inl (by decide)
  have hother : ∀ y, isNameStart y = false → x ≠ y := by
    rintro y hy rfl
    rw [h] at hy
    exact absurd hy (by decide)
  refine ⟨?_, hdigit, hother _ (by decide), hother _ (by decide), hother _ (by decide), hother _ (by decide)⟩
  simp only [isQuote, Bool.or_eq_false_iff, beq_eq_false_iff_ne]
  exact ⟨⟨hother _ (by decide), hother _ (by decide)⟩, hother _ (by decide)⟩

theorem isNameStart_of_isQuote {x : Char} (h : isQuote x = true) : isNameStart x = false := by
  simp only [isQuote, Bool.or_eq_true, beq_iff_eq] at h
  rcases h with (rfl | rfl) | rfl <;> decide

theorem isQuote_of_startsNumber {x : Char} {xs : List Char} (h : startsNumber (x :: xs) = true) : isQuote x = false := by
  simp only [isQuote, Bool.or_eq_false_iff, beq_eq_false_iff_ne]
  refine ⟨⟨?_, ?_⟩, ?_⟩
  all_goals
    rintro rfl
    simp [startsNumber, Char.isDigit] at h

theorem startsNumber_append {w cs : List Char} (h : startsNumber w = true) : startsNumber (w ++ cs) = true := by
  match w, h with
  | [x], h => 
    have hd : x.isDigit = true := by simpa [startsNumber] using h
    simp [startsNumber, hd]
  | x :: y :: w, h => simpa [startsNumber] using h

section

variable {rule : LiteralRule} {c : Cursor} {w cs : List Char}

theorem parseExpressionAt_of_spellsString (fuel : Nat) {text : List Char} (hc : Text.trimStart c.rest = w ++ cs)
    (h : SpellsString rule w text) :
    ∃ d, parseExpressionAt (fuel + 1) c = .ok (.literal (.string (String.ofList text)), d) ∧ d.rest = cs := by
  have hc' : c.skipBlanks.rest = w ++ cs := by rw [Cursor.rest_skipBlanks, hc]
  obtain ⟨d, hd, hr⟩ := parseString_of_spellsString hc' h
  obtain ⟨quote, body, rfl, hq, -⟩ := h
  refine ⟨d, ?_, hr⟩
  rw [List.cons_append] at hc'
  simp only [parseExpressionAt, hc', hq, hd, if_true, bind, Except.bind, pure, Except.pure]

theorem parseExpressionAt_of_spellsNumber (fuel : Nat) {l : Literal} (hc : Text.trimStart c.rest = w ++ cs)
    (h : SpellsNumber w cs l) : ∃ d, parseExpressionAt (fuel + 1) c = .ok (.literal l, d) ∧ d.rest = cs := by
  have hc' : c.skipBlanks.rest = w ++ cs := by rw [Cursor.rest_skipBlanks, hc]
  obtain ⟨d, hd, hr⟩ := parseNumber_of_spellsNumber hc' h
  refine ⟨d, ?_, hr⟩
  have hstart : startsNumber (w ++ cs) = true := by
    obtain ⟨-, -, -, -, hstart, -⟩ := h
    exact startsNumber_append hstart
  obtain ⟨x, xs, hx⟩ := List.exists_cons_of_ne_nil (List.append_ne_nil_of_left_ne_nil h.ne_nil cs)
  rw [hx] at hc' hstart
  have hq := isQuote_of_startsNumber hstart
  simp only [startsNumber] at hstart
  simp only [parseExpressionAt, hc', hq, hstart, hd, if_true, if_false, Bool.false_eq_true, bind, Except.bind, pure,
    Except.pure]

theorem parseExpressionAt_of_isName (fuel : Nat) (hc : Text.trimStart c.rest = w ++ cs) (hn : IsName w)
    (hends : StartsNot isNameChar cs) :
    ∃ d, d.rest = cs ∧ parseExpressionAt (fuel + 1) c = parseNamed fuel c.skipBlanks (String.ofList w) d := by
  have hc' : c.skipBlanks.rest = w ++ cs := by rw [Cursor.rest_skipBlanks, hc]
  obtain ⟨d, hd, hr⟩ := parseName?_of_isName hn hc' hends
  refine ⟨d, hr, ?_⟩
  obtain ⟨x, xs, rfl, hx, -⟩ := hn
  obtain ⟨hq, hdigit, hminus, hpoint, hbracket, hbrace⟩ := not_special_of_isNameStart hx
  rw [List.cons_append] at hc'
  simp only [parseExpressionAt, hc', hq, hdigit, hminus, hpoint, hbracket, hbrace, hd, if_false, Bool.false_eq_true,
    decide_false, Bool.false_or, Bool.false_and]

theorem parseExpressionAt_bracket (fuel : Nat) (hc : Text.trimStart c.rest = '[' :: cs) :
    parseExpressionAt (fuel + 1) c = do
      let (items, d) ← parseItems fuel (c.skipBlanks.skip 1) ']' .endOfArray
      return (.array items, d) := by
  have hc' : c.skipBlanks.rest = '[' :: cs := by rw [Cursor.rest_skipBlanks, hc]
  have hq : isQuote '[' = false := by decide
  have hn : startsNumber ('[' :: cs) = false := by simp [startsNumber, Char.isDigit]
  rw [startsNumber] at hn
  simp only [parseExpressionAt, hc', hq, hn, if_true, if_false, Bool.false_eq_true]

theorem parseExpressionAt_brace (fuel : Nat) (hc : Text.trimStart c.rest = '\x7b' :: cs) :
    parseExpressionAt (fuel + 1) c = do
      let (entries, d) ← parseEntries fuel (c.skipBlanks.skip 1)
      return (.object entries, d) := by
  have hc' : c.skipBlanks.rest = '\x7b' :: cs := by rw [Cursor.rest_skipBlanks, hc]
  have hq : isQuote '\x7b' = false := by decide
  have hn : startsNumber ('\x7b' :: cs) = false := by simp [startsNumber, Char.isDigit]
  have hb : '\x7b' ≠ '[' := by decide
  rw [startsNumber] at hn
  simp only [parseExpressionAt, hc', hq, hn, hb, if_true, if_false, Bool.false_eq_true]

end

/-- With fuel for the characters of a text, the parser reads the phrase at its start and leaves the second text. -/
def Phrase.Accepted (φ : Phrase) (cs ds : List Char) : Prop :=
  ∀ (fuel : Nat) (c : Cursor) (expected : Expectation), c.rest = cs → 3 * cs.length + φ.cost ≤ fuel →
    ∃ d, φ.Parsed fuel expected c d ∧ d.rest = ds

theorem Phrase.cost_pos (φ : Phrase) : 0 < φ.cost := by
  cases φ <;> simp [Phrase.cost]

/-- A phrase takes a unit of fuel itself. -/
theorem Phrase.Accepted.intro {φ : Phrase} {cs ds : List Char}
    (h : ∀ (fuel : Nat) (c : Cursor) (expected : Expectation), c.rest = cs → 3 * cs.length + φ.cost ≤ fuel + 1 →
      ∃ d, φ.Parsed (fuel + 1) expected c d ∧ d.rest = ds) : φ.Accepted cs ds := by
  intro fuel c expected hc hf
  have := φ.cost_pos
  obtain ⟨fuel, rfl⟩ := Nat.exists_eq_add_one_of_ne_zero (by omega : fuel ≠ 0)
  exact h fuel c expected hc hf

section

variable {rule : LiteralRule} {cs cs' ds ds' fs w u text : List Char} {close : Char} {key : String} {e value : Expression}
  {es : List Expression} {entries : List (String × Expression)} {steps : List (Accessor Expression)}

/-! ### Expressions -/

theorem accepted_string (start : Text.trimStart cs = w ++ ds) (literal : SpellsString rule w text) :
    Phrase.Accepted (.expression (.literal (.string (String.ofList text)))) cs ds := by
  refine .intro ?_
  rintro fuel c expected rfl -
  exact parseExpressionAt_of_spellsString fuel start literal

theorem accepted_number {l : Literal} (start : Text.trimStart cs = w ++ ds) (number : SpellsNumber w ds l) :
    Phrase.Accepted (.expression (.literal l)) cs ds := by
  refine .intro ?_
  rintro fuel c expected rfl -
  exact parseExpressionAt_of_spellsNumber fuel start number

theorem accepted_array (start : Text.trimStart cs = '[' :: cs') (items : Phrase.Accepted (.items ']' es) cs' ds) :
    Phrase.Accepted (.expression (.array es)) cs ds := by
  refine .intro ?_
  rintro fuel c expected rfl hf
  have hl := length_lt_of_trimStart start
  simp only [Phrase.cost] at hf
  obtain ⟨d, hd, hr⟩ := items fuel (c.skipBlanks.skip 1) .endOfArray (by simp [start]) (by simp only [Phrase.cost]; omega)
  simp only [Phrase.Parsed] at hd ⊢
  refine ⟨d, ?_, hr⟩
  rw [parseExpressionAt_bracket fuel start, hd]
  rfl

theorem accepted_object (start : Text.trimStart cs = '\x7b' :: cs') (read : Phrase.Accepted (.entries entries) cs' ds) :
    Phrase.Accepted (.expression (.object entries)) cs ds := by
  refine .intro ?_
  rintro fuel c expected rfl hf
  have hl := length_lt_of_trimStart start
  simp only [Phrase.cost] at hf
  obtain ⟨d, hd, hr⟩ := read fuel (c.skipBlanks.skip 1) .endOfObject (by simp [start]) (by simp only [Phrase.cost]; omega)
  simp only [Phrase.Parsed] at hd ⊢
  refine ⟨d, ?_, hr⟩
  rw [parseExpressionAt_brace fuel start, hd]
  rfl

/-- What starts with a name is read with two units less. -/
theorem accepted_of_isName {e : Expression} (start : Text.trimStart cs = w ++ cs') (name : IsName w)
    (ends : StartsNot isNameChar cs')
    (h : ∀ (fuel : Nat) (c c' : Cursor), c.rest = w ++ cs' → c'.rest = cs' → 3 * cs'.length + 2 ≤ fuel →
      ∃ d, parseNamed (fuel + 1) c (String.ofList w) c' = .ok (e, d) ∧ d.rest = ds) :
    Phrase.Accepted (.expression e) cs ds := by
  refine .intro ?_
  rintro fuel c expected rfl hf
  have hl := length_le_of_trimStart start
  have hw := List.length_pos_iff.2 name.ne_nil
  rw [List.length_append] at hl
  simp only [Phrase.cost] at hf
  obtain ⟨fuel, rfl⟩ := Nat.exists_eq_add_one_of_ne_zero (by omega : fuel ≠ 0)
  obtain ⟨c', hc', hp⟩ := parseExpressionAt_of_isName (fuel + 1) start name ends
  obtain ⟨d, hd, hr⟩ := h fuel c.skipBlanks c' (by rw [Cursor.rest_skipBlanks, start]) hc' (by omega)
  exact ⟨d, hp.trans hd, hr⟩

theorem accepted_call (start : Text.trimStart cs = w ++ '(' :: cs') (name : IsName w)
    (items : Phrase.Accepted (.items ')' es) cs' ds) :
    Phrase.Accepted (.expression (.call { name := String.ofList w, args := es })) cs ds := by
  refine accepted_of_isName start name (startsNot_cons.2 (by decide)) fun fuel c c' _ hc' hf => ?_
  rw [List.length_cons] at hf
  obtain ⟨d, hd, hr⟩ := items fuel (c'.skip 1) .endOfArguments (by simp [hc']) (by simp only [Phrase.cost]; omega)
  simp only [Phrase.Parsed] at hd
  refine ⟨d, ?_, hr⟩
  have hpeek : c'.peek? = some '(' := by simp [Cursor.peek?, hc']
  simp only [parseNamed, hpeek, if_true, hd]
  rfl

theorem accepted_reserved {l : Literal} (start : Text.trimStart cs = w ++ ds) (name : IsName w)
    (word : reserved? (String.ofList w) = some l) (ends : StartsNot isNameChar ds)
    (bare : StartsNot (fun c => c == '(' || startsStep c) ds) :
    Phrase.Accepted (.expression (.literal l)) cs ds := by
  refine accepted_of_isName start name ends fun fuel c c' _ hc' _ => ⟨c', ?_, hc'⟩
  have hnot : ∀ x, (x == '(' || startsStep x) = true → c'.peek? ≠ some x := by
    intro x hx hpeek
    rw [Cursor.peek?, hc'] at hpeek
    exact Bool.false_ne_true ((bare x hpeek).symm.trans hx)
  have h1 := hnot '(' (by decide)
  have h2 := hnot '.' (by decide)
  have h3 := hnot '[' (by decide)
  simp only [parseNamed, h1, h2, h3, word, if_false, false_or, reduceCtorEq]

theorem accepted_path (start : Text.trimStart cs = w ++ (u ++ ds)) (name : IsName w)
    (ends : StartsNot isNameChar (u ++ ds)) (plain : StartsNot (· == '(') (u ++ ds))
    (free : steps = [] → reserved? (String.ofList w) = none) (rest : Reads rule (.steps steps) (u ++ ds) ds)
    (read : Phrase.Accepted (.steps steps) (u ++ ds) ds) :
    Phrase.Accepted (.expression (.binding { text := String.ofList (w ++ u), head := String.ofList w, steps })) cs ds := by
  refine accepted_of_isName start name ends fun fuel c c' hc hc' hf => ?_
  obtain ⟨d, hd, hr⟩ := read fuel c' .step hc' (by simp only [Phrase.cost]; omega)
  simp only [Phrase.Parsed] at hd
  refine ⟨d, ?_, hr⟩
  have hparen : c'.peek? ≠ some '(' := by
    intro hpeek
    rw [Cursor.peek?, hc'] at hpeek
    simpa using plain '(' hpeek
  have hsteps : c'.peek? = some '.' ∨ c'.peek? = some '[' ∨ reserved? (String.ofList w) = none := by
    by_cases hs : steps = []
    · exact Or.inr (Or.inr (free hs))
    · rw [Cursor.peek?, hc']
      exact (rest.head?_of_steps hs).imp_right Or.inl
  have htext : c.upTo d = w ++ u := Cursor.upTo_eq (by rw [hc, hr, List.append_assoc])
  simp only [parseNamed, hparen, hsteps, if_true, if_false, hd, bind, Except.bind, pure, Except.pure, htext]

/-! ### Steps of a path -/

theorem accepted_noStep (ends : StartsNot startsStep cs) : Phrase.Accepted (.steps []) cs cs := by
  refine .intro ?_
  rintro fuel c expected rfl -
  refine ⟨c, ?_, rfl⟩
  simp only [Phrase.Parsed, parseStepsAt]
  split
  · rename_i hc
    simp [hc, startsNot_cons, startsStep] at ends
  · rename_i hc
    simp [hc, startsNot_cons, startsStep] at ends
  · rfl

theorem accepted_member (name : IsName w) (ends : StartsNot isNameChar cs) (read : Phrase.Accepted (.steps steps) cs ds) :
    Phrase.Accepted (.steps (.member (String.ofList w) :: steps)) ('.' :: (w ++ cs)) ds := by
  refine .intro fun fuel c expected hc hf => ?_
  simp only [Phrase.cost, List.length_cons, List.length_append] at hf
  obtain ⟨e, he, hr⟩ := parseName?_of_isName (c := c.skip 1) name (Cursor.rest_skip_one hc) ends
  obtain ⟨d, hd, hds⟩ := read fuel e .step hr (by simp only [Phrase.cost]; omega)
  simp only [Phrase.Parsed] at hd ⊢
  refine ⟨d, ?_, hds⟩
  simp only [parseStepsAt, hc, he, hd, bind, Except.bind, pure, Except.pure]

theorem accepted_index (shorter : ds.length ≤ cs.length) (index : Phrase.Accepted (.expression e) cs ds)
    (stop : Text.trimStart ds = ']' :: ds') (read : Phrase.Accepted (.steps steps) ds' fs) :
    Phrase.Accepted (.steps (.index e :: steps)) ('[' :: cs) fs := by
  refine .intro fun fuel c expected hc hf => ?_
  have hl := length_lt_of_trimStart stop
  simp only [Phrase.cost, List.length_cons] at hf
  obtain ⟨d, hd, hr⟩ := index fuel (c.skip 1) .expression (Cursor.rest_skip_one hc) (by simp only [Phrase.cost]; omega)
  obtain ⟨d', hd', hr'⟩ := Cursor.expect_of_cons (by rw [hr, stop]) .closingBracket
  obtain ⟨f, hf', hrf⟩ := read fuel d' .step hr' (by simp only [Phrase.cost]; omega)
  simp only [Phrase.Parsed] at hd hf' ⊢
  refine ⟨f, ?_, hrf⟩
  simp only [parseStepsAt, hc, hd, hd', hf', bind, Except.bind, pure, Except.pure]

/-! ### Items -/

theorem accepted_noItem (stop : Text.trimStart cs = close :: ds) : Phrase.Accepted (.items close []) cs ds := by
  refine .intro ?_
  rintro fuel c expected rfl -
  obtain ⟨d, hd, hr⟩ := Cursor.eat?_of_cons stop
  refine ⟨d, ?_, hr⟩
  simp only [Phrase.Parsed, parseItems, hd]

theorem accepted_someItems (start : StartsNot (· == close) (Text.trimStart cs))
    (items : Phrase.Accepted (.moreItems close es) cs ds) : Phrase.Accepted (.items close es) cs ds := by
  refine .intro ?_
  rintro fuel c expected rfl hf
  obtain ⟨d, hd, hr⟩ := items fuel c expected rfl (by simp only [Phrase.cost] at hf ⊢; omega)
  refine ⟨d, ?_, hr⟩
  simp only [Phrase.Parsed, parseItems, Cursor.eat?_of_startsNot start] at hd ⊢
  exact hd

theorem accepted_lastItem (item : Phrase.Accepted (.expression e) cs ds) (stop : Text.trimStart ds = close :: ds')
    (mark : close ≠ ',') : Phrase.Accepted (.moreItems close [e]) cs ds' := by
  refine .intro ?_
  rintro fuel c expected rfl hf
  obtain ⟨d, hd, hr⟩ := item fuel c expected rfl (by simp only [Phrase.cost] at hf ⊢; omega)
  have hcomma : d.eat? ',' = none :=
    Cursor.eat?_of_startsNot (by rw [hr, stop]; exact startsNot_cons.2 (beq_eq_false_iff_ne.2 mark))
  obtain ⟨d', hd', hr'⟩ := Cursor.expect_of_cons (by rw [hr, stop]) expected
  simp only [Phrase.Parsed] at hd ⊢
  refine ⟨d', ?_, hr'⟩
  simp only [parseMoreItems, hd, hcomma, hd', bind, Except.bind, pure, Except.pure]

theorem accepted_nextItem (shorter : ds.length ≤ cs.length) (item : Phrase.Accepted (.expression e) cs ds)
    (comma : Text.trimStart ds = ',' :: ds') (items : Phrase.Accepted (.moreItems close es) ds' fs) :
    Phrase.Accepted (.moreItems close (e :: es)) cs fs := by
  refine .intro ?_
  rintro fuel c expected rfl hf
  have hl := length_lt_of_trimStart comma
  simp only [Phrase.cost] at hf
  obtain ⟨d, hd, hr⟩ := item fuel c expected rfl (by simp only [Phrase.cost]; omega)
  obtain ⟨d', hd', hr'⟩ := Cursor.eat?_of_cons (by rw [hr, comma])
  obtain ⟨f, hf', hrf⟩ := items fuel d' expected hr' (by simp only [Phrase.cost]; omega)
  simp only [Phrase.Parsed] at hd hf' ⊢
  refine ⟨f, ?_, hrf⟩
  simp only [parseMoreItems, hd, hd', hf', bind, Except.bind, pure, Except.pure]

/-! ### Entries -/

theorem accepted_noEntry (stop : Text.trimStart cs = '\x7d' :: ds) : Phrase.Accepted (.entries []) cs ds := by
  refine .intro ?_
  rintro fuel c expected rfl -
  obtain ⟨d, hd, hr⟩ := Cursor.eat?_of_cons stop
  refine ⟨d, ?_, hr⟩
  simp only [Phrase.Parsed, parseEntries, hd]

theorem accepted_someEntries (start : StartsNot (· == '\x7d') (Text.trimStart cs))
    (read : Phrase.Accepted (.moreEntries entries) cs ds) : Phrase.Accepted (.entries entries) cs ds := by
  refine .intro ?_
  rintro fuel c expected rfl hf
  obtain ⟨d, hd, hr⟩ := read fuel c expected rfl (by simp only [Phrase.cost] at hf ⊢; omega)
  refine ⟨d, ?_, hr⟩
  simp only [Phrase.Parsed, parseEntries, Cursor.eat?_of_startsNot start] at hd ⊢
  exact hd

theorem accepted_lastEntry (entry : Phrase.Accepted (.entry key value) cs ds) (stop : Text.trimStart ds = '\x7d' :: ds') :
    Phrase.Accepted (.moreEntries [(key, value)]) cs ds' := by
  refine .intro ?_
  rintro fuel c expected rfl hf
  obtain ⟨d, hd, hr⟩ := entry fuel c expected rfl (by simp only [Phrase.cost] at hf ⊢; omega)
  have hcomma : d.eat? ',' = none :=
    Cursor.eat?_of_startsNot (by rw [hr, stop]; exact startsNot_cons.2 (by decide))
  obtain ⟨d', hd', hr'⟩ := Cursor.expect_of_cons (by rw [hr, stop]) .endOfObject
  simp only [Phrase.Parsed] at hd ⊢
  refine ⟨d', ?_, hr'⟩
  simp only [parseMoreEntries, hd, hcomma, hd', bind, Except.bind, pure, Except.pure]

theorem accepted_nextEntry (shorter : ds.length ≤ cs.length) (entry : Phrase.Accepted (.entry key value) cs ds)
    (comma : Text.trimStart ds = ',' :: ds') (read : Phrase.Accepted (.moreEntries entries) ds' fs) :
    Phrase.Accepted (.moreEntries ((key, value) :: entries)) cs fs := by
  refine .intro ?_
  rintro fuel c expected rfl hf
  have hl := length_lt_of_trimStart comma
  simp only [Phrase.cost] at hf
  obtain ⟨d, hd, hr⟩ := entry fuel c expected rfl (by simp only [Phrase.cost]; omega)
  obtain ⟨d', hd', hr'⟩ := Cursor.eat?_of_cons (by rw [hr, comma])
  obtain ⟨f, hf', hrf⟩ := read fuel d' expected hr' (by simp only [Phrase.cost]; omega)
  simp only [Phrase.Parsed] at hd hf' ⊢
  refine ⟨f, ?_, hrf⟩
  simp only [parseMoreEntries, hd, hd', hf', bind, Except.bind, pure, Except.pure]

theorem accepted_named (start : Text.trimStart cs = w ++ ds) (name : IsName w) (ends : StartsNot isNameChar ds)
    (colon : Text.trimStart ds = ':' :: ds') (read : Phrase.Accepted (.expression value) ds' fs) :
    Phrase.Accepted (.entry (String.ofList w) value) cs fs := by
  refine .intro ?_
  rintro fuel c expected rfl hf
  have hl := length_le_of_trimStart start
  have hl' := length_lt_of_trimStart colon
  rw [List.length_append] at hl
  simp only [Phrase.cost] at hf
  obtain ⟨d, hd, hr⟩ := parseName?_of_isName (c := c.skipBlanks) name (by rw [Cursor.rest_skipBlanks, start]) ends
  obtain ⟨d', hd', hr'⟩ := Cursor.eat?_of_cons (by rw [hr, colon])
  obtain ⟨f, hf', hrf⟩ := read fuel d' .expression hr' (by simp only [Phrase.cost]; omega)
  simp only [Phrase.Parsed] at hf' ⊢
  refine ⟨f, ?_, hrf⟩
  simp only [parseEntry, hd, hd', hf', bind, Except.bind, pure, Except.pure]

theorem accepted_short (start : Text.trimStart cs = w ++ ds) (name : IsName w) (ends : StartsNot isNameChar ds)
    (bare : StartsNot (· == ':') (Text.trimStart ds)) :
    Phrase.Accepted (.entry (String.ofList w) (.binding (.ofName (String.ofList w)))) cs ds := by
  refine .intro ?_
  rintro fuel c expected rfl -
  obtain ⟨d, hd, hr⟩ := parseName?_of_isName (c := c.skipBlanks) name (by rw [Cursor.rest_skipBlanks, start]) ends
  refine ⟨d, ?_, hr⟩
  simp only [Phrase.Parsed, parseEntry, hd, Cursor.eat?_of_startsNot (hr.symm ▸ bare)]

theorem accepted_quoted (start : Text.trimStart cs = w ++ ds) (literal : SpellsString rule w text)
    (colon : Text.trimStart ds = ':' :: ds') (read : Phrase.Accepted (.expression value) ds' fs) :
    Phrase.Accepted (.entry (String.ofList text) value) cs fs := by
  refine .intro ?_
  rintro fuel c expected rfl hf
  have hl := length_le_of_trimStart start
  have hl' := length_lt_of_trimStart colon
  rw [List.length_append] at hl
  simp only [Phrase.cost] at hf
  have hc : c.skipBlanks.rest = w ++ ds := by rw [Cursor.rest_skipBlanks, start]
  obtain ⟨d, hd, hr⟩ := parseString_of_spellsString hc literal
  obtain ⟨d', hd', hr'⟩ := Cursor.expect_of_cons (by rw [hr, colon]) .colon
  obtain ⟨f, hf', hrf⟩ := read fuel d' .expression hr' (by simp only [Phrase.cost]; omega)
  obtain ⟨quote, body, rfl, hq, -⟩ := literal
  have hname : parseName? c.skipBlanks = none :=
    parseName?_eq_none (by rw [hc]; exact startsNot_cons.2 (isNameStart_of_isQuote hq))
  have hquote : (c.skipBlanks.peek?.map isQuote).getD false = true := by simpa [Cursor.peek?, start] using hq
  simp only [Phrase.Parsed] at hf' ⊢
  refine ⟨f, ?_, hrf⟩
  simp only [parseEntry, hname, hquote, if_true, hd, hd', hf', bind, Except.bind, pure, Except.pure]

end

/-- The parser reads what the grammar describes. -/
theorem Reads.parsed {rule : LiteralRule} {φ : Phrase} {cs ds : List Char} (h : Reads rule φ cs ds) : φ.Accepted cs ds := by
  induction h with
  | string start literal => exact accepted_string start literal
  | number start number => exact accepted_number start number
  | array start items ih => exact accepted_array start ih
  | object start entries ih => exact accepted_object start ih
  | call start name items ih => exact accepted_call start name ih
  | reserved start name word ends bare => exact accepted_reserved start name word ends bare
  | path start name ends plain free rest ih => exact accepted_path start name ends plain free rest ih
  | noStep ends => exact accepted_noStep ends
  | member name ends rest ih => exact accepted_member name ends ih
  | index value close rest ihv ih => exact accepted_index value.length_le ihv close ih
  | noItem stop => exact accepted_noItem stop
  | someItems start items ih => exact accepted_someItems start ih
  | lastItem item stop mark ih => exact accepted_lastItem ih stop mark
  | nextItem item comma items ihi ih => exact accepted_nextItem item.length_le ihi comma ih
  | noEntry stop => exact accepted_noEntry stop
  | someEntries start entries ih => exact accepted_someEntries start ih
  | lastEntry entry stop ih => exact accepted_lastEntry ih stop
  | nextEntry entry comma entries ihe ih => exact accepted_nextEntry entry.length_le ihe comma ih
  | named start name ends colon rest ih => exact accepted_named start name ends colon ih
  | short start name ends bare => exact accepted_short start name ends bare
  | quoted start literal colon rest ih => exact accepted_quoted start literal colon ih

/-- A whole text is an expression when the grammar reads the expression and leaves blanks. -/
theorem parseExpression_eq_ok {text : List Char} {e : Expression} :
    parseExpression text = .ok e ↔
      ∃ rest, Reads anyLiteral (.expression e) text rest ∧ Text.trimStart rest = [] := by
  constructor
  · intro h
    obtain ⟨⟨e', c⟩, hp, h⟩ := Except.bind_eq_ok.1 h
    have hr := reads_of_parsed _ (.expression e') .endOfExpression hp
    simp only at h
    split at h
    · rename_i hrest
      rw [← Except.ok.inj h]
      exact ⟨c.rest, hr, by simpa using hrest⟩
    · simp [throw, throwThe, MonadExceptOf.throw] at h
  · rintro ⟨rest, hr, hrest⟩
    obtain ⟨d, hd, hds⟩ := hr.parsed (nestingBound text) (Cursor.ofList text) .endOfExpression rfl
      (Nat.add_le_add_left (by decide : 1 ≤ 3) _)
    simp only [Phrase.Parsed] at hd
    have hempty : d.skipBlanks.rest.isEmpty = true := by rw [Cursor.rest_skipBlanks, hds, hrest]; rfl
    simp only [parseExpression, hd, hempty, if_true, bind, Except.bind, pure, Except.pure]

end PageTemplates
