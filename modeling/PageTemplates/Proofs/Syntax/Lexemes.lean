import Mathlib.Data.List.TakeWhile
import PageTemplates.Syntax.Parser

/-!
# Names, numbers and string literals

What the smallest parts of an expression look like, said of the characters that they take up and of the characters that follow.
A name goes on as far as it can, a number may not run into a name, and a string literal ends where its reader says, whatever
follows it. Main statements: the parser's functions for these parts succeed exactly on such texts.
-/

namespace PageTemplates

/-- The text does not go on with a character of a class. -/
def StartsNot (p : Char → Bool) (cs : List Char) : Prop :=
  ∀ c ∈ cs.head?, p c = false

theorem StartsNot.nil (p : Char → Bool) : StartsNot p [] := by
  simp [StartsNot]

theorem startsNot_cons {p : Char → Bool} {c : Char} {cs : List Char} : StartsNot p (c :: cs) ↔ p c = false := by
  simp [StartsNot]

/-- A text that is cut goes on with what it went on with before, or ends. -/
theorem StartsNot.cut {p : Char → Bool} {u v : List Char} (h : StartsNot p (u ++ v)) : StartsNot p u := by
  cases u with
  | nil => exact StartsNot.nil p
  | cons c u => exact h

theorem StartsNot.mono {p q : Char → Bool} {cs : List Char} (h : StartsNot q cs) (hpq : ∀ c, p c = true → q c = true) :
    StartsNot p cs := by
  intro c hc
  by_contra hp
  rw [Bool.not_eq_false] at hp
  exact Bool.false_ne_true ((h c hc).symm.trans (hpq c hp))

theorem startsNot_dropWhile (p : Char → Bool) (cs : List Char) : StartsNot p (cs.dropWhile p) := by
  intro c hc
  have := List.head?_dropWhile_not p cs
  rw [Option.mem_def.1 hc] at this
  simpa using this

/-! ## Blanks -/

theorem trimStart_of_startsNot {cs : List Char} (h : StartsNot Text.isBlank cs) : Text.trimStart cs = cs := by
  cases cs with
  | nil => rfl
  | cons c cs => simp [Text.trimStart, startsNot_cons.1 h]

theorem trimStart_trimStart (cs : List Char) : Text.trimStart (Text.trimStart cs) = Text.trimStart cs :=
  trimStart_of_startsNot (startsNot_dropWhile _ _)

theorem trimEnd_isPrefixOf (cs : List Char) : Text.trimEnd cs <+: cs := by
  have h := List.reverse_prefix.2 (List.dropWhile_suffix (l := cs.reverse) Text.isBlank)
  rwa [List.reverse_reverse] at h

theorem startsNot_trimStart (cs : List Char) : StartsNot Text.isBlank (Text.trimStart cs) :=
  startsNot_dropWhile _ _

/-- A text is its leading blanks and the rest. -/
theorem exists_blanks (cs : List Char) : ∃ b, (∀ c ∈ b, Text.isBlank c = true) ∧ cs = b ++ Text.trimStart cs :=
  ⟨cs.takeWhile Text.isBlank, fun _ hc => List.mem_takeWhile_imp hc, List.takeWhile_append_dropWhile.symm⟩

theorem trimStart_blanks_append {b : List Char} (hb : ∀ c ∈ b, Text.isBlank c = true) (cs : List Char) :
    Text.trimStart (b ++ cs) = Text.trimStart cs :=
  List.dropWhile_append_of_pos hb

/-- What follows the leading blanks of a text that is cut is what followed them before, cut at the same place. -/
theorem trimStart_append_of_ne_nil {u : List Char} (h : Text.trimStart u ≠ []) (v : List Char) :
    Text.trimStart (u ++ v) = Text.trimStart u ++ v := by
  obtain ⟨b, hb, hu⟩ := exists_blanks u
  obtain ⟨c, cs, hc⟩ := List.exists_cons_of_ne_nil h
  have hs : StartsNot Text.isBlank (Text.trimStart u ++ v) := by
    have := startsNot_trimStart u
    rw [hc] at this ⊢
    exact this
  calc Text.trimStart (u ++ v)
      = Text.trimStart (b ++ (Text.trimStart u ++ v)) := by rw [← List.append_assoc, ← hu]
    _ = Text.trimStart (Text.trimStart u ++ v) := trimStart_blanks_append hb _
    _ = Text.trimStart u ++ v := trimStart_of_startsNot hs

theorem StartsNot.cut_trimStart {p : Char → Bool} {u v : List Char} (h : StartsNot p (Text.trimStart (u ++ v))) :
    StartsNot p (Text.trimStart u) := by
  by_cases hu : Text.trimStart u = []
  · rw [hu]
    exact StartsNot.nil p
  · rw [trimStart_append_of_ne_nil hu] at h
    exact h.cut

/-! ## Cursors -/

namespace Cursor

@[simp]
theorem rest_skip (c : Cursor) (n : Nat) : (c.skip n).rest = c.rest.drop n := rfl

theorem rest_span (c : Cursor) (p : Char → Bool) : (c.span p).2.rest = c.rest.dropWhile p := by
  have h := List.takeWhile_append_dropWhile (p := p) (l := c.rest)
  calc c.rest.drop (c.rest.takeWhile p).length
      = (c.rest.takeWhile p ++ c.rest.dropWhile p).drop (c.rest.takeWhile p).length := by rw [h]
    _ = c.rest.dropWhile p := List.drop_left

@[simp]
theorem rest_skipBlanks (c : Cursor) : c.skipBlanks.rest = Text.trimStart c.rest :=
  rest_span c _

/-- Between a cursor and a later one stands what the first has and the second has not. -/
theorem upTo_eq {c d : Cursor} {w : List Char} (h : c.rest = w ++ d.rest) : c.upTo d = w := by
  simp [upTo, h]

theorem eat?_eq_some {c d : Cursor} {x : Char} (h : c.eat? x = some d) : Text.trimStart c.rest = x :: d.rest := by
  simp only [eat?, peek?, rest_skipBlanks] at h
  split at h
  · rename_i hx
    obtain ⟨xs, hxs⟩ := List.head?_eq_some_iff.1 hx
    rw [← Option.some.inj h]
    simp [hxs]
  · simp at h

theorem eat?_eq_none {c : Cursor} {x : Char} (h : c.eat? x = none) : StartsNot (· == x) (Text.trimStart c.rest) := by
  simp only [eat?, peek?, rest_skipBlanks] at h
  split at h
  · simp at h
  · rename_i hx
    intro y hy
    rw [Option.mem_def.1 hy] at hx
    simpa using hx

theorem eat?_of_cons {c : Cursor} {x : Char} {cs : List Char} (h : Text.trimStart c.rest = x :: cs) :
    ∃ d, c.eat? x = some d ∧ d.rest = cs := by
  simp [eat?, peek?, h]

theorem eat?_of_startsNot {c : Cursor} {x : Char} (h : StartsNot (· == x) (Text.trimStart c.rest)) : c.eat? x = none := by
  simp only [eat?, peek?, rest_skipBlanks]
  split
  · rename_i hx
    have := h x hx
    simp at this
  · rfl

theorem expect_eq_ok {c d : Cursor} {x : Char} {expected : Expectation} (h : c.expect x expected = .ok d) :
    Text.trimStart c.rest = x :: d.rest := by
  unfold expect at h
  split at h
  · rename_i d' hd
    rw [← Except.ok.inj h]
    exact eat?_eq_some hd
  · simp at h

theorem expect_of_cons {c : Cursor} {x : Char} {cs : List Char} (h : Text.trimStart c.rest = x :: cs)
    (expected : Expectation) : ∃ d, c.expect x expected = .ok d ∧ d.rest = cs := by
  obtain ⟨d, hd, hr⟩ := eat?_of_cons h
  exact ⟨d, by simp [expect, hd], hr⟩

end Cursor

/-! ## Names -/

theorem isAlpha_iff {c : Char} :
    c.isAlpha = true ↔ (65 ≤ c.toNat ∧ c.toNat ≤ 90) ∨ (97 ≤ c.toNat ∧ c.toNat ≤ 122) := by
  have h : c.isAlpha = (decide (c.val ≥ 65 ∧ c.val ≤ 90) || (c.val ≥ 97 && c.val ≤ 122)) := rfl
  rw [h, Bool.or_eq_true, Bool.and_eq_true, decide_eq_true_eq, decide_eq_true_eq, decide_eq_true_eq]
  exact Iff.rfl

/-- A name. -/
def IsName (w : List Char) : Prop :=
  ∃ x xs, w = x :: xs ∧ isNameStart x = true ∧ ∀ c ∈ xs, isNameChar c = true

theorem isNameChar_of_isNameStart {c : Char} (h : isNameStart c = true) : isNameChar c = true := by
  simp only [isNameStart, isNameChar, Char.isAlphanum, Bool.or_eq_true] at h ⊢
  rcases h with (h | h) | h <;> simp [h]

theorem IsName.isNameChar {w : List Char} (h : IsName w) : ∀ c ∈ w, isNameChar c = true := by
  obtain ⟨x, xs, rfl, hx, hxs⟩ := h
  intro c hc
  rcases List.mem_cons.1 hc with rfl | hc
  · exact isNameChar_of_isNameStart hx
  · exact hxs c hc

theorem IsName.ne_nil {w : List Char} (h : IsName w) : w ≠ [] := by
  obtain ⟨x, xs, rfl, -⟩ := h
  simp

/-- The name at a cursor goes on as far as it can. -/
theorem parseName?_eq_some {c d : Cursor} {name : String} (h : parseName? c = some (name, d)) :
    ∃ w, IsName w ∧ name = String.ofList w ∧ c.rest = w ++ d.rest ∧ StartsNot isNameChar d.rest := by
  unfold parseName? Cursor.peek? at h
  split at h
  · rename_i x hx
    split at h
    · rename_i hs
      obtain ⟨xs, hxs⟩ := List.head?_eq_some_iff.1 hx
      simp only [Option.some.injEq, Prod.mk.injEq] at h
      obtain ⟨rfl, rfl⟩ := h
      refine ⟨c.rest.takeWhile isNameChar, ⟨x, xs.takeWhile isNameChar, ?_, hs, ?_⟩, rfl, ?_, ?_⟩
      · simp [hxs, isNameChar_of_isNameStart hs]
      · exact fun y hy => List.mem_takeWhile_imp hy
      · rw [Cursor.rest_span, List.takeWhile_append_dropWhile]
      · rw [Cursor.rest_span]
        exact startsNot_dropWhile _ _
    · simp at h
  · simp at h

theorem takeWhile_append_of_startsNot {p : Char → Bool} {w cs : List Char} (hw : ∀ c ∈ w, p c = true)
    (h : StartsNot p cs) : (w ++ cs).takeWhile p = w := by
  rw [List.takeWhile_append_of_pos hw]
  cases cs with
  | nil => simp
  | cons c cs => simp [startsNot_cons.1 h]

theorem parseName?_of_isName {c : Cursor} {w cs : List Char} (hw : IsName w) (hc : c.rest = w ++ cs)
    (h : StartsNot isNameChar cs) : ∃ d, parseName? c = some (String.ofList w, d) ∧ d.rest = cs := by
  have ht : c.rest.takeWhile isNameChar = w := by
    rw [hc]
    exact takeWhile_append_of_startsNot hw.isNameChar h
  refine ⟨(c.span isNameChar).2, ?_, ?_⟩
  · obtain ⟨x, xs, rfl, hx, -⟩ := hw
    have hp : c.peek? = some x := by simp [Cursor.peek?, hc]
    simp only [parseName?, hp, hx, if_true, Cursor.span, ht]
  · have := List.takeWhile_append_dropWhile (p := isNameChar) (l := c.rest)
    rw [ht, hc] at this
    rw [Cursor.rest_span, hc]
    exact List.append_cancel_left this

theorem parseName?_eq_none {c : Cursor} (h : StartsNot isNameStart c.rest) : parseName? c = none := by
  unfold parseName? Cursor.peek?
  split
  · rename_i x hx
    simp [h x hx]
  · rfl

/-! ## String literals -/

namespace StringLiteral

/-- The state after a character that does not close the literal. -/
def State.next (c : Char) : State → State
  | .plain => if c = '\\' then .escaped else .plain
  | .escaped => if c = 'u' then .code [] else .plain
  | .code seen => if seen.length < 3 then .code (seen ++ [c]) else .plain

section

variable {quote c : Char} {state : State} {cs text after : List Char}

/-- A reader goes on from the next state, and puts something in front of what is read from there. -/
theorem exists_read?_cons (h : ¬(state = .plain ∧ c = quote)) :
    ∃ f : List Char → List Char, ∀ cs, read? quote state (c :: cs) =
      (read? quote (state.next c) cs).map fun r => (f r.1, r.2) := by
  cases state with
  | plain =>
    have hq : ¬c = quote := fun hc => h ⟨rfl, hc⟩
    by_cases hb : c = '\\'
    · subst hb
      exact ⟨id, fun cs => by simp [read?, State.next, hq]⟩
    · exact ⟨(c :: ·), fun cs => by simp [read?, State.next, hq, hb]⟩
  | escaped =>
    by_cases hu : c = 'u'
    · exact ⟨id, fun cs => by simp [read?, State.next, hu]⟩
    · exact ⟨(unescape c :: ·), fun cs => by simp [read?, State.next, hu]⟩
  | code seen =>
    by_cases hs : seen.length < 3
    · exact ⟨id, fun cs => by simp [read?, State.next, hs]⟩
    · exact ⟨(codeText (seen ++ [c]) ++ ·), fun cs => by simp [read?, State.next, hs]⟩

/-- The quote closes the literal. -/
theorem read?_quote (h : read? quote .plain (quote :: cs) = some (text, after)) : text = [] ∧ after = cs := by
  simp only [read?, if_true, Option.some.injEq, Prod.mk.injEq] at h
  exact ⟨h.1.symm, h.2.symm⟩

/-- Another character is followed by what is read from the next state. -/
theorem read?_next (hc : ¬(state = .plain ∧ c = quote)) (h : read? quote state (c :: cs) = some (text, after)) :
    ∃ t, read? quote (state.next c) cs = some (t, after) := by
  obtain ⟨f, hf⟩ := exists_read?_cons hc
  rw [hf, Option.map_eq_some_iff] at h
  obtain ⟨⟨t, a⟩, ht, he⟩ := h
  obtain ⟨-, rfl⟩ := Prod.mk.inj he
  exact ⟨t, ht⟩

/-- Reading a literal takes up its characters and leaves the rest, whatever the rest is. -/
theorem read?_append (h : read? quote state cs = some (text, after)) :
    ∃ body, cs = body ++ after ∧ ∀ other, read? quote state (body ++ other) = some (text, other) := by
  induction cs generalizing state text with
  | nil => cases state <;> simp [read?] at h
  | cons c cs ih =>
    by_cases hc : state = .plain ∧ c = quote
    · obtain ⟨rfl, rfl⟩ := hc
      obtain ⟨rfl, rfl⟩ := read?_quote h
      exact ⟨[c], rfl, fun other => by simp [read?]⟩
    · obtain ⟨f, hf⟩ := exists_read?_cons hc
      rw [hf, Option.map_eq_some_iff] at h
      obtain ⟨⟨t, a⟩, ht, he⟩ := h
      obtain ⟨rfl, rfl⟩ := Prod.mk.inj he
      obtain ⟨body, rfl, hb⟩ := ih ht
      exact ⟨c :: body, rfl, fun other => by rw [List.cons_append, hf, hb]; rfl⟩

/-- A literal ends with its quote. -/
theorem getLast?_of_read? (h : read? quote state cs = some (text, [])) : cs.getLast? = some quote := by
  induction cs generalizing state text with
  | nil => cases state <;> simp [read?] at h
  | cons c cs ih =>
    by_cases hc : state = .plain ∧ c = quote
    · obtain ⟨rfl, rfl⟩ := hc
      obtain ⟨-, rfl⟩ := read?_quote h
      rfl
    · obtain ⟨t, ht⟩ := read?_next hc h
      rw [List.getLast?_cons, ih ht]
      rfl

end

end StringLiteral

/-- A condition on string literals, by their quote and the characters after it, the closing quote included. -/
abbrev LiteralRule := Char → List Char → Prop

/-- No condition on string literals. -/
def anyLiteral : LiteralRule := fun _ _ => True

/-- The text `w` is a string literal that meets a rule and stands for `text`, whatever follows it. -/
def SpellsString (rule : LiteralRule) (w text : List Char) : Prop :=
  ∃ quote body, w = quote :: body ∧ isQuote quote = true ∧
    (∀ after, StringLiteral.read? quote .plain (body ++ after) = some (text, after)) ∧ rule quote body

theorem spellsString_of_parseString {c d : Cursor} {s : String} (hq : ∀ x ∈ c.rest.head?, isQuote x = true)
    (h : parseString c = .ok (s, d)) :
    ∃ w text, c.rest = w ++ d.rest ∧ s = String.ofList text ∧ SpellsString anyLiteral w text := by
  unfold parseString at h
  split at h
  · simp at h
  · rename_i quote body hc
    split at h
    · simp at h
    · rename_i text after hr
      simp only [Except.ok.injEq, Prod.mk.injEq] at h
      obtain ⟨rfl, rfl⟩ := h
      obtain ⟨b, rfl, hb⟩ := StringLiteral.read?_append hr
      have hd : (c.skip (c.rest.length - after.length)).rest = after := by
        rw [Cursor.rest_skip, hc, ← List.cons_append, List.length_append, Nat.add_sub_cancel, List.drop_left]
      exact ⟨quote :: b, text, hc.trans (by rw [hd]; rfl), rfl, quote, b, rfl, hq quote (by simp [hc]), hb, trivial⟩

theorem parseString_of_spellsString {rule : LiteralRule} {c : Cursor} {w text after : List Char} (hc : c.rest = w ++ after)
    (h : SpellsString rule w text) : ∃ d, parseString c = .ok (String.ofList text, d) ∧ d.rest = after := by
  obtain ⟨quote, body, rfl, -, hr, -⟩ := h
  refine ⟨c.skip (c.rest.length - after.length), ?_, ?_⟩
  · rw [List.cons_append] at hc
    simp [parseString, hc, hr after]
  · rw [Cursor.rest_skip, hc, List.length_append, Nat.add_sub_cancel, List.drop_left]

/-! ## Numbers -/

theorem scanNumber_cons_digit (f : Bool) {c : Char} (cs : List Char) (h : (c.isDigit || c == '_') = true) :
    scanNumber f (c :: cs) = ((scanNumber f cs).1, c :: (scanNumber f cs).2) := by
  rw [scanNumber.eq_def]
  simp only [h, if_true]

theorem scanNumber_cons_point (cs : List Char) (h : (cs.head?.map Char.isDigit).getD false = true) :
    scanNumber false ('.' :: cs) = ((scanNumber true cs).1, '.' :: (scanNumber true cs).2) := by
  rw [scanNumber.eq_def]
  simp [h]

theorem scanNumber_cons_point_of_not {f : Bool} {cs : List Char}
    (h : ¬(!f && (cs.head?.map Char.isDigit).getD false) = true) : scanNumber f ('.' :: cs) = (f, []) := by
  rw [scanNumber.eq_def]
  simp [h]

theorem scanNumber_cons_sign (f : Bool) {c s : Char} (cs : List Char) (hd : ¬(c.isDigit || c == '_') = true) (hp : c ≠ '.')
    (he : (decide (c = 'e') || decide (c = 'E')) = true) (hs : (decide (s = '+') || decide (s = '-')) = true) :
    scanNumber f (c :: s :: cs) = (true, c :: s :: (scanNumber true cs).2) := by
  rw [scanNumber.eq_def]
  simp only [hd, hp, he, hs, if_true, if_false, Bool.false_eq_true]

theorem scanNumber_cons_mark (f : Bool) {c : Char} {cs : List Char} (hd : ¬(c.isDigit || c == '_') = true) (hp : c ≠ '.')
    (he : (decide (c = 'e') || decide (c = 'E')) = true)
    (hs : StartsNot (fun s => decide (s = '+') || decide (s = '-')) cs) :
    scanNumber f (c :: cs) = ((scanNumber true cs).1, c :: (scanNumber true cs).2) := by
  rw [scanNumber.eq_def]
  cases cs with
  | nil => simp only [scanNumber, hd, hp, he, if_true, if_false, Bool.false_eq_true]
  | cons s cs => simp only [hd, hp, he, startsNot_cons.1 hs, if_true, if_false, Bool.false_eq_true]

theorem scanNumber_cons_other (f : Bool) {c : Char} (cs : List Char) (hd : ¬(c.isDigit || c == '_') = true) (hp : c ≠ '.')
    (he : ¬(decide (c = 'e') || decide (c = 'E')) = true) : scanNumber f (c :: cs) = (f, []) := by
  rw [scanNumber.eq_def]
  simp only [hd, hp, he, if_false, Bool.false_eq_true]

/-- A number ends where it ends, also when the text after it is cut. -/
theorem scanNumber_append (f : Bool) (cs : List Char) :
    ∃ after, cs = (scanNumber f cs).2 ++ after ∧
      ∀ u v, after = u ++ v → scanNumber f ((scanNumber f cs).2 ++ u) = scanNumber f cs := by
  induction f, cs using scanNumber.induct with
  | case1 f => exact ⟨[], rfl, fun u v h => by simp [(List.append_eq_nil_iff.1 h.symm).1, scanNumber]⟩
  | case2 f c cs hd ih =>
    obtain ⟨after, h, hu⟩ := ih f
    rw [scanNumber_cons_digit f cs hd]
    refine ⟨after, by rw [List.cons_append, ← h], fun u v huv => ?_⟩
    rw [List.cons_append, scanNumber_cons_digit f _ hd, hu u v huv]
  | case3 f cs hp hd ih =>
    simp only [Bool.and_eq_true, Bool.not_eq_true'] at hp
    obtain ⟨rfl, hp⟩ := hp
    obtain ⟨after, h, hu⟩ := ih true
    rw [scanNumber_cons_point cs hp]
    refine ⟨after, by rw [List.cons_append, ← h], fun u v huv => ?_⟩
    have hp' : (((scanNumber true cs).2 ++ u).head?.map Char.isDigit).getD false = true := by
      cases cs with
      | nil => simp at hp
      | cons d ds =>
        rw [scanNumber_cons_digit true ds (by simpa using Or.inl hp)]
        simpa using hp
    rw [List.cons_append, scanNumber_cons_point _ hp', hu u v huv]
  | case4 f cs hp hd ih =>
    rw [scanNumber_cons_point_of_not hp]
    refine ⟨'.' :: cs, rfl, fun u v huv => ?_⟩
    cases u with
    | nil => rfl
    | cons x u =>
      obtain ⟨rfl, rfl⟩ := List.cons.inj huv
      refine scanNumber_cons_point_of_not fun hu => hp ?_
      cases u with
      | nil => simp at hu
      | cons y u => exact hu
  | case5 f c hd hp he s r hs float text ht ih ih' =>
    obtain ⟨after, h, hu⟩ := ih'
    rw [scanNumber_cons_sign f r hd hp he hs]
    refine ⟨after, by rw [List.cons_append, List.cons_append, ← h], fun u v huv => ?_⟩
    rw [List.cons_append, List.cons_append, scanNumber_cons_sign f _ hd hp he hs, hu u v huv]
  | case6 f c hd hp he s r hs ih =>
    obtain ⟨after, h, hu⟩ := ih true
    have hs' : StartsNot (fun s => decide (s = '+') || decide (s = '-')) (s :: r) := by
      simpa [startsNot_cons] using hs
    rw [scanNumber_cons_mark f hd hp he hs']
    refine ⟨after, by rw [List.cons_append, ← h], fun u v huv => ?_⟩
    have hs'' : StartsNot (fun s => decide (s = '+') || decide (s = '-')) ((scanNumber true (s :: r)).2 ++ u) := by
      have hsr : s :: r = ((scanNumber true (s :: r)).2 ++ u) ++ v := by rw [List.append_assoc, ← huv, ← h]
      exact (hsr ▸ hs').cut
    rw [List.cons_append, scanNumber_cons_mark f hd hp he hs'', hu u v huv]
  | case7 f c hd hp he ih =>
    rw [scanNumber_cons_mark f hd hp he (StartsNot.nil _)]
    refine ⟨[], rfl, fun u v huv => ?_⟩
    rw [(List.append_eq_nil_iff.1 huv.symm).1, List.append_nil]
    exact scanNumber_cons_mark f hd hp he (StartsNot.nil _)
  | case8 f c cs hd hp he ih =>
    rw [scanNumber_cons_other f cs hd hp he]
    refine ⟨c :: cs, rfl, fun u v huv => ?_⟩
    cases u with
    | nil => rfl
    | cons x u =>
      obtain ⟨rfl, rfl⟩ := List.cons.inj huv
      exact scanNumber_cons_other f u hd hp he

/-- A number starts with a digit, or with a sign or a point before one. -/
def startsNumber : List Char → Bool
  | [] => false
  | x :: xs => x.isDigit || ((x = '-' || x = '.') && (xs.head?.map Char.isDigit).getD false)

/-- The constant that the digits of a number denote. -/
def numberValue? (isFloat : Bool) (digits : List Char) : Option Literal :=
  let float := (Decimal.readFloat? digits).map Literal.float
  if isFloat then float
  else match Decimal.readInt64? digits with
    | some n => some (.int n)
    | none => float

/-- The text `w` is a number with the value `l`, when it is followed by `after`. -/
def SpellsNumber (w after : List Char) (l : Literal) : Prop :=
  ∃ sign body isFloat, w = sign ++ body ∧ startsNumber w = true ∧ (sign = ['-'] ∨ sign = [] ∧ StartsNot (· == '-') body) ∧
    scanNumber false (body ++ after) = (isFloat, body) ∧ StartsNot isNameChar after ∧
    numberValue? isFloat (w.filter (· != '_')) = some l

/-- The sign that a number starts with. -/
def numberSign (cs : List Char) : List Char :=
  if cs.head? = some '-' then ['-'] else []

theorem numberSign_append_drop (cs : List Char) : numberSign cs ++ cs.drop (numberSign cs).length = cs := by
  unfold numberSign
  split
  · rename_i h
    obtain ⟨xs, rfl⟩ := List.head?_eq_some_iff.1 h
    rfl
  · rfl

/-- The number parser reads a sign and what the scan takes, and gives the value unless a name goes on. -/
theorem parseNumber_eq (c : Cursor) {isFloat : Bool} {body : List Char}
    (h : scanNumber false (c.rest.drop (numberSign c.rest).length) = (isFloat, body)) :
    parseNumber c =
      let d := c.skip (numberSign c.rest ++ body).length
      if (d.peek?.map isNameChar).getD false then .error (d.unexpected .endOfNumber)
      else match numberValue? isFloat ((numberSign c.rest ++ body).filter (· != '_')) with
        | some l => .ok (l, d)
        | none => .error (.invalidNumber (String.ofList (numberSign c.rest ++ body))) := by
  have hsign : (if c.peek? = some '-' then ['-'] else []) = numberSign c.rest := rfl
  simp only [parseNumber, hsign, h, numberValue?]
  generalize (numberSign c.rest ++ body).filter (· != '_') = digits
  cases isFloat <;> cases Decimal.readFloat? digits <;> cases Decimal.readInt64? digits <;> rfl

/-- A scan that starts at a character of a number takes that character. -/
theorem scanNumber_of_digit (f : Bool) {c : Char} (cs : List Char) (h : c.isDigit = true) :
    (scanNumber f (c :: cs)).2 = c :: (scanNumber f cs).2 := by
  rw [scanNumber_cons_digit f cs (by simp [h])]

/-- What makes a text start with a number is part of the number. -/
theorem startsNumber_scanned {cs : List Char} (h : startsNumber cs = true) :
    startsNumber (numberSign cs ++ (scanNumber false (cs.drop (numberSign cs).length)).2) = true := by
  have hdigit : ∀ (f : Bool) (r : List Char), (r.head?.map Char.isDigit).getD false = true →
      ((scanNumber f r).2.head?.map Char.isDigit).getD false = true := by
    intro f r hr
    cases r with
    | nil => simp at hr
    | cons d r => rw [scanNumber_of_digit f r (by simpa using hr)]; simpa using hr
  cases cs with
  | nil => simp [startsNumber] at h
  | cons x xs =>
    by_cases hx : x = '-'
    · subst hx
      have hr : (xs.head?.map Char.isDigit).getD false = true := by simpa [startsNumber] using h
      simpa [numberSign, startsNumber] using hdigit false xs hr
    · have hn : numberSign (x :: xs) = [] := by simp [numberSign, hx]
      rw [hn, List.nil_append, List.length_nil, List.drop_zero]
      by_cases hd : x.isDigit = true
      · rw [scanNumber_of_digit false xs hd]
        simp [startsNumber, hd]
      · have hp : x = '.' ∧ (xs.head?.map Char.isDigit).getD false = true := by
          simpa [startsNumber, hx, hd] using h
        obtain ⟨rfl, hr⟩ := hp
        rw [scanNumber_cons_point xs hr]
        simpa [startsNumber] using hdigit true xs hr

theorem spellsNumber_of_parseNumber {c d : Cursor} {l : Literal} (hs : startsNumber c.rest = true)
    (h : parseNumber c = .ok (l, d)) : ∃ w, c.rest = w ++ d.rest ∧ SpellsNumber w d.rest l := by
  obtain ⟨isFloat, body, hb⟩ : ∃ f b, scanNumber false (c.rest.drop (numberSign c.rest).length) = (f, b) := ⟨_, _, rfl⟩
  obtain ⟨after, ha, -⟩ := scanNumber_append false (c.rest.drop (numberSign c.rest).length)
  have hstart := startsNumber_scanned hs
  rw [hb] at ha hstart
  have hc : c.rest = numberSign c.rest ++ body ++ after := by
    rw [List.append_assoc, ← ha, numberSign_append_drop]
  have hd : (c.skip (numberSign c.rest ++ body).length).rest = after := by
    calc c.rest.drop (numberSign c.rest ++ body).length
        = (numberSign c.rest ++ body ++ after).drop (numberSign c.rest ++ body).length := by rw [← hc]
      _ = after := List.drop_left
  have hsign : numberSign c.rest = ['-'] ∨ numberSign c.rest = [] ∧ StartsNot (· == '-') body := by
    by_cases hm : c.rest.head? = some '-'
    · exact Or.inl (by simp [numberSign, hm])
    · have hn : numberSign c.rest = [] := by simp [numberSign, hm]
      rw [hn, List.nil_append] at hc
      refine Or.inr ⟨hn, StartsNot.cut (v := after) ?_⟩
      intro x hx
      rw [← hc] at hx
      rw [Option.mem_def.1 hx] at hm
      simpa using hm
  rw [parseNumber_eq c hb] at h
  simp only [Cursor.peek?, hd] at h
  split at h
  · simp at h
  · rename_i hend
    split at h
    · rename_i v hv
      simp only [Except.ok.injEq, Prod.mk.injEq] at h
      obtain ⟨rfl, rfl⟩ := h
      rw [hd]
      refine ⟨_, hc, numberSign c.rest, body, isFloat, rfl, hstart, hsign, ha ▸ hb, ?_, hv⟩
      intro x hx
      rw [Option.mem_def.1 hx] at hend
      simpa using hend
    · simp at h

/-- A number stays one when the text after it is cut. -/
theorem SpellsNumber.cut {w u v : List Char} {l : Literal} (h : SpellsNumber w (u ++ v) l) : SpellsNumber w u l := by
  obtain ⟨sign, body, isFloat, rfl, hstart, hsign, hscan, hend, hv⟩ := h
  obtain ⟨after, ha, hu⟩ := scanNumber_append false (body ++ (u ++ v))
  rw [hscan] at ha hu
  exact ⟨sign, body, isFloat, rfl, hstart, hsign, hu u v (List.append_cancel_left ha.symm), hend.cut, hv⟩

theorem parseNumber_of_spellsNumber {c : Cursor} {l : Literal} {w after : List Char} (hc : c.rest = w ++ after)
    (h : SpellsNumber w after l) : ∃ d, parseNumber c = .ok (l, d) ∧ d.rest = after := by
  obtain ⟨sign, body, isFloat, rfl, hstart, hsign, hscan, hend, hv⟩ := h
  have hs : numberSign c.rest = sign := by
    rcases hsign with rfl | ⟨rfl, hb⟩
    · simp [numberSign, hc]
    · cases body with
      | nil => simp [startsNumber] at hstart
      | cons x body =>
        have hx : x ≠ '-' := by simpa [startsNot_cons] using hb
        simp [numberSign, hc, hx]
  have hrest : scanNumber false (c.rest.drop (numberSign c.rest).length) = (isFloat, body) := by
    rw [hs, hc, List.append_assoc, List.drop_left, hscan]
  have hd : (c.skip (sign ++ body).length).rest = after := by
    rw [Cursor.rest_skip, hc, List.drop_left]
  refine ⟨c.skip (sign ++ body).length, ?_, hd⟩
  have hnot : ((c.skip (sign ++ body).length).peek?.map isNameChar).getD false = false := by
    rw [Cursor.peek?, hd]
    cases after with
    | nil => rfl
    | cons x after => simpa [startsNot_cons] using hend
  rw [parseNumber_eq c hrest, hs]
  simp only [hnot, Bool.false_eq_true, if_false, hv]

/-- The characters of a number. -/
def isNumberChar (c : Char) : Bool :=
  isNameChar c || c == '.' || c == '+' || c == '-'

theorem isNumberChar_of_isDigit {c : Char} (h : (c.isDigit || c == '_') = true) : isNumberChar c = true := by
  simp only [isNumberChar, isNameChar, Char.isAlphanum, Bool.or_eq_true] at h ⊢
  rcases h with h | h <;> simp [h]

theorem isNumberChar_of_isExponentMark {c : Char} (h : (decide (c = 'e') || decide (c = 'E')) = true) :
    isNumberChar c = true := by
  simp only [Bool.or_eq_true, decide_eq_true_eq] at h
  rcases h with rfl | rfl <;> decide

theorem isNumberChar_of_isSign {c : Char} (h : (decide (c = '+') || decide (c = '-')) = true) : isNumberChar c = true := by
  simp only [Bool.or_eq_true, decide_eq_true_eq] at h
  rcases h with rfl | rfl <;> decide

theorem isNumberChar_of_mem_scanNumber (f : Bool) (cs : List Char) : ∀ c ∈ (scanNumber f cs).2, isNumberChar c = true := by
  induction f, cs using scanNumber.induct with
  | case1 f => simp [scanNumber]
  | case2 f c cs hd ih =>
    rw [scanNumber_cons_digit f cs hd]
    exact List.forall_mem_cons.2 ⟨isNumberChar_of_isDigit hd, ih f⟩
  | case3 f cs hp hd ih =>
    simp only [Bool.and_eq_true, Bool.not_eq_true'] at hp
    obtain ⟨rfl, hp⟩ := hp
    rw [scanNumber_cons_point cs hp]
    exact List.forall_mem_cons.2 ⟨by decide, ih true⟩
  | case4 f cs hp hd ih =>
    rw [scanNumber_cons_point_of_not hp]
    simp
  | case5 f c hd hp he s r hs float text ht ih ih' =>
    rw [scanNumber_cons_sign f r hd hp he hs]
    exact List.forall_mem_cons.2 ⟨isNumberChar_of_isExponentMark he, List.forall_mem_cons.2 ⟨isNumberChar_of_isSign hs, ih'⟩⟩
  | case6 f c hd hp he s r hs ih =>
    rw [scanNumber_cons_mark f hd hp he (by simpa [startsNot_cons] using hs)]
    exact List.forall_mem_cons.2 ⟨isNumberChar_of_isExponentMark he, ih true⟩
  | case7 f c hd hp he ih =>
    rw [scanNumber_cons_mark f hd hp he (StartsNot.nil _)]
    exact List.forall_mem_cons.2 ⟨isNumberChar_of_isExponentMark he, by simp [scanNumber]⟩
  | case8 f c cs hd hp he ih =>
    rw [scanNumber_cons_other f cs hd hp he]
    simp

theorem SpellsNumber.chars {w after : List Char} {l : Literal} (h : SpellsNumber w after l) :
    ∀ c ∈ w, isNumberChar c = true := by
  obtain ⟨sign, body, isFloat, rfl, -, hsign, hscan, -⟩ := h
  intro c hc
  rcases List.mem_append.1 hc with hc | hc
  · rcases hsign with rfl | ⟨rfl, -⟩
    · rw [List.mem_singleton.1 hc]
      decide
    · simp at hc
  · have := isNumberChar_of_mem_scanNumber false (body ++ after) c
    rw [hscan] at this
    exact this hc

end PageTemplates
