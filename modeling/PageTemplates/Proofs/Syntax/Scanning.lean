import PageTemplates.Proofs.Syntax.Grammar
import PageTemplates.Syntax.Fragment

/-!
# The scan for the end of a span

The scan that looks for the two closing braces of a span knows nothing of the grammar. It passes over a text when it cannot
stop inside and takes up the text whole. Main statement: it passes over every phrase whose literals are clear, and comes out
where it went in (`Reads.passes`). A literal is clear when no `\u` code in it takes in a quote or a backslash: there the
literal's reader and the scan disagree on where the literal ends.
-/

namespace PageTemplates

/-! ## Passing over a text -/

/-- From one state the scan goes over a text without stopping and comes to another state. -/
def Passes (s : ScanState) (w : List Char) (s' : ScanState) : Prop :=
  ∀ rest, splitCloseFrom s (w ++ rest) = (splitCloseFrom s' rest).map fun (inner, after) => (w ++ inner, after)

theorem Passes.nil (s : ScanState) : Passes s [] s := by
  intro rest
  simp

theorem Passes.append {s s' s'' : ScanState} {v w : List Char} (h : Passes s v s') (h' : Passes s' w s'') :
    Passes s (v ++ w) s'' := by
  intro rest
  rw [List.append_assoc, h, h', Option.map_map]
  congr 1
  funext r
  simp

/-- The scan passes over a character that is not the first of two closing braces. -/
theorem Passes.cons {s s' : ScanState} {c : Char} {w : List Char} (hc : s = .outside 0 → c ≠ '\x7d')
    (h : Passes (s.step c) w s') : Passes s (c :: w) s' := by
  intro rest
  rw [List.cons_append, splitCloseFrom, if_neg fun hs => hc hs.1 hs.2.1, h, Option.map_map]
  rfl

/-- A character that means nothing to the scan outside of literals. -/
def isInert (c : Char) : Bool :=
  !isQuote c && c != '\x7b' && c != '\x7d'

theorem passes_of_inert {k : Nat} {w : List Char} (h : ∀ c ∈ w, isInert c = true) : Passes (.outside k) w (.outside k) := by
  induction w with
  | nil => exact .nil _
  | cons c w ih =>
    obtain ⟨hc, hw⟩ := List.forall_mem_cons.1 h
    simp only [isInert, Bool.and_eq_true, Bool.not_eq_true', bne_iff_ne, ne_eq] at hc
    obtain ⟨⟨hq, hopen⟩, hclose⟩ := hc
    refine .cons (fun _ => hclose) ?_
    simp only [ScanState.step, hq, hopen, hclose, if_false, Bool.false_eq_true]
    exact ih hw

theorem passes_mark {k : Nat} {c : Char} (h : isInert c = true) : Passes (.outside k) [c] (.outside k) :=
  passes_of_inert (by simpa using h)

theorem passes_open (k : Nat) : Passes (.outside k) ['\x7b'] (.outside (k + 1)) :=
  .cons (fun _ => by decide) (.nil _)

theorem passes_close (k : Nat) : Passes (.outside (k + 1)) ['\x7d'] (.outside k) :=
  .cons (fun h => by simp at h) (.nil _)

/-- The characters of a class without quotes and braces mean nothing to the scan. -/
theorem isInert_of_class {p : Char → Bool} {c : Char} (hmarks : ['\x27', '"', '\x60', '\x7b', '\x7d'].any p = false)
    (h : p c = true) : isInert c = true := by
  have hne : ∀ x ∈ ['\x27', '"', '\x60', '\x7b', '\x7d'], c ≠ x := by
    rintro x hx rfl
    exact List.any_eq_false.1 hmarks c hx h
  simp only [isInert, isQuote, Bool.and_eq_true, Bool.not_eq_true', Bool.or_eq_false_iff, beq_eq_false_iff_ne, bne_iff_ne]
  simpa [and_assoc] using hne

theorem isInert_of_isBlank {c : Char} (h : Text.isBlank c = true) : isInert c = true :=
  isInert_of_class (p := Text.isBlank) rfl h

/-- Between a text and what is left of it there is a text over which the scan passes. -/
def PassesOver (s : ScanState) (cs ds : List Char) (s' : ScanState) : Prop :=
  ∃ w, cs = w ++ ds ∧ Passes s w s'

/-- One after the other. -/
theorem PassesOver.trans {s s' s'' : ScanState} {cs ds es : List Char} (h : PassesOver s cs ds s')
    (h' : PassesOver s' ds es s'') : PassesOver s cs es s'' := by
  obtain ⟨w, rfl, hw⟩ := h
  obtain ⟨w', rfl, hw'⟩ := h'
  exact ⟨w ++ w', (List.append_assoc ..).symm, hw.append hw'⟩

theorem Passes.over {s s' : ScanState} {w : List Char} (h : Passes s w s') (ds : List Char) : PassesOver s (w ++ ds) ds s' :=
  ⟨w, rfl, h⟩

/-- The scan passes over blanks and what follows them. -/
theorem Passes.overBlanks {k : Nat} {s : ScanState} {cs x y : List Char} (hx : Passes (.outside k) x s)
    (h : Text.trimStart cs = x ++ y) : PassesOver (.outside k) cs y s := by
  obtain ⟨b, hb, hcs⟩ := exists_blanks cs
  refine ⟨b ++ x, by rw [List.append_assoc, ← h, ← hcs], ?_⟩
  exact (passes_of_inert fun c hc => isInert_of_isBlank (hb c hc)).append hx

/-- And over blanks and a mark that means nothing to it. -/
theorem passesOver_mark {k : Nat} {c : Char} {cs ds : List Char} (hc : isInert c = true)
    (h : Text.trimStart cs = c :: ds) : PassesOver (.outside k) cs ds (.outside k) :=
  (passes_mark hc).overBlanks (x := [c]) h

/-! ## Names, numbers and literals -/

theorem IsName.passes {w : List Char} (h : IsName w) (k : Nat) : Passes (.outside k) w (.outside k) :=
  passes_of_inert fun c hc => isInert_of_class rfl (h.isNameChar c hc)

theorem SpellsNumber.passes {w after : List Char} {l : Literal} (h : SpellsNumber w after l) (k : Nat) :
    Passes (.outside k) w (.outside k) :=
  passes_of_inert fun c hc => isInert_of_class rfl (h.chars c hc)

/-- No code of a literal takes in a quote or a backslash. -/
def StringLiteral.clear (quote : Char) : State → List Char → Bool
  | _, [] => true
  | .plain, c :: cs => if c = '\\' then clear quote .escaped cs else clear quote .plain cs
  | .escaped, c :: cs => if c = 'u' then clear quote (.code []) cs else clear quote .plain cs
  | .code seen, c :: cs =>
    c != quote && c != '\\' && clear quote (if seen.length < 3 then .code (seen ++ [c]) else .plain) cs

/-- The rule that a literal is clear. -/
def clearLiteral : LiteralRule := fun quote body => StringLiteral.clear quote .plain body = true

/-- Where the scan stands when the reader of a literal stands in a state. -/
def StringLiteral.State.scan (quote : Char) (k : Nat) : State → ScanState
  | .plain => .quoted quote k
  | .escaped => .escaped quote k
  | .code _ => .quoted quote k

/-- The scan takes the step that the reader of a clear literal takes. -/
theorem StringLiteral.step_scan {quote c : Char} {state : State} {cs : List Char} (k : Nat)
    (hc : ¬(state = .plain ∧ c = quote)) (hb : clear quote state (c :: cs) = true) :
    (state.scan quote k).step c = (state.next c).scan quote k ∧ clear quote (state.next c) cs = true := by
  cases state with
  | plain =>
    have hq : ¬c = quote := fun h => hc ⟨rfl, h⟩
    by_cases hback : c = '\\'
    · simpa [clear, State.next, State.scan, ScanState.step, hback] using hb
    · simpa [clear, State.next, State.scan, ScanState.step, hback, hq] using hb
  | escaped =>
    by_cases hu : c = 'u'
    · simpa [clear, State.next, State.scan, ScanState.step, hu] using hb
    · simpa [clear, State.next, State.scan, ScanState.step, hu] using hb
  | code seen =>
    simp only [clear, Bool.and_eq_true, bne_iff_ne] at hb
    obtain ⟨⟨hq, hback⟩, hb⟩ := hb
    refine ⟨?_, hb⟩
    by_cases hs : seen.length < 3
    · simp only [State.next, State.scan, ScanState.step, hs, hq, hback, if_true, if_false]
    · simp only [State.next, State.scan, ScanState.step, hs, hq, hback, if_false]

/-- The scan follows the reader of a clear literal to its end. -/
theorem StringLiteral.passes {quote : Char} (hq : quote ≠ '\\') (k : Nat) {state : State} {body text : List Char}
    (h : read? quote state body = some (text, [])) (hb : clear quote state body = true) :
    Passes (state.scan quote k) body (.outside k) := by
  induction body generalizing state text with
  | nil => cases state <;> simp [read?] at h
  | cons c cs ih =>
    have hstate : state.scan quote k ≠ .outside 0 := by cases state <;> simp [State.scan]
    refine .cons (fun hs => absurd hs hstate) ?_
    by_cases hc : state = .plain ∧ c = quote
    · obtain ⟨rfl, rfl⟩ := hc
      obtain ⟨-, rfl⟩ := read?_quote h
      simp only [State.scan, ScanState.step, hq, if_true, if_false]
      exact .nil _
    · obtain ⟨t, ht⟩ := read?_next hc h
      obtain ⟨hstep, hrest⟩ := step_scan k hc hb
      rw [hstep]
      exact ih ht hrest

theorem SpellsString.passes {w text : List Char} (h : SpellsString clearLiteral w text) (k : Nat) :
    Passes (.outside k) w (.outside k) := by
  obtain ⟨quote, body, rfl, hq, hr, hb⟩ := h
  have hne : quote ≠ '\x7d' ∧ quote ≠ '\\' := by
    simp only [isQuote, Bool.or_eq_true, beq_iff_eq] at hq
    rcases hq with (rfl | rfl) | rfl <;> decide
  refine .cons (fun _ => hne.1) ?_
  simp only [ScanState.step, hq, if_true]
  have hp := StringLiteral.passes hne.2 k (by simpa using hr []) hb
  exact hp

/-! ## Phrases -/

/-- The braces that stand open before a phrase and that the phrase closes. -/
def Phrase.opened : Phrase → Nat
  | .entries _ => 1
  | .moreEntries _ => 1
  | _ => 0

/-- The closing mark of the phrase means nothing to the scan. -/
def Phrase.inertClose : Phrase → Prop
  | .items close _ => isInert close = true
  | .moreItems close _ => isInert close = true
  | _ => True

/-- The scan passes over a phrase whose literals are clear, and comes out where it went in. -/
theorem Reads.passes {φ : Phrase} {cs ds : List Char} (h : Reads clearLiteral φ cs ds) (hc : φ.inertClose) (k : Nat) :
    PassesOver (.outside (k + φ.opened)) cs ds (.outside k) := by
  induction h generalizing k with
  | string start literal => exact (literal.passes k).overBlanks start
  | number start number => exact (number.passes k).overBlanks start
  | array start items ih => exact (passesOver_mark (by decide) start).trans (ih (show isInert ']' = true by decide) k)
  | object start entries ih => exact ((passes_open k).overBlanks start).trans (ih trivial k)
  | @call cs name cs' ds args start hn items ih =>
    have hopen : Passes (.outside k) (name ++ ['(']) (.outside k) := (hn.passes k).append (passes_mark (by decide))
    exact (hopen.overBlanks (by simpa using start)).trans (ih (show isInert ')' = true by decide) k)
  | reserved start hn word ends bare => exact (hn.passes k).overBlanks start
  | path start hn ends plain free rest ih => exact ((hn.passes k).overBlanks start).trans (ih trivial k)
  | noStep ends => exact (Passes.nil _).over _
  | @member name cs ds ss hn ends rest ih =>
    have hname : Passes (.outside k) ('.' :: name) (.outside k) := (passes_mark (c := '.') (by decide)).append (hn.passes k)
    exact (hname.over cs).trans (ih trivial k)
  | index value close rest ih ih' =>
    have hopen : Passes (.outside k) ['['] (.outside k) := passes_mark (by decide)
    exact (((hopen.over _).trans (ih trivial k)).trans (passesOver_mark (by decide) close)).trans (ih' trivial k)
  | noItem stop => exact passesOver_mark hc stop
  | someItems start items ih => exact ih hc k
  | lastItem item stop mark ih => exact (ih trivial k).trans (passesOver_mark hc stop)
  | nextItem item comma items ih ih' =>
    exact ((ih trivial k).trans (passesOver_mark (by decide) comma)).trans (ih' hc k)
  | noEntry stop => exact (passes_close k).overBlanks stop
  | someEntries start entries ih => exact ih trivial k
  | lastEntry entry stop ih => exact (ih trivial (k + 1)).trans ((passes_close k).overBlanks stop)
  | nextEntry entry comma entries ih ih' =>
    exact ((ih trivial (k + 1)).trans (passesOver_mark (by decide) comma)).trans (ih' trivial k)
  | named start hn ends colon rest ih =>
    exact (((hn.passes k).overBlanks start).trans (passesOver_mark (by decide) colon)).trans (ih trivial k)
  | short start hn ends bare => exact (hn.passes k).overBlanks start
  | quoted start literal colon rest ih =>
    exact (((literal.passes k).overBlanks start).trans (passesOver_mark (by decide) colon)).trans (ih trivial k)

end PageTemplates
