import PageTemplates.Filters.Blocks
import PageTemplates.Proofs.Syntax.DoubledBraces
import PageTemplates.Proofs.Syntax.Fragments

/-!
# Spans of doubled texts

An inline text without double braces is parsed with every brace doubled. The scans for a bar and for the end of a span stop
between two pairs of braces, where they would stop in the text. So where nothing between an opening and a later closing brace of
the text is a pipeline, no span of the doubled text is one, and all of it is text (`parseInline_of_noPipeline`).
-/

namespace PageTemplates

/-! ## Scans -/

/-- Twice as many braces are open in a doubled text. -/
def ScanState.doubled : ScanState → ScanState
  | .outside depth => .outside (2 * depth)
  | .quoted quote depth => .quoted quote (2 * depth)
  | .escaped quote depth => .escaped quote (2 * depth)

/-- The quote of the literal that a scan stands in is no brace. -/
def ScanState.Fits : ScanState → Prop
  | .outside _ => True
  | .quoted quote _ => isBrace quote = false
  | .escaped quote _ => isBrace quote = false

section

variable {s : ScanState} {c : Char} {cs xs ys : List Char}

theorem ScanState.Fits.step (h : s.Fits) (c : Char) : (s.step c).Fits := by
  cases s with
  | outside depth =>
    simp only [ScanState.step]
    split
    · next hc => exact isBrace_of_isQuote hc
    · split
      · trivial
      · split <;> trivial
  | quoted quote depth =>
    simp only [ScanState.step]
    split
    · exact h
    · split
      · trivial
      · exact h
  | escaped quote depth => exact h

theorem ScanState.doubled_eq_outside : s.doubled = .outside 0 ↔ s = .outside 0 := by
  cases s with
  | outside depth =>
    rw [ScanState.doubled, ScanState.outside.injEq, ScanState.outside.injEq]
    omega
  | quoted quote depth => simp [ScanState.doubled]
  | escaped quote depth => simp [ScanState.doubled]

theorem ScanState.step_doubled (hc : isBrace c = false) : s.doubled.step c = (s.step c).doubled := by
  rw [isBrace, Bool.or_eq_false_iff, decide_eq_false_iff_not, decide_eq_false_iff_not] at hc
  cases s with
  | outside depth =>
    simp only [ScanState.step, ScanState.doubled, hc.1, hc.2, if_false]
    split <;> rfl
  | quoted quote depth =>
    simp only [ScanState.step, ScanState.doubled]
    split
    · rfl
    · split <;> rfl
  | escaped quote depth => rfl

/-- Both braces of a pair together make the step that one makes in the text. -/
theorem ScanState.step_step_doubled (hs : s.Fits) (hc : isBrace c = true) :
    (s.doubled.step c).step c = (s.step c).doubled := by
  cases s with
  | outside depth =>
    rcases isBrace_iff.1 hc with rfl | rfl
    · simp [ScanState.step, ScanState.doubled, isQuote, Nat.mul_add]
    · simp [ScanState.step, ScanState.doubled, isQuote, Nat.mul_sub, Nat.sub_sub]
  | quoted quote depth =>
    have hescape : c ≠ '\\' := ne_of_isBrace hc rfl
    have hquote : c ≠ quote := ne_of_isBrace hc hs
    simp [ScanState.step, ScanState.doubled, hescape, hquote]
  | escaped quote depth =>
    have hescape : c ≠ '\\' := ne_of_isBrace hc rfl
    have hquote : c ≠ quote := ne_of_isBrace hc hs
    simp [ScanState.step, ScanState.doubled, hescape, hquote]

/-- Between the braces of a pair, something is open. -/
theorem ScanState.step_doubled_ne (hs : s.Fits) (hc : isBrace c = true) (hne : s ≠ .outside 0) :
    s.doubled.step c ≠ .outside 0 := by
  cases s with
  | outside depth =>
    have hdepth : depth ≠ 0 := fun h => hne (congrArg ScanState.outside h)
    rcases isBrace_iff.1 hc with rfl | rfl
    · simp [ScanState.step, ScanState.doubled, isQuote]
    · simp [ScanState.step, ScanState.doubled, isQuote]
      omega
  | quoted quote depth =>
    have hescape : c ≠ '\\' := ne_of_isBrace hc rfl
    have hquote : c ≠ quote := ne_of_isBrace hc hs
    simp [ScanState.step, ScanState.doubled, hescape, hquote]
  | escaped quote depth => simp [ScanState.step, ScanState.doubled]

/-- The bar that ends a stage is the same one in a doubled text. -/
theorem splitBarFrom_doubled (hs : s.Fits) (cs : List Char) :
    splitBarFrom s.doubled (doubled cs) = (doubled (splitBarFrom s cs).1, doubled (splitBarFrom s cs).2) := by
  induction cs generalizing s with
  | nil => rfl
  | cons c cs ih =>
    have ih := ih (hs.step c)
    cases hc : isBrace c with
    | false =>
      rw [doubled_cons_of_not hc, splitBarFrom, splitBarFrom]
      by_cases hbar : s = .outside 0 ∧ c = '|'
      · rw [if_pos ⟨ScanState.doubled_eq_outside.2 hbar.1, hbar.2⟩, if_pos hbar, doubled_cons_of_not hc]
        rfl
      · have hbar' : ¬(s.doubled = .outside 0 ∧ c = '|') := fun h => hbar ⟨ScanState.doubled_eq_outside.1 h.1, h.2⟩
        rw [if_neg hbar', if_neg hbar, ScanState.step_doubled hc, ih, doubled_cons_of_not hc]
    | true =>
      -- No brace is a bar.
      have hbar : ∀ t : ScanState, ¬(t = .outside 0 ∧ c = '|') := fun t h => ne_of_isBrace hc rfl h.2
      rw [doubled_cons_of_brace hc, splitBarFrom, splitBarFrom, splitBarFrom, if_neg (hbar _), if_neg (hbar _), if_neg (hbar _),
        ScanState.step_step_doubled hs hc, ih, doubled_cons_of_brace hc]

/-- The end of a span is a pair of braces. -/
theorem exists_of_splitCloseFrom_doubled (hs : s.Fits) (h : splitCloseFrom s.doubled (doubled cs) = some (xs, ys)) :
    ∃ inner after, cs = inner ++ '\x7d' :: after ∧ xs = doubled inner ∧ ys = doubled after := by
  induction cs generalizing s xs with
  | nil => simp [doubled, splitCloseFrom] at h
  | cons c cs ih =>
    have hlater : ∀ zs, splitCloseFrom (s.step c).doubled (doubled cs) = some (zs, ys) →
        ∃ inner after, c :: cs = (c :: inner) ++ '\x7d' :: after ∧ zs = doubled inner ∧ ys = doubled after := by
      intro zs hzs
      obtain ⟨inner, after, rfl, hinner, hafter⟩ := ih (hs.step c) hzs
      exact ⟨inner, after, rfl, hinner, hafter⟩
    cases hc : isBrace c with
    | false =>
      have hclose : c ≠ '\x7d' := (ne_of_isBrace rfl hc).symm
      rw [doubled_cons_of_not hc, splitCloseFrom, if_neg fun h => hclose h.2.1, ScanState.step_doubled hc] at h
      obtain ⟨⟨zs, ys'⟩, hzs, he⟩ := Option.map_eq_some_iff.1 h
      obtain ⟨rfl, rfl⟩ := Prod.mk.inj he
      obtain ⟨inner, after, hcs, rfl, rfl⟩ := hlater zs hzs
      exact ⟨c :: inner, after, hcs, (doubled_cons_of_not hc inner).symm, rfl⟩
    | true =>
      rw [doubled_cons_of_brace hc, splitCloseFrom] at h
      by_cases hclose : s = .outside 0 ∧ c = '\x7d'
      · obtain ⟨rfl, rfl⟩ := hclose
        rw [if_pos ⟨rfl, rfl, rfl⟩] at h
        obtain ⟨rfl, rfl⟩ := Prod.mk.inj (Option.some.inj h)
        exact ⟨[], cs, rfl, rfl, rfl⟩
      · have hfirst : ¬(s.doubled = .outside 0 ∧ c = '\x7d' ∧ (c :: doubled cs).head? = some '\x7d') :=
          fun h => hclose ⟨ScanState.doubled_eq_outside.1 h.1, h.2.1⟩
        have hsecond : ¬(s.doubled.step c = .outside 0 ∧ c = '\x7d' ∧ (doubled cs).head? = some '\x7d') :=
          fun h => ScanState.step_doubled_ne hs hc (fun hout => hclose ⟨hout, h.2.1⟩) h.1
        rw [if_neg hfirst, splitCloseFrom, if_neg hsecond, ScanState.step_step_doubled hs hc, Option.map_map] at h
        obtain ⟨⟨zs, ys'⟩, hzs, he⟩ := Option.map_eq_some_iff.1 h
        obtain ⟨rfl, rfl⟩ := Prod.mk.inj he
        obtain ⟨inner, after, hcs, rfl, rfl⟩ := hlater zs hzs
        exact ⟨c :: inner, after, hcs, (doubled_cons_of_brace hc inner).symm, rfl⟩

/-- The start of a span is a pair of braces. -/
theorem exists_of_splitOpen?_doubled (h : splitOpen? (doubled cs) = some (xs, ys)) :
    ∃ before inner, cs = before ++ '\x7b' :: inner ∧ xs = doubled before ∧ ys = doubled inner := by
  induction cs generalizing xs with
  | nil => simp [doubled, splitOpen?] at h
  | cons c cs ih =>
    by_cases hopen : c = '\x7b'
    · subst hopen
      rw [doubled_cons_of_brace rfl, splitOpen?, if_pos ⟨rfl, rfl⟩] at h
      obtain ⟨rfl, rfl⟩ := Prod.mk.inj (Option.some.inj h)
      exact ⟨[], cs, rfl, rfl, rfl⟩
    · have hnot : ∀ zs : List Char, ¬(c = '\x7b' ∧ zs.head? = some '\x7b') := fun zs h => hopen h.1
      have hlater : ∀ zs, splitOpen? (doubled cs) = some (zs, ys) →
          ∃ before inner, c :: cs = (c :: before) ++ '\x7b' :: inner ∧ zs = doubled before ∧ ys = doubled inner := by
        intro zs hzs
        obtain ⟨before, inner, rfl, hbefore, hinner⟩ := ih hzs
        exact ⟨before, inner, rfl, hbefore, hinner⟩
      cases hc : isBrace c with
      | false =>
        rw [doubled_cons_of_not hc, splitOpen?, if_neg (hnot _)] at h
        obtain ⟨⟨zs, ys'⟩, hzs, he⟩ := Option.map_eq_some_iff.1 h
        obtain ⟨rfl, rfl⟩ := Prod.mk.inj he
        obtain ⟨before, inner, hcs, rfl, rfl⟩ := hlater zs hzs
        exact ⟨c :: before, inner, hcs, (doubled_cons_of_not hc before).symm, rfl⟩
      | true =>
        rw [doubled_cons_of_brace hc, splitOpen?, if_neg (hnot _), splitOpen?, if_neg (hnot _), Option.map_map] at h
        obtain ⟨⟨zs, ys'⟩, hzs, he⟩ := Option.map_eq_some_iff.1 h
        obtain ⟨rfl, rfl⟩ := Prod.mk.inj he
        obtain ⟨before, inner, hcs, rfl, rfl⟩ := hlater zs hzs
        exact ⟨c :: before, inner, hcs, (doubled_cons_of_brace hc before).symm, rfl⟩

end

/-! ## Pipelines -/

section

variable {cs xs : List Char}

theorem ReadsArguments.mirrored {args : List Expression} (h : ReadsArguments args (doubled cs) xs) (hclear : CodesClear cs) :
    ∃ args' ds, xs = doubled ds ∧ CodesClear ds ∧ ReadsArguments args' cs ds := by
  cases h with
  | list start items =>
    obtain ⟨es, hstart, rfl, hes⟩ := exists_of_trimStart_doubled_mark start rfl hclear
    obtain ⟨args', ds, hds, hitems⟩ := items.mirrored rfl hes rfl
    obtain ⟨w, rfl, -⟩ := hitems.consumes
    exact ⟨args', ds, hds, hes.of_append, .list hstart hitems⟩
  | colon start =>
    obtain ⟨es, hstart, rfl, hes⟩ := exists_of_trimStart_doubled_mark start rfl hclear
    have hsplit : splitBar (doubled es) = (doubled (splitBar es).1, doubled (splitBar es).2) :=
      splitBarFrom_doubled (s := .outside 0) trivial es
    rw [← splitBar_append es] at hes
    exact ⟨_, (splitBar es).2, congrArg Prod.snd hsplit, hes.of_append, .colon hstart⟩
  | none start =>
    rw [trimStart_doubled] at start ⊢
    exact ⟨[], _, rfl, hclear.trimStart, .none (startsNot_doubled.1 start)⟩

theorem ReadsStages.mirrored {stages : List (FilterCall Expression)} (h : ReadsStages stages xs) (hxs : xs = doubled cs)
    (hclear : CodesClear cs) : ∃ stages', ReadsStages stages' cs := by
  induction h generalizing cs with
  | done ends =>
    rw [hxs, trimStart_doubled] at ends
    exact ⟨[], .done (doubled_eq_nil ends)⟩
  | stage bar start name ends arguments more ih =>
    subst hxs
    obtain ⟨es, hbar, rfl, hes⟩ := exists_of_trimStart_doubled_mark bar rfl hclear
    obtain ⟨fs, hstart, rfl, hfs⟩ := exists_of_trimStart_doubled start (isBrace_of_mem_name name) hes
    obtain ⟨args', ds, hds, hclear', harguments⟩ := arguments.mirrored hfs
    obtain ⟨stages', hstages⟩ := ih hds hclear'
    exact ⟨_, .stage hbar hstart name (startsNot_doubled.1 ends) harguments hstages⟩

/-- A doubled text is a pipeline only if the text is one. -/
theorem exists_parsePipeline_of_doubled {p : Pipeline} (h : parsePipeline (doubled cs) = .ok p) (hclear : CodesClear cs) :
    ∃ p', parsePipeline cs = .ok p' := by
  obtain ⟨rest, hexpression, hstages⟩ := parsePipeline_eq_ok.1 h
  obtain ⟨e, ds, rfl, hread⟩ := hexpression.mirrored rfl hclear
  obtain ⟨w, rfl, -⟩ := hread.consumes
  obtain ⟨stages, hstages⟩ := hstages.mirrored rfl hclear.of_append
  exact ⟨{ initial := e, stages }, parsePipeline_eq_ok.2 ⟨ds, hread, hstages⟩⟩

/-! ## Fragments -/

/-- Nothing between an opening brace and a later closing brace of the text is a pipeline. -/
def NoPipeline (cs : List Char) : Prop :=
  ∀ before inner after p, cs = before ++ '\x7b' :: (inner ++ '\x7d' :: after) → parsePipeline inner ≠ .ok p

theorem NoPipeline.of_append {ds : List Char} (h : NoPipeline (cs ++ ds)) : NoPipeline ds := by
  rintro before inner after p rfl
  exact h (cs ++ before) inner after p (List.append_assoc ..).symm

/-- The span of a doubled text whose inside is no pipeline is text, and so is the rest. -/
theorem fragmentsFrom_doubled (hno : NoPipeline cs) (hclear : CodesClear cs) (fuel : Nat) (pending : List Char) :
    fragmentsFrom fuel pending (doubled cs) = textFragment (pending ++ doubled cs) := by
  induction fuel generalizing cs pending with
  | zero => rfl
  | succ fuel ih =>
    rw [fragmentsFrom]
    cases hopen : splitOpen? (doubled cs) with
    | none => rfl
    | some r =>
      obtain ⟨xs, opened⟩ := r
      obtain ⟨before, rest, rfl, rfl, rfl⟩ := exists_of_splitOpen?_doubled hopen
      simp only
      cases hclose : splitClose? (doubled rest) with
      | none => rfl
      | some r =>
        obtain ⟨ys, zs⟩ := r
        obtain ⟨inner, after, rfl, rfl, rfl⟩ := exists_of_splitCloseFrom_doubled (s := .outside 0) trivial hclose
        have hinner : ∀ p, parsePipeline (Text.trim (doubled inner)) ≠ .ok p := by
          intro p hp
          rw [trim_doubled] at hp
          have hclear' : CodesClear (inner ++ '\x7d' :: after) := hclear.of_append.of_cons
          obtain ⟨p', hp'⟩ := exists_parsePipeline_of_doubled hp hclear'.of_append_left.trim
          exact hno before inner after p' rfl (parsePipeline_of_trim hp')
        have hrest : before ++ '\x7b' :: (inner ++ '\x7d' :: after) = (before ++ '\x7b' :: (inner ++ ['\x7d'])) ++ after := by
          simp
        cases hparse : parsePipeline (Text.trim (doubled inner)) with
        | ok p => exact absurd hparse (hinner p)
        | error error =>
          rw [hrest] at hno hclear
          have hspan : doubled (before ++ '\x7b' :: (inner ++ '\x7d' :: after)) =
              doubled before ++ (['\x7b', '\x7b'] ++ doubled inner ++ ['\x7d', '\x7d']) ++ doubled after := by
            simp [doubled, isBrace]
          simp only [hparse, ih hno.of_append hclear.of_append, hspan, List.append_assoc]

end

/-- Where no text between braces is a pipeline, an inline text is its doubled text. -/
theorem parseInline_of_noPipeline {text : String} (hsingle : ¬['\x7b', '\x7b'] <:+: text.toList) (hno : NoPipeline text.toList)
    (hclear : CodesClear text.toList) : Blocks.parseInline text = textFragment (doubled text.toList) := by
  have hexpand : Blocks.expandBraces text.toList = doubled text.toList := by
    rw [Blocks.expandBraces, splitOpen?_eq_none_iff.2 hsingle]
    simp [doubled, isBrace]
  rw [Blocks.parseInline, hexpand, parseTemplate, fragmentsFrom_doubled hno hclear, List.nil_append]

end PageTemplates
