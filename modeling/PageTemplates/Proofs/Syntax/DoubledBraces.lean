import PageTemplates.Proofs.Syntax.Stages

/-!
# Doubled braces

A text with every brace written twice, as inline texts are parsed. What the grammar reads from such a text it can also read from
the text with single braces (`Reads.mirrored`): no object is written with doubled braces, names and numbers have none, and those
in string literals make no difference, unless a code in a literal takes them in.
-/

namespace PageTemplates

/-- A brace. -/
def isBrace (c : Char) : Bool :=
  c = '\x7b' || c = '\x7d'

/-- The text with every brace written twice. -/
def doubled (cs : List Char) : List Char :=
  cs.flatMap fun c => if isBrace c then [c, c] else [c]

/-! ## Doubled texts -/

section

variable {cs ds w xs : List Char} {c : Char}

theorem isBrace_iff : isBrace c = true ↔ c = '\x7b' ∨ c = '\x7d' := by
  rw [isBrace, Bool.or_eq_true, decide_eq_true_iff, decide_eq_true_iff]

theorem ne_of_isBrace {x : Char} (hc : isBrace c = true) (hx : isBrace x = false) : c ≠ x := by
  rintro rfl
  exact Bool.false_ne_true (hx.symm.trans hc)

theorem doubled_cons_of_brace (h : isBrace c = true) (cs : List Char) : doubled (c :: cs) = c :: c :: doubled cs := by
  simp [doubled, h]

theorem doubled_cons_of_not (h : isBrace c = false) (cs : List Char) : doubled (c :: cs) = c :: doubled cs := by
  simp [doubled, h]

theorem doubled_append (cs ds : List Char) : doubled (cs ++ ds) = doubled cs ++ doubled ds :=
  List.flatMap_append

theorem head?_doubled (cs : List Char) : (doubled cs).head? = cs.head? := by
  cases cs with
  | nil => rfl
  | cons c cs =>
    cases h : isBrace c with
    | true => rw [doubled_cons_of_brace h]; rfl
    | false => rw [doubled_cons_of_not h]; rfl

theorem doubled_eq_nil (h : doubled cs = []) : cs = [] := by
  have hhead := head?_doubled cs
  rw [h] at hhead
  exact List.head?_eq_none_iff.1 hhead.symm

theorem startsNot_doubled {p : Char → Bool} : StartsNot p (doubled cs) ↔ StartsNot p cs := by
  rw [StartsNot, StartsNot, head?_doubled]

/-- A character that is no brace stands once in the doubled text. -/
theorem doubled_eq_cons (hc : isBrace c = false) (h : doubled cs = c :: xs) : ∃ ds, cs = c :: ds ∧ xs = doubled ds := by
  have hhead := head?_doubled cs
  rw [h] at hhead
  obtain ⟨ds, rfl⟩ := List.head?_eq_some_iff.1 hhead.symm
  rw [doubled_cons_of_not hc] at h
  exact ⟨ds, rfl, (List.cons.inj h).2.symm⟩

/-- A brace stands twice. -/
theorem doubled_eq_brace_cons (hc : isBrace c = true) (h : doubled cs = c :: xs) : ∃ ds, cs = c :: ds ∧ xs = c :: doubled ds := by
  have hhead := head?_doubled cs
  rw [h] at hhead
  obtain ⟨ds, rfl⟩ := List.head?_eq_some_iff.1 hhead.symm
  rw [doubled_cons_of_brace hc] at h
  exact ⟨ds, rfl, (List.cons.inj h).2.symm⟩

/-- A part without braces stands as it is at the start of a doubled text. -/
theorem doubled_eq_append (hw : ∀ c ∈ w, isBrace c = false) (h : doubled cs = w ++ xs) :
    ∃ ds, cs = w ++ ds ∧ xs = doubled ds := by
  induction w generalizing cs with
  | nil => exact ⟨cs, rfl, h.symm⟩
  | cons c w ih =>
    obtain ⟨ds, rfl, hds⟩ := doubled_eq_cons (hw c List.mem_cons_self) h
    obtain ⟨es, rfl, hes⟩ := ih (fun d hd => hw d (List.mem_cons_of_mem c hd)) hds.symm
    exact ⟨es, rfl, hes⟩

/-- A character of a class without braces is no brace. -/
theorem isBrace_eq_false {p : Char → Bool} (hopen : p '\x7b' = false) (hclose : p '\x7d' = false) (h : p c = true) :
    isBrace c = false := by
  rw [← Bool.not_eq_true, isBrace_iff]
  rintro (rfl | rfl)
  · exact Bool.false_ne_true (hopen.symm.trans h)
  · exact Bool.false_ne_true (hclose.symm.trans h)

theorem doubled_of_forall (h : ∀ c ∈ cs, isBrace c = false) : doubled cs = cs := by
  induction cs with
  | nil => rfl
  | cons c cs ih => rw [doubled_cons_of_not (h c List.mem_cons_self), ih fun d hd => h d (List.mem_cons_of_mem c hd)]

theorem length_doubled (cs : List Char) : (doubled cs).length = cs.length + cs.countP isBrace := by
  induction cs with
  | nil => rfl
  | cons c cs ih =>
    cases hc : isBrace c with
    | false =>
      rw [doubled_cons_of_not hc, List.countP_cons_of_neg (by simp [hc]), List.length_cons, List.length_cons, ih]
      omega
    | true =>
      rw [doubled_cons_of_brace hc, List.countP_cons_of_pos hc, List.length_cons, List.length_cons, List.length_cons, ih]
      omega

/-- Only a text without braces is its doubled text. -/
theorem doubled_eq_self_iff : doubled cs = cs ↔ ∀ c ∈ cs, isBrace c = false := by
  constructor
  · intro h
    have hlength := congrArg List.length h
    rw [length_doubled] at hlength
    have hcount : cs.countP isBrace = 0 := by omega
    simpa using List.countP_eq_zero.1 hcount
  · exact doubled_of_forall

theorem trimStart_doubled (cs : List Char) : Text.trimStart (doubled cs) = doubled (Text.trimStart cs) := by
  obtain ⟨b, hb, hcs⟩ := exists_blanks cs
  have hstart : StartsNot Text.isBlank (doubled (Text.trimStart cs)) := startsNot_doubled.2 (startsNot_trimStart cs)
  have hblanks : doubled b = b := doubled_of_forall fun c hc => isBrace_eq_false (p := Text.isBlank) rfl rfl (hb c hc)
  calc Text.trimStart (doubled cs)
      = Text.trimStart (b ++ doubled (Text.trimStart cs)) := by rw [← hblanks, ← doubled_append, ← hcs]
    _ = doubled (Text.trimStart cs) := by rw [trimStart_blanks_append hb, trimStart_of_startsNot hstart]

theorem reverse_doubled (cs : List Char) : (doubled cs).reverse = doubled cs.reverse := by
  induction cs with
  | nil => rfl
  | cons c cs ih =>
    rw [List.reverse_cons, doubled_append, ← ih]
    cases h : isBrace c with
    | true =>
      rw [doubled_cons_of_brace h, doubled_cons_of_brace h]
      simp [doubled]
    | false =>
      rw [doubled_cons_of_not h, doubled_cons_of_not h]
      simp [doubled]

theorem trim_doubled (cs : List Char) : Text.trim (doubled cs) = doubled (Text.trim cs) := by
  rw [Text.trim, Text.trim, trimStart_doubled, Text.trimEnd, Text.trimEnd, reverse_doubled, ← Text.trimStart, ← Text.trimStart,
    trimStart_doubled, reverse_doubled]

end

/-! ## String literals -/

/-- No code of the text takes in a brace before its last character. -/
def CodesClear (cs : List Char) : Prop :=
  ∀ before after, cs = before ++ '\\' :: 'u' :: after → ∀ c ∈ after.take 3, isBrace c = false

section

variable {cs ds : List Char}

theorem CodesClear.of_append (h : CodesClear (cs ++ ds)) : CodesClear ds := by
  rintro before after rfl
  exact h (cs ++ before) after (List.append_assoc ..).symm

theorem CodesClear.of_cons {c : Char} (h : CodesClear (c :: cs)) : CodesClear cs :=
  CodesClear.of_append (List.singleton_append ▸ h)

theorem CodesClear.of_append_left (h : CodesClear (cs ++ ds)) : CodesClear cs := by
  rintro before after rfl c hc
  refine h before (after ++ ds) (by simp) c ?_
  rw [List.take_append]
  exact List.mem_append_left _ hc

theorem CodesClear.trimStart (h : CodesClear cs) : CodesClear (Text.trimStart cs) := by
  obtain ⟨b, -, hcs⟩ := exists_blanks cs
  exact CodesClear.of_append (hcs ▸ h)

theorem CodesClear.trim (h : CodesClear cs) : CodesClear (Text.trim cs) := by
  obtain ⟨b, -, hcs⟩ := exists_blanks_after (Text.trimStart cs)
  exact CodesClear.of_append_left (hcs ▸ h.trimStart)

end

namespace StringLiteral

/-- What a reader has taken in of the escape that it stands in. -/
def State.taken : State → List Char
  | .plain => []
  | .escaped => ['\\']
  | .code seen => '\\' :: 'u' :: seen

variable {quote c : Char} {state : State}

/-- What is taken in stays a part of the text that is read. -/
theorem codesClear_next {cs : List Char} (h : CodesClear (state.taken ++ c :: cs)) :
    CodesClear ((state.next c).taken ++ cs) := by
  have hrest : CodesClear (State.plain.taken ++ cs) := (CodesClear.of_append h).of_cons
  cases state with
  | plain =>
    rw [State.next]
    split
    · next hb =>
      subst hb
      exact h
    · exact hrest
  | escaped =>
    rw [State.next]
    split
    · next hu =>
      subst hu
      exact h
    · exact hrest
  | code seen =>
    rw [State.next]
    split
    · simpa [State.taken] using h
    · exact hrest

/-- After a brace, a reader is at a plain character again. -/
theorem next_of_brace {cs : List Char} (h : CodesClear (state.taken ++ c :: cs)) (hc : isBrace c = true) :
    state.next c = .plain := by
  cases state with
  | plain => rw [State.next, if_neg (ne_of_isBrace hc rfl)]
  | escaped => rw [State.next, if_neg (ne_of_isBrace hc rfl)]
  | code seen =>
    rw [State.next, if_neg]
    intro hseen
    have hmem : c ∈ (seen ++ c :: cs).take 3 := by
      rw [List.take_append, List.take_of_length_le (Nat.le_of_lt hseen)]
      obtain ⟨n, hn⟩ := Nat.exists_eq_add_of_lt hseen
      simp [show 3 - seen.length = n + 1 by omega]
    exact Bool.false_ne_true ((h [] (seen ++ c :: cs) rfl c hmem).symm.trans hc)

/-- A literal that is read from a doubled text can be read from the text. -/
theorem read?_doubled (hquote : isBrace quote = false) {cs text xs : List Char} (hclear : CodesClear (state.taken ++ cs))
    (h : read? quote state (doubled cs) = some (text, xs)) :
    ∃ text' ds, xs = doubled ds ∧ read? quote state cs = some (text', ds) := by
  induction cs generalizing state text with
  | nil => cases state <;> simp [doubled, read?] at h
  | cons c cs ih =>
    by_cases hclose : state = .plain ∧ c = quote
    · obtain ⟨rfl, rfl⟩ := hclose
      rw [doubled_cons_of_not hquote] at h
      simp only [read?, if_true, Option.some.injEq, Prod.mk.injEq] at h ⊢
      exact ⟨[], cs, h.2.symm, rfl, rfl⟩
    · have hclear' := codesClear_next hclear
      obtain ⟨f, hf⟩ := exists_read?_cons hclose
      -- The rest is read from the same state, whether the character stands once or twice.
      have hrest : ∃ t, read? quote (state.next c) (doubled cs) = some (t, xs) := by
        cases hc : isBrace c with
        | false =>
          rw [doubled_cons_of_not hc] at h
          exact read?_next hclose h
        | true =>
          have hplain := next_of_brace hclear hc
          have hclose' : ¬(State.plain = .plain ∧ c = quote) := fun h => ne_of_isBrace hc hquote h.2
          have hplain' : CodesClear (State.plain.taken ++ c :: cs) := hclear.of_append
          have hagain : State.plain.next c = .plain := next_of_brace hplain' hc
          rw [doubled_cons_of_brace hc] at h
          obtain ⟨t, ht⟩ := read?_next hclose h
          rw [hplain] at ht ⊢
          obtain ⟨t', ht'⟩ := read?_next hclose' ht
          exact ⟨t', hagain ▸ ht'⟩
      obtain ⟨t, ht⟩ := hrest
      obtain ⟨text', ds, hxs, hr⟩ := ih hclear' ht
      exact ⟨f text', ds, hxs, by rw [hf, hr]; rfl⟩

end StringLiteral

/-! ## Phrases -/

section

variable {cs ds xs ys w : List Char}

theorem isBrace_of_mem_name (h : IsName w) : ∀ c ∈ w, isBrace c = false :=
  fun c hc => isBrace_eq_false (p := isNameChar) rfl rfl (h.isNameChar c hc)

theorem isBrace_of_mem_number {after : List Char} {l : Literal} (h : SpellsNumber w after l) : ∀ c ∈ w, isBrace c = false :=
  fun c hc => isBrace_eq_false (p := isNumberChar) rfl rfl (h.chars c hc)

theorem isBrace_of_isQuote {c : Char} (h : isQuote c = true) : isBrace c = false :=
  isBrace_eq_false (p := isQuote) rfl rfl h

/-- A number is the same before a doubled text. -/
theorem spellsNumber_of_doubled {l : Literal} (h : SpellsNumber w (doubled ds) l) : SpellsNumber w ds l := by
  have hds := List.takeWhile_append_dropWhile (p := fun c => !isBrace c) (l := ds)
  have hfront : doubled (ds.takeWhile fun c => !isBrace c) = ds.takeWhile fun c => !isBrace c :=
    doubled_of_forall fun c hc => by simpa using List.mem_takeWhile_imp hc
  have hback : StartsNot isNumberChar (ds.dropWhile fun c => !isBrace c) := by
    intro c hc
    have hbrace : (!isBrace c) = false := startsNot_dropWhile (fun c => !isBrace c) ds c hc
    rw [← Bool.not_eq_true]
    intro hnumber
    rw [isBrace_eq_false (p := isNumberChar) rfl rfl hnumber] at hbrace
    exact Bool.noConfusion hbrace
  rw [← hds, doubled_append, hfront] at h
  have hlong := h.cut.append hback
  rwa [hds] at hlong

/-- What stands at the start of a doubled text after its blanks, without braces, stands at the start of the text. -/
theorem exists_of_trimStart_doubled (h : Text.trimStart (doubled cs) = w ++ xs) (hw : ∀ c ∈ w, isBrace c = false)
    (hclear : CodesClear cs) : ∃ ds, Text.trimStart cs = w ++ ds ∧ xs = doubled ds ∧ CodesClear ds := by
  rw [trimStart_doubled] at h
  obtain ⟨ds, hds, rfl⟩ := doubled_eq_append hw h
  have htrim := hclear.trimStart
  rw [hds] at htrim
  exact ⟨ds, hds, rfl, htrim.of_append⟩

/-- So does a mark. -/
theorem exists_of_trimStart_doubled_mark {c : Char} (h : Text.trimStart (doubled cs) = c :: xs) (hc : isBrace c = false)
    (hclear : CodesClear cs) : ∃ ds, Text.trimStart cs = c :: ds ∧ xs = doubled ds ∧ CodesClear ds :=
  exists_of_trimStart_doubled (w := [c]) h (by simpa using hc) hclear

/-- And a literal. -/
theorem exists_of_trimStart_doubled_string {text : List Char} (h : Text.trimStart (doubled cs) = w ++ xs)
    (hw : SpellsString anyLiteral w text) (hclear : CodesClear cs) :
    ∃ w' text' ds, Text.trimStart cs = w' ++ ds ∧ SpellsString anyLiteral w' text' ∧ xs = doubled ds ∧ CodesClear ds := by
  obtain ⟨quote, body, rfl, hquote, hread, -⟩ := hw
  obtain ⟨es, hes, hbody, hclear'⟩ := exists_of_trimStart_doubled_mark h (isBrace_of_isQuote hquote) hclear
  have hr := hread xs
  rw [show body ++ xs = doubled es from hbody] at hr
  have hplain : CodesClear (StringLiteral.State.plain.taken ++ es) := hclear'
  obtain ⟨text', ds, rfl, hr'⟩ := StringLiteral.read?_doubled (isBrace_of_isQuote hquote) hplain hr
  obtain ⟨body', rfl, hall⟩ := StringLiteral.read?_append hr'
  exact ⟨quote :: body', text', ds, hes, ⟨quote, body', rfl, hquote, hall, trivial⟩, rfl, hclear'.of_append⟩

/-- No entry of an object starts with a brace. -/
theorem not_reads_entry {rule : LiteralRule} {key : String} {value : Expression} :
    ¬Reads rule (.entry key value) ('\x7b' :: cs) ds := by
  have hblanks : Text.trimStart ('\x7b' :: cs) = '\x7b' :: cs := trimStart_of_startsNot (startsNot_cons.2 rfl)
  have hname : ∀ {w rest}, IsName w → '\x7b' :: cs ≠ w ++ rest := by
    rintro w rest ⟨x, xs, rfl, hx, -⟩ heq
    obtain ⟨rfl, -⟩ := List.cons.inj heq
    exact Bool.noConfusion hx
  intro h
  cases h with
  | named start name => exact hname name (hblanks.symm.trans start)
  | short start name => exact hname name (hblanks.symm.trans start)
  | quoted start literal =>
    obtain ⟨quote, body, rfl, hquote, -⟩ := literal
    obtain ⟨rfl, -⟩ := List.cons.inj (hblanks.symm.trans start)
    exact Bool.noConfusion hquote

/-- So an object is not written with two braces. -/
theorem not_reads_entries {rule : LiteralRule} {es : List (String × Expression)} :
    ¬Reads rule (.entries es) ('\x7b' :: cs) ds := by
  intro h
  cases h with
  | noEntry stop =>
    rw [trimStart_of_startsNot (startsNot_cons.2 rfl)] at stop
    exact absurd (List.cons.inj stop).1 (by decide)
  | someEntries start entries =>
    cases entries with
    | lastEntry entry => exact not_reads_entry entry
    | nextEntry entry => exact not_reads_entry entry

/-- A phrase of the same kind stands at the start of a text, and leaves the text whose doubled one is left. Where nothing is
written after a path, nothing was. Objects cannot be written with doubled braces, so nothing is asked for their entries. -/
def Phrase.Mirrored : Phrase → List Char → List Char → Prop
  | .expression _, cs, xs => ∃ e ds, xs = doubled ds ∧ Reads anyLiteral (.expression e) cs ds
  | .steps ss, cs, xs => ∃ ss' ds, xs = doubled ds ∧ (ss' = [] → ss = []) ∧ Reads anyLiteral (.steps ss') cs ds
  | .items close _, cs, xs => isBrace close = false → ∃ es ds, xs = doubled ds ∧ Reads anyLiteral (.items close es) cs ds
  | .moreItems close _, cs, xs =>
    isBrace close = false → ∃ es ds, xs = doubled ds ∧ Reads anyLiteral (.moreItems close es) cs ds
  | _, _, _ => True

/-- What is read from a doubled text can be read from the text. -/
theorem Reads.mirrored {φ : Phrase} (h : Reads anyLiteral φ xs ys) (hxs : xs = doubled cs) (hclear : CodesClear cs) :
    φ.Mirrored cs ys := by
  induction h generalizing cs with
  | string start literal =>
    subst hxs
    obtain ⟨w, text, ds, hstart, hliteral, hds, -⟩ := exists_of_trimStart_doubled_string start literal hclear
    exact ⟨_, ds, hds, .string hstart hliteral⟩
  | number start number =>
    subst hxs
    obtain ⟨ds, hstart, rfl, -⟩ := exists_of_trimStart_doubled start (isBrace_of_mem_number number) hclear
    exact ⟨_, ds, rfl, .number hstart (spellsNumber_of_doubled number)⟩
  | array start items ih =>
    subst hxs
    obtain ⟨ds, hstart, rfl, hclear'⟩ := exists_of_trimStart_doubled_mark start rfl hclear
    obtain ⟨es, fs, hfs, hitems⟩ := ih rfl hclear' rfl
    exact ⟨_, fs, hfs, .array hstart hitems⟩
  | object start entries ih =>
    subst hxs
    rw [trimStart_doubled] at start
    obtain ⟨ds, -, rfl⟩ := doubled_eq_brace_cons rfl start
    exact absurd entries not_reads_entries
  | call start name items ih =>
    subst hxs
    obtain ⟨ds, hstart, hds, hclear'⟩ := exists_of_trimStart_doubled start (isBrace_of_mem_name name) hclear
    obtain ⟨es, rfl, rfl⟩ := doubled_eq_cons rfl hds.symm
    obtain ⟨args, fs, hfs, hitems⟩ := ih rfl hclear'.of_cons rfl
    exact ⟨_, fs, hfs, .call hstart name hitems⟩
  | reserved start name word ends bare =>
    subst hxs
    obtain ⟨ds, hstart, rfl, -⟩ := exists_of_trimStart_doubled start (isBrace_of_mem_name name) hclear
    exact ⟨_, ds, rfl, .reserved hstart name word (startsNot_doubled.1 ends) (startsNot_doubled.1 bare)⟩
  | path start name ends plain free rest ih =>
    subst hxs
    obtain ⟨es, hstart, hes, hclear'⟩ := exists_of_trimStart_doubled start (isBrace_of_mem_name name) hclear
    rw [hes] at ends plain
    obtain ⟨steps', ds, hds, hnone, hsteps⟩ := ih hes hclear'
    obtain ⟨u, rfl, -⟩ := hsteps.consumes
    exact ⟨_, ds, hds, .path hstart name (startsNot_doubled.1 ends) (startsNot_doubled.1 plain) (fun h => free (hnone h)) hsteps⟩
  | noStep ends =>
    subst hxs
    exact ⟨[], cs, rfl, fun _ => rfl, .noStep (startsNot_doubled.1 ends)⟩
  | member name ends rest ih =>
    obtain ⟨es, rfl, hes⟩ := doubled_eq_cons rfl hxs.symm
    obtain ⟨fs, rfl, rfl⟩ := doubled_eq_append (isBrace_of_mem_name name) hes.symm
    obtain ⟨steps', ds, hds, -, hsteps⟩ := ih rfl hclear.of_cons.of_append
    exact ⟨_ :: steps', ds, hds, nofun, .member name (startsNot_doubled.1 ends) hsteps⟩
  | index value close rest ih ih' =>
    obtain ⟨es, rfl, rfl⟩ := doubled_eq_cons rfl hxs.symm
    have hes := hclear.of_cons
    obtain ⟨e, ds, rfl, hvalue⟩ := ih rfl hes
    obtain ⟨w, rfl, -⟩ := hvalue.consumes
    obtain ⟨fs, hclose, rfl, hfs⟩ := exists_of_trimStart_doubled_mark close rfl hes.of_append
    obtain ⟨steps', gs, hgs, -, hsteps⟩ := ih' rfl hfs
    exact ⟨_ :: steps', gs, hgs, nofun, .index hvalue hclose hsteps⟩
  | noItem stop =>
    subst hxs
    intro hclose
    obtain ⟨ds, hstop, rfl, -⟩ := exists_of_trimStart_doubled_mark stop hclose hclear
    exact ⟨[], ds, rfl, .noItem hstop⟩
  | someItems start items ih =>
    intro hclose
    obtain ⟨es, ds, hds, hitems⟩ := ih hxs hclear hclose
    rw [hxs, trimStart_doubled] at start
    exact ⟨es, ds, hds, .someItems (startsNot_doubled.1 start) hitems⟩
  | lastItem item stop mark ih =>
    intro hclose
    obtain ⟨e, ds, rfl, hitem⟩ := ih hxs hclear
    obtain ⟨w, rfl, -⟩ := hitem.consumes
    obtain ⟨es, hstop, hes, -⟩ := exists_of_trimStart_doubled_mark stop hclose hclear.of_append
    exact ⟨[e], es, hes, .lastItem hitem hstop mark⟩
  | nextItem item comma items ih ih' =>
    intro hclose
    obtain ⟨e, ds, rfl, hitem⟩ := ih hxs hclear
    obtain ⟨w, rfl, -⟩ := hitem.consumes
    obtain ⟨fs, hcomma, rfl, hfs⟩ := exists_of_trimStart_doubled_mark comma rfl hclear.of_append
    obtain ⟨es, gs, hgs, hitems⟩ := ih' rfl hfs hclose
    exact ⟨e :: es, gs, hgs, .nextItem hitem hcomma hitems⟩
  | noEntry => trivial
  | someEntries => trivial
  | lastEntry => trivial
  | nextEntry => trivial
  | named => trivial
  | short => trivial
  | quoted => trivial

end

end PageTemplates
