import PageTemplates.Proofs.Syntax.Spans

/-!
# Pipelines in the grammar

The rest of a pipeline, after its expression: stages behind bars, each a name with arguments in parentheses, with the text
after a colon, or with nothing. Main statements: the parser reads from a whole text the pipelines that the grammar describes
(`parsePipeline_eq_ok`), and an expression reads the same when blanks or a bar are written after it (`Reads.append`), so that a
whole text is the initial expression of the pipelines it is put in front of (`parsePipeline_append_eq_ok`), and blanks around a
pipeline do not matter (`parsePipeline_of_trim`).
-/

namespace PageTemplates

/-! ## Before a bar -/

/-- The text goes on with a bar, after blanks or at once. -/
def StartsBar (u : List Char) : Prop :=
  (Text.trimStart u).head? = some '|'

/-- The text is blank, or goes on with a bar after its blanks. -/
def Separates (u : List Char) : Prop :=
  Text.trimStart u = [] ∨ StartsBar u

/-- What stands before such a text is not gone on with by a character that is neither a blank nor a bar. -/
theorem Separates.startsNot {u : List Char} (h : Separates u) {p : Char → Bool} (hbar : p '|' = false)
    (hblank : ∀ c, p c = true → Text.isBlank c = false) : StartsNot p u := by
  cases u with
  | nil => exact StartsNot.nil p
  | cons c u =>
    rw [startsNot_cons, ← Bool.not_eq_true]
    intro hc
    rw [Separates, StartsBar, trimStart_of_startsNot (startsNot_cons.2 (hblank c hc)), List.head?_cons, Option.some.injEq] at h
    obtain rfl := h.resolve_left (List.cons_ne_nil c u)
    rw [hbar] at hc
    exact Bool.false_ne_true hc

theorem StartsNot.append_of_ne_nil {p : Char → Bool} {v : List Char} (hv : StartsNot p v) (hne : v ≠ []) (u : List Char) :
    StartsNot p (v ++ u) := by
  obtain ⟨c, v, rfl⟩ := List.exists_cons_of_ne_nil hne
  exact hv

theorem StartsNot.append {p : Char → Bool} {v u : List Char} (hv : StartsNot p v) (hu : StartsNot p u) :
    StartsNot p (v ++ u) := by
  by_cases hne : v = []
  · rw [hne]
    exact hu
  · exact hv.append_of_ne_nil hne u

/-- A scan for a number takes nothing of a text that no number goes on with. -/
theorem scanNumber_of_startsNot (f : Bool) {u : List Char} (hu : StartsNot isNumberChar u) : scanNumber f u = (f, []) := by
  cases u with
  | nil => rfl
  | cons c u =>
    have hnot : ∀ {P : Prop}, (P → isNumberChar c = true) → ¬P := fun h hP =>
      Bool.false_ne_true ((startsNot_cons.1 hu).symm.trans (h hP))
    exact scanNumber_cons_other f u (hnot isNumberChar_of_isDigit) (hnot fun h => h ▸ rfl)
      (hnot isNumberChar_of_isExponentMark)

/-- Before a text that no number goes on with, a text starts with a digit exactly when it does so alone. -/
theorem head?_isDigit_append {cs u : List Char} (hu : StartsNot isNumberChar u) :
    ((cs ++ u).head?.map Char.isDigit).getD false = (cs.head?.map Char.isDigit).getD false := by
  cases cs with
  | cons d ds => rfl
  | nil =>
    cases u with
    | nil => rfl
    | cons x u =>
      have hx : StartsNot Char.isDigit (x :: u) := hu.mono fun c hc => isNumberChar_of_isDigit (by simp [hc])
      exact startsNot_cons.1 hx

/-- What a scan for a number takes does not depend on a text after it that no number goes on with. -/
theorem scanNumber_append_of_startsNot (f : Bool) (cs : List Char) {u : List Char} (hu : StartsNot isNumberChar u) :
    scanNumber f (cs ++ u) = scanNumber f cs := by
  induction f, cs using scanNumber.induct with
  | case1 f => exact scanNumber_of_startsNot f hu
  | case2 f c cs hd ih =>
    rw [List.cons_append, scanNumber_cons_digit f _ hd, scanNumber_cons_digit f _ hd, ih]
  | case3 f cs hp hd ih =>
    simp only [Bool.and_eq_true, Bool.not_eq_true'] at hp
    obtain ⟨rfl, hp⟩ := hp
    rw [List.cons_append, scanNumber_cons_point _ ((head?_isDigit_append hu).trans hp), scanNumber_cons_point _ hp, ih]
  | case4 f cs hp hd ih =>
    rw [List.cons_append, scanNumber_cons_point_of_not hp]
    exact scanNumber_cons_point_of_not (by rwa [head?_isDigit_append hu])
  | case5 f c hd hp he s r hs float text ht ih ih' =>
    rw [List.cons_append, List.cons_append, scanNumber_cons_sign f _ hd hp he hs, scanNumber_cons_sign f _ hd hp he hs, ih']
  | case6 f c hd hp he s r hs ih =>
    have hs' : ∀ t, StartsNot (fun s => decide (s = '+') || decide (s = '-')) (s :: t) := by
      simpa [startsNot_cons] using hs
    have happend : (c :: s :: r) ++ u = c :: (s :: r ++ u) := rfl
    have hmore : scanNumber f (c :: (s :: r ++ u)) =
        ((scanNumber true (s :: r ++ u)).1, c :: (scanNumber true (s :: r ++ u)).2) :=
      scanNumber_cons_mark f hd hp he (hs' (r ++ u))
    rw [happend, hmore, scanNumber_cons_mark f hd hp he (hs' r), ih]
  | case7 f c hd hp he ih =>
    rw [List.cons_append, List.nil_append, scanNumber_cons_mark f hd hp he (hu.mono fun s => isNumberChar_of_isSign),
      scanNumber_cons_mark f hd hp he (StartsNot.nil _), scanNumber_of_startsNot true hu]
    rfl
  | case8 f c cs hd hp he ih =>
    rw [List.cons_append, scanNumber_cons_other f _ hd hp he, scanNumber_cons_other f _ hd hp he]

theorem SpellsNumber.append {w after u : List Char} {l : Literal} (h : SpellsNumber w after l)
    (hu : StartsNot isNumberChar u) : SpellsNumber w (after ++ u) l := by
  obtain ⟨sign, body, isFloat, hw, hstart, hsign, hscan, hend, hv⟩ := h
  have hname : StartsNot isNameChar u := hu.mono fun c hc => by simp [isNumberChar, hc]
  refine ⟨sign, body, isFloat, hw, hstart, hsign, ?_, hend.append hname, hv⟩
  rw [← List.append_assoc, scanNumber_append_of_startsNot false _ hu, hscan]

/-- The items of a list, from one on, take up more than blanks. -/
theorem Reads.trimStart_ne_nil_of_moreItems {rule : LiteralRule} {close : Char} {es : List Expression} {cs ds : List Char}
    (h : Reads rule (.moreItems close es) cs ds) : Text.trimStart cs ≠ [] := by
  cases h with
  | lastItem item => exact item.trimStart_ne_nil
  | nextItem item => exact item.trimStart_ne_nil

/-- So does the entry of an object. -/
theorem Reads.trimStart_ne_nil_of_entry {rule : LiteralRule} {key : String} {value : Expression} {cs ds : List Char}
    (h : Reads rule (.entry key value) cs ds) : Text.trimStart cs ≠ [] := by
  cases h with
  | named start name => exact start ▸ List.append_ne_nil_of_left_ne_nil name.ne_nil _
  | short start name => exact start ▸ List.append_ne_nil_of_left_ne_nil name.ne_nil _
  | quoted start literal => exact start ▸ List.append_ne_nil_of_left_ne_nil literal.ne_nil _

theorem Reads.trimStart_ne_nil_of_moreEntries {rule : LiteralRule} {es : List (String × Expression)} {cs ds : List Char}
    (h : Reads rule (.moreEntries es) cs ds) : Text.trimStart cs ≠ [] := by
  cases h with
  | lastEntry entry => exact entry.trimStart_ne_nil_of_entry
  | nextEntry entry => exact entry.trimStart_ne_nil_of_entry

/-- What stands at the start of a text stands there when the text goes on. -/
theorem trimStart_append_eq {cs x ds : List Char} (h : Text.trimStart cs = x ++ ds) (hx : x ≠ []) (u : List Char) :
    Text.trimStart (cs ++ u) = x ++ (ds ++ u) := by
  rw [trimStart_append_of_ne_nil (h ▸ List.append_ne_nil_of_left_ne_nil hx ds), h, List.append_assoc]

theorem trimStart_append_mark {cs ds : List Char} {c : Char} (h : Text.trimStart cs = c :: ds) (u : List Char) :
    Text.trimStart (cs ++ u) = c :: (ds ++ u) :=
  trimStart_append_eq (x := [c]) h (by simp) u

/-- A phrase reads the same when blanks or a bar are written after the text. -/
theorem Reads.append {rule : LiteralRule} {φ : Phrase} {cs ds u : List Char} (h : Reads rule φ cs ds) (hu : Separates u) :
    Reads rule φ (cs ++ u) (ds ++ u) := by
  have hnumber : StartsNot isNumberChar u := hu.startsNot rfl fun _ => isBlank_of_isNumberChar
  have hname : StartsNot isNameChar u := hu.startsNot rfl fun _ => isBlank_of_isNameChar
  have hparen : StartsNot (· == '(') u := by
    refine hu.startsNot rfl fun c hc => ?_
    rw [beq_iff_eq.1 hc]
    rfl
  have hstep : StartsNot startsStep u := by
    refine hu.startsNot rfl fun c hc => ?_
    simp only [startsStep, Bool.or_eq_true, beq_iff_eq] at hc
    rcases hc with rfl | rfl <;> rfl
  have hbare : StartsNot (fun c => c == '(' || startsStep c) u := by
    intro c hc
    rw [Bool.or_eq_false_iff]
    exact ⟨hparen c hc, hstep c hc⟩
  induction h with
  | string start literal => exact .string (trimStart_append_eq start literal.ne_nil u) literal
  | number start number => exact .number (trimStart_append_eq start number.ne_nil u) (number.append hnumber)
  | array start items ih => exact .array (trimStart_append_mark start u) ih
  | object start entries ih => exact .object (trimStart_append_mark start u) ih
  | call start name items ih =>
    have hstart := trimStart_append_eq start name.ne_nil u
    exact .call hstart name ih
  | reserved start name word ends bare =>
    exact .reserved (trimStart_append_eq start name.ne_nil u) name word (ends.append hname) (bare.append hbare)
  | path start name ends plain free rest ih =>
    have hstart := trimStart_append_eq start name.ne_nil u
    have hends := ends.append hname
    have hplain := plain.append hparen
    rw [List.append_assoc] at hstart hends hplain ih
    exact .path hstart name hends hplain free ih
  | noStep ends => exact .noStep (ends.append hstep)
  | member name ends rest ih =>
    rw [List.cons_append, List.append_assoc]
    exact .member name (ends.append hname) ih
  | index value close rest ih ih' => exact .index ih (trimStart_append_mark close u) ih'
  | noItem stop => exact .noItem (trimStart_append_mark stop u)
  | someItems start items ih =>
    refine .someItems ?_ ih
    rw [trimStart_append_of_ne_nil items.trimStart_ne_nil_of_moreItems]
    exact start.append_of_ne_nil items.trimStart_ne_nil_of_moreItems u
  | lastItem item stop mark ih => exact .lastItem ih (trimStart_append_mark stop u) mark
  | nextItem item comma items ih ih' => exact .nextItem ih (trimStart_append_mark comma u) ih'
  | noEntry stop => exact .noEntry (trimStart_append_mark stop u)
  | someEntries start entries ih =>
    refine .someEntries ?_ ih
    rw [trimStart_append_of_ne_nil entries.trimStart_ne_nil_of_moreEntries]
    exact start.append_of_ne_nil entries.trimStart_ne_nil_of_moreEntries u
  | lastEntry entry stop ih => exact .lastEntry ih (trimStart_append_mark stop u)
  | nextEntry entry comma entries ih ih' => exact .nextEntry ih (trimStart_append_mark comma u) ih'
  | named start name ends colon rest ih =>
    exact .named (trimStart_append_eq start name.ne_nil u) name (ends.append hname) (trimStart_append_mark colon u) ih
  | @short cs w ds start name ends bare =>
    refine .short (trimStart_append_eq start name.ne_nil u) name (ends.append hname) ?_
    -- A bar is no colon, when only blanks stand before it.
    by_cases hds : Text.trimStart ds = []
    · have hbar : Text.trimStart (ds ++ u) = Text.trimStart u := trimStart_blanks_append (isBlank_of_trimStart_eq_nil hds) u
      rw [hbar]
      intro c hc
      rcases hu with hblank | hu
      · simp [hblank] at hc
      · rw [hu, Option.mem_some_iff] at hc
        exact hc ▸ rfl
    · rw [trimStart_append_of_ne_nil hds]
      exact bare.append_of_ne_nil hds u
  | quoted start literal colon rest ih =>
    exact .quoted (trimStart_append_eq start literal.ne_nil u) literal (trimStart_append_mark colon u) ih

/-! ## Stages -/

/-- The arguments of a stage stand at the start of the first text, after its name, and the second text is what is left after
them. -/
inductive ReadsArguments : List Expression → List Char → List Char → Prop where
  | list {cs cs' ds args} (start : Text.trimStart cs = '(' :: cs') (items : Reads anyLiteral (.items ')' args) cs' ds) :
      ReadsArguments args cs ds
  | colon {cs cs'} (start : Text.trimStart cs = ':' :: cs') :
      ReadsArguments (colonArgument (splitBar cs').1) cs (splitBar cs').2
  | none {cs} (start : StartsNot (fun c => c == '(' || c == ':') (Text.trimStart cs)) : ReadsArguments [] cs (Text.trimStart cs)

/-- A whole text is stages, each behind a bar. -/
inductive ReadsStages : List (FilterCall Expression) → List Char → Prop where
  | done {cs} (ends : Text.trimStart cs = []) : ReadsStages [] cs
  | stage {cs cs' w cs'' args ds stages} (bar : Text.trimStart cs = '|' :: cs') (start : Text.trimStart cs' = w ++ cs'')
      (name : IsName w) (ends : StartsNot isNameChar cs'') (arguments : ReadsArguments args cs'' ds)
      (more : ReadsStages stages ds) : ReadsStages ({ name := String.ofList w, args } :: stages) cs

theorem ReadsArguments.length_le {args : List Expression} {cs ds : List Char} (h : ReadsArguments args cs ds) :
    ds.length ≤ cs.length := by
  cases h with
  | list start items =>
    have hitems := items.length_le
    have hstart := length_lt_of_trimStart start
    omega
  | @colon _ cs' start =>
    have hsplit := congrArg List.length (splitBar_append cs')
    have hstart := length_lt_of_trimStart start
    rw [List.length_append] at hsplit
    omega
  | none => exact length_le_of_trimStart rfl

/-- A bar takes up a character, so what follows a stage is shorter than the text with it. -/
theorem length_lt_of_stage {args : List Expression} {cs cs' w cs'' ds : List Char} (bar : Text.trimStart cs = '|' :: cs')
    (start : Text.trimStart cs' = w ++ cs'') (arguments : ReadsArguments args cs'' ds) : ds.length < cs.length := by
  have hbar := length_lt_of_trimStart bar
  have hname := length_le_of_trimStart start
  have hargs := arguments.length_le
  rw [List.length_append] at hname
  omega

theorem drop_splitBar (cs : List Char) : cs.drop (splitBar cs).1.length = (splitBar cs).2 :=
  calc cs.drop (splitBar cs).1.length
      = ((splitBar cs).1 ++ (splitBar cs).2).drop (splitBar cs).1.length := by rw [splitBar_append]
    _ = (splitBar cs).2 := List.drop_left

/-- The arguments that the parser reads are described by the grammar. -/
theorem readsArguments_of_parseStageArguments {c d : Cursor} {args : List Expression}
    (h : parseStageArguments c = .ok (args, d)) : ReadsArguments args c.rest d.rest := by
  have hblanks : Text.trimStart c.rest = c.skipBlanks.rest := (Cursor.rest_skipBlanks c).symm
  simp only [parseStageArguments] at h
  split at h
  · rename_i hparen
    obtain ⟨cs, hc⟩ := List.head?_eq_some_iff.1 hparen
    have hr := reads_of_parsed _ (.items ')' args) .endOfArguments h
    rw [Cursor.rest_skip_one hc] at hr
    exact .list (hblanks.trans hc) hr
  · rename_i hparen
    split at h
    · rename_i hcolon
      obtain ⟨cs, hc⟩ := List.head?_eq_some_iff.1 hcolon
      obtain ⟨rfl, rfl⟩ := Prod.mk.inj (Except.ok.inj h)
      have hmark := Cursor.rest_skip_one hc
      rw [hmark, Cursor.rest_skip, hmark, drop_splitBar]
      exact .colon (hblanks.trans hc)
    · rename_i hcolon
      obtain ⟨rfl, rfl⟩ := Prod.mk.inj (Except.ok.inj h)
      rw [← hblanks]
      refine .none fun x hx => ?_
      rw [hblanks] at hx
      simp only [Bool.or_eq_false_iff, beq_eq_false_iff_ne]
      exact ⟨fun heq => hparen (heq ▸ hx), fun heq => hcolon (heq ▸ hx)⟩

/-- The parser reads the arguments that the grammar describes. -/
theorem ReadsArguments.parsed {c : Cursor} {args : List Expression} {ds : List Char} (h : ReadsArguments args c.rest ds) :
    ∃ d, parseStageArguments c = .ok (args, d) ∧ d.rest = ds := by
  have hblanks : Text.trimStart c.rest = c.skipBlanks.rest := (Cursor.rest_skipBlanks c).symm
  cases h with
  | list start items =>
    rw [hblanks] at start
    obtain ⟨d, hd, hr⟩ := items.parsed (nestingBound c.skipBlanks.rest) (c.skipBlanks.skip 1) .endOfArguments
      (Cursor.rest_skip_one start) (by rw [nestingBound, start, List.length_cons, Phrase.cost]; omega)
    have hpeek : c.skipBlanks.peek? = some '(' := by rw [Cursor.peek?, start]; rfl
    simp only [Phrase.Parsed] at hd
    exact ⟨d, by simp only [parseStageArguments, hpeek, if_true, hd], hr⟩
  | @colon _ cs' start =>
    rw [hblanks] at start
    have hpeek : c.skipBlanks.peek? = some ':' := by rw [Cursor.peek?, start]; rfl
    have hne : ¬some ':' = some '(' := by decide
    refine ⟨(c.skipBlanks.skip 1).skip (splitBar cs').1.length, ?_, ?_⟩
    · simp only [parseStageArguments, hpeek, hne, if_true, if_false, Cursor.rest_skip_one start]
    · rw [Cursor.rest_skip, Cursor.rest_skip_one start, drop_splitBar]
  | none start =>
    have hne : ∀ x, (x == '(' || x == ':') = true → ¬c.skipBlanks.peek? = some x := by
      intro x hx hpeek
      rw [hblanks] at start
      exact Bool.false_ne_true ((start x hpeek).symm.trans hx)
    exact ⟨c.skipBlanks, by simp only [parseStageArguments, hne '(' rfl, hne ':' rfl, if_false], hblanks.symm⟩

/-- The stages that the parser reads are described by the grammar. -/
theorem readsStages_of_parseStages {fuel : Nat} {c : Cursor} {stages : List (FilterCall Expression)}
    (h : parseStages fuel c = .ok stages) : ReadsStages stages c.rest := by
  induction fuel generalizing c stages with
  | zero => simp [parseStages] at h
  | succ fuel ih =>
    have hblanks : ∀ c : Cursor, Text.trimStart c.rest = c.skipBlanks.rest := fun c => (Cursor.rest_skipBlanks c).symm
    simp only [parseStages] at h
    split at h
    · rename_i hc
      rw [← Except.ok.inj h]
      exact .done ((hblanks c).trans hc)
    · rename_i x xs hc
      split at h
      · rename_i hx
        subst hx
        have hmark := Cursor.rest_skip_one hc
        split at h
        · simp at h
        · rename_i name e hname
          obtain ⟨w, hw, rfl, hrest, hends⟩ := parseName?_eq_some hname
          obtain ⟨⟨args, f⟩, hargs, h⟩ := Except.bind_eq_ok.1 h
          obtain ⟨more, hmore, he⟩ := Except.bind_eq_ok.1 h
          obtain rfl := Except.ok.inj he
          have hstart : Text.trimStart xs = w ++ e.rest := by rw [← hmark, hblanks, hrest]
          exact .stage ((hblanks c).trans hc) hstart hw hends (readsArguments_of_parseStageArguments hargs) (ih hmore)
      · simp at h

/-- With fuel for the text, the parser reads the stages that the grammar describes. -/
theorem ReadsStages.parsed {stages : List (FilterCall Expression)} {cs : List Char} (h : ReadsStages stages cs) {fuel : Nat}
    {c : Cursor} (hcs : c.rest = cs) (hf : cs.length < fuel) : parseStages fuel c = .ok stages := by
  induction h generalizing fuel c with
  | done ends =>
    obtain ⟨fuel, rfl⟩ := Nat.exists_eq_add_one_of_ne_zero (by omega : fuel ≠ 0)
    have hend : c.skipBlanks.rest = [] := by rw [Cursor.rest_skipBlanks, hcs, ends]
    simp only [parseStages, hend]
  | @stage cs cs' w cs'' args ds stages bar start name ends arguments more ih =>
    obtain ⟨fuel, rfl⟩ := Nat.exists_eq_add_one_of_ne_zero (by omega : fuel ≠ 0)
    have hlt := length_lt_of_stage bar start arguments
    have hbar : c.skipBlanks.rest = '|' :: cs' := by rw [Cursor.rest_skipBlanks, hcs, bar]
    have hname : (c.skipBlanks.skip 1).skipBlanks.rest = w ++ cs'' := by
      rw [Cursor.rest_skipBlanks, Cursor.rest_skip_one hbar, start]
    obtain ⟨d, hd, hdr⟩ := parseName?_of_isName name hname ends
    obtain ⟨e, he, her⟩ := ReadsArguments.parsed (hdr.symm ▸ arguments)
    have hmore := ih her (Nat.lt_of_lt_of_le hlt (Nat.le_of_lt_succ hf))
    simp only [parseStages, hbar, if_true, hd, he, hmore, bind, Except.bind, pure, Except.pure]

/-- A whole text is a pipeline when the grammar reads its expression, and its stages after that. -/
theorem parsePipeline_eq_ok {text : List Char} {p : Pipeline} :
    parsePipeline text = .ok p ↔
      ∃ rest, Reads anyLiteral (.expression p.initial) text rest ∧ ReadsStages p.stages rest := by
  constructor
  · intro h
    obtain ⟨⟨e, c⟩, he, h⟩ := Except.bind_eq_ok.1 h
    obtain ⟨stages, hstages, h⟩ := Except.bind_eq_ok.1 h
    obtain rfl := Except.ok.inj h
    have hr := reads_of_parsed _ (.expression e) .endOfExpression he
    exact ⟨c.rest, hr, readsStages_of_parseStages hstages⟩
  · rintro ⟨rest, hr, hstages⟩
    obtain ⟨c, hc, rfl⟩ := hr.parsed (nestingBound text) (Cursor.ofList text) .endOfExpression rfl
      (Nat.add_le_add_left (by decide : 1 ≤ 3) _)
    simp only [Phrase.Parsed] at hc
    have hmore := hstages.parsed rfl (Nat.lt_succ_of_le hr.length_le)
    simp only [parsePipeline, hc, hmore, bind, Except.bind, pure, Except.pure]

/-! ## Parts of a pipeline -/

/-- The grammar reads one expression from a text. -/
theorem Reads.expression_unique {rule rule' : LiteralRule} {e e' : Expression} {cs ds ds' : List Char}
    (h : Reads rule (.expression e) cs ds) (h' : Reads rule' (.expression e') cs ds') : e = e' ∧ ds = ds' := by
  obtain ⟨d, hd, rfl⟩ := h.parsed _ (Cursor.ofList cs) .endOfExpression rfl (Nat.le_refl _)
  obtain ⟨d', hd', rfl⟩ := h'.parsed _ (Cursor.ofList cs) .endOfExpression rfl (Nat.le_refl _)
  obtain ⟨he, hc⟩ := Prod.mk.inj (Except.ok.inj (hd.symm.trans hd'))
  exact ⟨he, congrArg Cursor.rest hc⟩

/-- The grammar reads one list of items up to a mark. -/
theorem Reads.items_unique {rule rule' : LiteralRule} {close : Char} {es es' : List Expression} {cs ds ds' : List Char}
    (h : Reads rule (.items close es) cs ds) (h' : Reads rule' (.items close es') cs ds') : es = es' ∧ ds = ds' := by
  obtain ⟨d, hd, rfl⟩ := h.parsed _ (Cursor.ofList cs) .endOfArguments rfl (Nat.le_refl _)
  obtain ⟨d', hd', rfl⟩ := h'.parsed _ (Cursor.ofList cs) .endOfArguments rfl (Nat.le_refl _)
  obtain ⟨he, hc⟩ := Prod.mk.inj (Except.ok.inj (hd.symm.trans hd'))
  exact ⟨he, congrArg Cursor.rest hc⟩

/-- Blanks before stages do not matter. -/
theorem ReadsStages.of_trimStart_eq {stages : List (FilterCall Expression)} {cs cs' : List Char} (h : ReadsStages stages cs)
    (heq : Text.trimStart cs' = Text.trimStart cs) : ReadsStages stages cs' := by
  cases h with
  | done ends => exact .done (heq.trans ends)
  | stage bar start name ends arguments more => exact .stage (heq.trans bar) start name ends arguments more

/-- A text that starts with a bar and a name is a stage of that name, with the arguments that follow, and the stages after it.
-/
theorem readsStages_bar_iff {cs w cs' cs'' : List Char} {stages : List (FilterCall Expression)}
    (bar : Text.trimStart cs = '|' :: cs') (start : Text.trimStart cs' = w ++ cs'') (name : IsName w)
    (ends : StartsNot isNameChar cs'') :
    ReadsStages stages cs ↔
      ∃ args ds more, stages = { name := String.ofList w, args } :: more ∧ ReadsArguments args cs'' ds ∧ ReadsStages more ds := by
  constructor
  · intro h
    cases h with
    | done hends => simp [hends] at bar
    | @stage _ ct v ct' args ds more bar' start' name' ends' arguments hmore =>
      obtain ⟨-, rfl⟩ := List.cons.inj (bar'.symm.trans bar)
      have hcut := start'.symm.trans start
      have hw : v = w := by
        rw [← takeWhile_append_of_startsNot name'.isNameChar ends', hcut, takeWhile_append_of_startsNot name.isNameChar ends]
      subst hw
      obtain rfl := List.append_cancel_left hcut
      exact ⟨args, ds, more, rfl, arguments, hmore⟩
  · rintro ⟨args, ds, more, rfl, arguments, hmore⟩
    exact .stage bar start name ends arguments hmore

/-- A whole text is the initial expression of a pipeline that goes on behind it with a bar. -/
theorem parsePipeline_append_eq_ok {text u : List Char} {e : Expression} (h : parseExpression text = .ok e) (hu : StartsBar u)
    {p : Pipeline} : parsePipeline (text ++ u) = .ok p ↔ p.initial = e ∧ ReadsStages p.stages u := by
  obtain ⟨rest, hr, hrest⟩ := parseExpression_eq_ok.1 h
  have hlong := hr.append (Or.inr hu)
  have hblanks : Text.trimStart (rest ++ u) = Text.trimStart u :=
    trimStart_blanks_append (isBlank_of_trimStart_eq_nil hrest) u
  rw [parsePipeline_eq_ok]
  constructor
  · rintro ⟨rest', hr', hstages⟩
    obtain ⟨he, rfl⟩ := hr'.expression_unique hlong
    exact ⟨he, hstages.of_trimStart_eq hblanks.symm⟩
  · rintro ⟨rfl, hstages⟩
    exact ⟨rest ++ u, hlong, hstages.of_trimStart_eq hblanks⟩

/-! ## Blanks around a pipeline -/

section

variable {b : List Char}

theorem trimStart_eq_nil_of_blanks (hb : ∀ c ∈ b, Text.isBlank c = true) : Text.trimStart b = [] :=
  List.dropWhile_eq_nil_iff.2 hb

theorem notMem_of_blanks (hb : ∀ c ∈ b, Text.isBlank c = true) {c : Char} (hc : Text.isBlank c = false) : c ∉ b :=
  fun hmem => Bool.false_ne_true (hc.symm.trans (hb c hmem))

theorem exists_blanks_after (cs : List Char) : ∃ b, (∀ c ∈ b, Text.isBlank c = true) ∧ cs = Text.trimEnd cs ++ b := by
  obtain ⟨b, hb, hcs⟩ := exists_blanks cs.reverse
  refine ⟨b.reverse, by simpa using hb, ?_⟩
  rw [Text.trimEnd, ← List.reverse_append, ← Text.trimStart, ← hcs, List.reverse_reverse]

theorem trim_append (cs : List Char) (hb : ∀ c ∈ b, Text.isBlank c = true) : Text.trim (cs ++ b) = Text.trim cs := by
  rw [Text.trim, Text.trim]
  by_cases hcs : Text.trimStart cs = []
  · rw [trimStart_blanks_append (isBlank_of_trimStart_eq_nil hcs) b, trimStart_eq_nil_of_blanks hb, hcs]
  · rw [trimStart_append_of_ne_nil hcs, trimEnd_append _ hb]

theorem splitBarFrom_of_notMem (s : ScanState) {cs : List Char} (h : '|' ∉ cs) : splitBarFrom s cs = (cs, []) := by
  induction cs generalizing s with
  | nil => rfl
  | cons c cs ih =>
    have hc : ¬(s = .outside 0 ∧ c = '|') := fun hbar => h (hbar.2 ▸ List.mem_cons_self)
    rw [splitBarFrom, if_neg hc, ih _ fun hmem => h (List.mem_cons_of_mem c hmem)]

/-- A bar is found where it was when blanks are written after the text. -/
theorem splitBarFrom_append_blanks (s : ScanState) (cs : List Char) (hb : ∀ c ∈ b, Text.isBlank c = true) :
    splitBarFrom s (cs ++ b) =
      if (splitBarFrom s cs).2 = [] then (cs ++ b, []) else ((splitBarFrom s cs).1, (splitBarFrom s cs).2 ++ b) := by
  induction cs generalizing s with
  | nil => exact splitBarFrom_of_notMem s (notMem_of_blanks hb rfl)
  | cons c cs ih =>
    rw [List.cons_append, splitBarFrom, splitBarFrom]
    by_cases hbar : s = .outside 0 ∧ c = '|'
    · rw [if_pos hbar, if_pos hbar]
      simp
    · rw [if_neg hbar, if_neg hbar, ih]
      by_cases hall : (splitBarFrom (s.step c) cs).2 = []
      · simp [hall]
      · simp [hall]

theorem ReadsArguments.append_blanks {args : List Expression} {cs ds : List Char} (h : ReadsArguments args cs ds)
    (hb : ∀ c ∈ b, Text.isBlank c = true) :
    ∃ ds', Text.trimStart ds' = Text.trimStart (ds ++ b) ∧ ReadsArguments args (cs ++ b) ds' := by
  have hend := trimStart_eq_nil_of_blanks hb
  cases h with
  | list start items => exact ⟨ds ++ b, rfl, .list (trimStart_append_mark start b) (items.append (Or.inl hend))⟩
  | @colon _ cs' start =>
    have harguments := ReadsArguments.colon (trimStart_append_mark start b)
    rw [splitBar, splitBarFrom_append_blanks _ _ hb, ← splitBar] at harguments
    by_cases hall : (splitBar cs').2 = []
    · have hargument : (splitBar cs').1 = cs' := by
        have hsplit := splitBar_append cs'
        rwa [hall, List.append_nil] at hsplit
      rw [if_pos hall, colonArgument, trim_append _ hb, ← colonArgument] at harguments
      rw [hargument]
      refine ⟨[], ?_, harguments⟩
      rw [hall, List.nil_append, hend]
      rfl
    · rw [if_neg hall] at harguments
      exact ⟨_, rfl, harguments⟩
  | none start =>
    by_cases hcs : Text.trimStart cs = []
    · have hblank : Text.trimStart (cs ++ b) = [] := by
        rw [trimStart_blanks_append (isBlank_of_trimStart_eq_nil hcs) b, hend]
      refine ⟨_, ?_, .none (hblank ▸ StartsNot.nil _)⟩
      rw [hblank, hcs, List.nil_append, hend]
      rfl
    · have happend := trimStart_append_of_ne_nil hcs (v := b)
      refine ⟨_, ?_, .none (happend ▸ start.append_of_ne_nil hcs b)⟩
      rw [happend]

theorem ReadsStages.append_blanks {stages : List (FilterCall Expression)} {cs : List Char} (h : ReadsStages stages cs)
    (hb : ∀ c ∈ b, Text.isBlank c = true) : ReadsStages stages (cs ++ b) := by
  have hend := trimStart_eq_nil_of_blanks hb
  induction h with
  | done ends =>
    refine .done ?_
    rw [trimStart_blanks_append (isBlank_of_trimStart_eq_nil ends) b, hend]
  | stage bar start name ends arguments more ih =>
    obtain ⟨ds', heq, harguments⟩ := arguments.append_blanks hb
    have hname : StartsNot isNameChar b := Separates.startsNot (Or.inl hend) rfl fun _ => isBlank_of_isNameChar
    exact .stage (trimStart_append_mark bar b) (trimStart_append_eq start name.ne_nil b) name (ends.append hname) harguments
      (ih.of_trimStart_eq heq)

/-- A text without the blanks around it is a pipeline only if the whole text is that pipeline. -/
theorem parsePipeline_of_trim {text : List Char} {p : Pipeline} (h : parsePipeline (Text.trim text) = .ok p) :
    parsePipeline text = .ok p := by
  obtain ⟨b, hb, htext⟩ := exists_blanks_after (Text.trimStart text)
  obtain ⟨rest, hr, hstages⟩ := parsePipeline_eq_ok.1 h
  have hlong := hr.append (Or.inl (trimStart_eq_nil_of_blanks hb))
  rw [Text.trim, ← htext] at hlong
  exact parsePipeline_eq_ok.2 ⟨rest ++ b, hlong.of_trimStart_eq trivial (trimStart_trimStart text).symm, hstages.append_blanks hb⟩

end

end PageTemplates
