import PageTemplates.Decimal.Layout
import PageTemplates.Proofs.Syntax.Spans

/-!
# Printing expressions

The canonical text of an expression: one space after a comma or a colon, texts in single quotes with a backslash before
backslashes and single quotes and before nothing else. Main statement: a printed pipeline between double braces is read back as
one fragment with that pipeline (`parseTemplate_print`), whatever texts, keys and nesting it has.
-/

namespace PageTemplates

/-! ## Texts -/

namespace StringLiteral

/-- A text as it stands between single quotes. -/
def escape (s : List Char) : List Char :=
  s.flatMap fun c => if c = '\\' ∨ c = '\x27' then ['\\', c] else [c]

/-- A text between single quotes. -/
def print (s : List Char) : List Char :=
  '\x27' :: (escape s ++ ['\x27'])

theorem escape_cons (c : Char) (s : List Char) :
    escape (c :: s) = (if c = '\\' ∨ c = '\x27' then ['\\', c] else [c]) ++ escape s := by
  simp [escape]

/-- The reader takes the escapes away and stops at the closing quote. -/
theorem read?_escape (s after : List Char) : read? '\x27' .plain (escape s ++ '\x27' :: after) = some (s, after) := by
  induction s with
  | nil => simp [escape, read?]
  | cons c s ih =>
    rw [escape_cons]
    split
    · rename_i hc
      have hu : c ≠ 'u' ∧ unescape c = c := by rcases hc with rfl | rfl <;> decide
      simp [read?, hu, ih]
    · rename_i hc
      rw [not_or] at hc
      simp [read?, hc, ih]

/-- A printed text has no codes. -/
theorem clear_escape (s : List Char) : clear '\x27' .plain (escape s ++ ['\x27']) = true := by
  induction s with
  | nil => simp [escape, clear]
  | cons c s ih =>
    rw [escape_cons]
    split
    · rename_i hc
      have hu : c ≠ 'u' := by rcases hc with rfl | rfl <;> decide
      simp [clear, hu, ih]
    · rename_i hc
      rw [not_or] at hc
      simp [clear, hc, ih]

end StringLiteral

theorem spellsString_print (s : List Char) : SpellsString clearLiteral (StringLiteral.print s) s :=
  ⟨'\x27', StringLiteral.escape s ++ ['\x27'], rfl, rfl, fun after => by simp [StringLiteral.read?_escape],
    StringLiteral.clear_escape s⟩

/-! ## Integers -/

/-- A character that cannot follow a printed expression. -/
def continues (c : Char) : Bool :=
  isNameChar c || c == '(' || startsStep c

theorem isDigit_of_mem_digitsOf {n : Nat} : ∀ c ∈ Decimal.digitsOf n, c.isDigit = true :=
  fun _ hc => Nat.isDigit_of_mem_toDigits (by decide) (by decide) hc

theorem digitsOf_ne_nil (n : Nat) : Decimal.digitsOf n ≠ [] :=
  Nat.toDigits_ne_nil

theorem digitsValue_digitsOf (n : Nat) : Decimal.digitsValue (Decimal.digitsOf n) = n := by
  have h := Nat.ofDigitChars_ten_toDigits (n := n)
  rwa [Nat.ofDigitChars_eq_foldl] at h

/-- Digits are scanned up to a character that does not continue them. -/
theorem scanNumber_digits {ds after : List Char} (hds : ∀ c ∈ ds, c.isDigit = true) (h : StartsNot continues after) :
    scanNumber false (ds ++ after) = (false, ds) := by
  induction ds with
  | nil =>
    cases after with
    | nil => rfl
    | cons c after =>
      have hc := startsNot_cons.1 h
      simp only [continues, startsStep, isNameChar, Char.isAlphanum, Bool.or_eq_false_iff, beq_eq_false_iff_ne] at hc
      obtain ⟨⟨⟨⟨⟨halpha, hdigit⟩, hunder⟩, -⟩, -⟩, hpoint, -⟩ := hc
      have hmark : ∀ x : Char, x.isAlpha = true → c ≠ x := by
        rintro x hx rfl
        exact Bool.false_ne_true (halpha.symm.trans hx)
      exact scanNumber_cons_other false after (by simp [hdigit, hunder]) hpoint
        (by simp [hmark 'e' (by decide), hmark 'E' (by decide)])
  | cons d ds ih =>
    obtain ⟨hd, hds⟩ := List.forall_mem_cons.1 hds
    rw [List.cons_append, scanNumber_cons_digit false _ (by simp [hd]), ih hds]

theorem readSign_digitsOf (n : Nat) : Decimal.readSign (Decimal.digitsOf n) = (false, Decimal.digitsOf n) := by
  have hd := isDigit_of_mem_digitsOf (n := n)
  unfold Decimal.readSign
  split
  · rename_i h
    exact absurd (hd '-' (by simp [h])) (by decide)
  · rename_i h
    exact absurd (hd '+' (by simp [h])) (by decide)
  · rfl

/-- The text of an integer is read back. -/
theorem readInt?_integer (n : Int) : Decimal.readInt? (Decimal.integer n) = some n := by
  have hd : (!(Decimal.digitsOf n.natAbs).isEmpty && (Decimal.digitsOf n.natAbs).all Char.isDigit) = true := by
    rw [Bool.and_eq_true, List.all_eq_true]
    exact ⟨by simp [digitsOf_ne_nil], isDigit_of_mem_digitsOf⟩
  by_cases hn : n < 0
  · have hsign : Decimal.readSign (Decimal.integer n) = (true, Decimal.digitsOf n.natAbs) := by
      simp [Decimal.integer, Decimal.signed, hn, Decimal.readSign]
    simp only [Decimal.readInt?, hsign, hd, if_true, digitsValue_digitsOf, Option.some.injEq]
    omega
  · have hsign : Decimal.readSign (Decimal.integer n) = (false, Decimal.digitsOf n.natAbs) := by
      simp [Decimal.integer, Decimal.signed, hn, readSign_digitsOf]
    simp only [Decimal.readInt?, hsign, hd, if_true, if_false, Bool.false_eq_true, digitsValue_digitsOf, Option.some.injEq]
    omega

theorem readInt64?_integer (n : Int64) : Decimal.readInt64? (Decimal.integer n.toInt) = some n := by
  have hbound : Int64.minValue.toInt ≤ n.toInt ∧ n.toInt ≤ Int64.maxValue.toInt := ⟨n.minValue_le_toInt, n.toInt_le⟩
  rw [Decimal.readInt64?, readInt?_integer, Option.bind_some, Decimal.int64?, if_pos hbound, Int64.ofInt_toInt]

theorem spellsNumber_integer (n : Int64) {after : List Char} (h : StartsNot continues after) :
    SpellsNumber (Decimal.integer n.toInt) after (.int n) := by
  have hd := isDigit_of_mem_digitsOf (n := n.toInt.natAbs)
  obtain ⟨x, xs, hx⟩ := List.exists_cons_of_ne_nil (digitsOf_ne_nil n.toInt.natAbs)
  have hxd : x.isDigit = true := hd x (by simp [hx])
  have hends : StartsNot isNameChar after := by
    intro c hc
    have := h c hc
    simp only [continues, Bool.or_eq_false_iff] at this
    exact this.1.1
  have hunder : ∀ c ∈ Decimal.integer n.toInt, (c != '_') = true := by
    have hne : ∀ c ∈ Decimal.digitsOf n.toInt.natAbs, (c != '_') = true := by
      intro c hc
      rw [bne_iff_ne]
      rintro rfl
      exact absurd (hd '_' hc) (by decide)
    unfold Decimal.integer Decimal.signed
    split
    · exact List.forall_mem_cons.2 ⟨by decide, hne⟩
    · exact hne
  have hvalue : numberValue? false ((Decimal.integer n.toInt).filter (· != '_')) = some (.int n) := by
    rw [List.filter_eq_self.2 hunder]
    simp [numberValue?, readInt64?_integer]
  refine ⟨if n.toInt < 0 then ['-'] else [], Decimal.digitsOf n.toInt.natAbs, false, ?_, ?_, ?_,
    scanNumber_digits hd h, hends, hvalue⟩
  · by_cases hn : n.toInt < 0 <;> simp [Decimal.integer, Decimal.signed, hn]
  · by_cases hn : n.toInt < 0 <;> simp [Decimal.integer, Decimal.signed, hn, hx, startsNumber, hxd]
  · by_cases hn : n.toInt < 0
    · simp [hn]
    · refine Or.inr ⟨by simp [hn], fun c hc => ?_⟩
      rw [beq_eq_false_iff_ne]
      rintro rfl
      exact absurd (hd '-' (List.mem_of_mem_head? hc)) (by decide)

/-! ## Printing -/

/-- The canonical text of a constant. A float has none. -/
def Literal.print : Literal → List Char
  | .null => "null".toList
  | .bool true => "true".toList
  | .bool false => "false".toList
  | .int n => Decimal.integer n.toInt
  | .float _ => []
  | .string s => StringLiteral.print s.toList

mutual

/-- The canonical text of an expression. -/
def Expression.print : Expression → List Char
  | .literal l => l.print
  | .binding { text := _, head, steps } => head.toList ++ printSteps steps
  | .array items => '[' :: (printItems items ++ [']'])
  | .object entries => '\x7b' :: (printEntries entries ++ ['\x7d'])
  | .call { name, args } => name.toList ++ '(' :: (printItems args ++ [')'])

/-- The canonical text of the steps of a path. -/
def printSteps : List (Accessor Expression) → List Char
  | [] => []
  | .member name :: steps => '.' :: (name.toList ++ printSteps steps)
  | .index value :: steps => '[' :: (value.print ++ ']' :: printSteps steps)

/-- Expressions with a comma and a space between any two. -/
def printItems : List Expression → List Char
  | [] => []
  | [e] => e.print
  | e :: es => e.print ++ ',' :: ' ' :: printItems es

/-- Entries with a comma and a space between any two. -/
def printEntries : List (String × Expression) → List Char
  | [] => []
  | [(key, value)] => StringLiteral.print key.toList ++ ':' :: ' ' :: value.print
  | (key, value) :: entries =>
    StringLiteral.print key.toList ++ ':' :: ' ' :: (value.print ++ ',' :: ' ' :: printEntries entries)

end

mutual

/-- An expression with a canonical text: it has no floats, its names are names, a path's text is its printed form, and a path
without steps is no reserved word. -/
def Expression.Printable : Expression → Prop
  | .literal (.float _) => False
  | .literal _ => True
  | .binding { text, head, steps } =>
    IsName head.toList ∧ text = String.ofList (head.toList ++ printSteps steps) ∧
      (steps = [] → reserved? head = none) ∧ StepsPrintable steps
  | .array items => ItemsPrintable items
  | .object entries => EntriesPrintable entries
  | .call { name, args } => IsName name.toList ∧ ItemsPrintable args

/-- Every step has a canonical text. -/
def StepsPrintable : List (Accessor Expression) → Prop
  | [] => True
  | .member name :: steps => IsName name.toList ∧ StepsPrintable steps
  | .index value :: steps => value.Printable ∧ StepsPrintable steps

/-- Every item has a canonical text. -/
def ItemsPrintable : List Expression → Prop
  | [] => True
  | e :: es => e.Printable ∧ ItemsPrintable es

/-- Every value has a canonical text. A key may be any text. -/
def EntriesPrintable : List (String × Expression) → Prop
  | [] => True
  | (_, value) :: entries => value.Printable ∧ EntriesPrintable entries

end

/-! ## Reading what was printed -/

theorem startsNot_isNameChar {rest : List Char} (h : StartsNot continues rest) : StartsNot isNameChar rest :=
  h.mono fun c hc => by simp [continues, hc]

theorem startsNot_startsStep {rest : List Char} (h : StartsNot continues rest) : StartsNot startsStep rest :=
  h.mono fun c hc => by simp [continues, hc]

theorem IsName.trimStart_append {w : List Char} (h : IsName w) (rest : List Char) :
    Text.trimStart (w ++ rest) = w ++ rest := by
  obtain ⟨x, xs, rfl, hx, -⟩ := h
  exact trimStart_of_startsNot (startsNot_cons.2 (isBlank_of_isNameChar (isNameChar_of_isNameStart hx)))

theorem trimStart_cons {c : Char} (cs : List Char) (h : Text.isBlank c = false) : Text.trimStart (c :: cs) = c :: cs :=
  trimStart_of_startsNot (startsNot_cons.2 h)

theorem trimStart_print (s rest : List Char) :
    Text.trimStart (StringLiteral.print s ++ rest) = StringLiteral.print s ++ rest :=
  trimStart_cons _ (by decide : Text.isBlank '\x27' = false)

theorem reads_printWord {w : List Char} {l : Literal} {rest : List Char} (hn : IsName w)
    (hw : reserved? (String.ofList w) = some l) (h : StartsNot continues rest) :
    Reads clearLiteral (.expression (.literal l)) (w ++ rest) rest := by
  refine .reserved (hn.trimStart_append rest) hn hw (startsNot_isNameChar h) (h.mono fun c hc => ?_)
  rw [Bool.or_eq_true] at hc
  rcases hc with hc | hc <;> simp [continues, hc]

theorem reads_printLiteral {l : Literal} {rest : List Char} (hl : (Expression.literal l).Printable)
    (h : StartsNot continues rest) : Reads clearLiteral (.expression (.literal l)) (l.print ++ rest) rest := by
  cases l with
  | null => exact reads_printWord (w := ['n', 'u', 'l', 'l']) ⟨_, _, rfl, rfl, List.all_eq_true.1 rfl⟩ rfl h
  | bool b =>
    cases b with
    | true => exact reads_printWord (w := ['t', 'r', 'u', 'e']) ⟨_, _, rfl, rfl, List.all_eq_true.1 rfl⟩ rfl h
    | false => exact reads_printWord (w := ['f', 'a', 'l', 's', 'e']) ⟨_, _, rfl, rfl, List.all_eq_true.1 rfl⟩ rfl h
  | int n =>
    have hs := spellsNumber_integer n h
    have hstart : StartsNot Text.isBlank (Decimal.integer n.toInt ++ rest) := by
      obtain ⟨x, xs, hx⟩ := List.exists_cons_of_ne_nil hs.ne_nil
      rw [hx, List.cons_append, startsNot_cons]
      have hn := hs.chars x (by simp [hx])
      simp only [isNumberChar, Bool.or_eq_true, beq_iff_eq] at hn
      rcases hn with ((hn | rfl) | rfl) | rfl
      · exact isBlank_of_isNameChar hn
      all_goals decide
    exact .number (trimStart_of_startsNot hstart) hs
  | float x => exact absurd hl (by simp [Expression.Printable])
  | string s =>
    have hs := Reads.string (trimStart_print s.toList rest) (spellsString_print s.toList)
    rwa [String.ofList_toList] at hs

/-- What the steps of a path print as starts with the mark of a step. -/
theorem startsNot_printSteps {p : Char → Bool} {rest : List Char} (hpoint : p '.' = false) (hbracket : p '[' = false)
    (h : StartsNot p rest) (steps : List (Accessor Expression)) : StartsNot p (printSteps steps ++ rest) := by
  match steps with
  | [] => simpa only [printSteps, List.nil_append] using h
  | .member name :: steps =>
    rw [printSteps]
    exact startsNot_cons.2 hpoint
  | .index value :: steps =>
    rw [printSteps]
    exact startsNot_cons.2 hbracket

/-- A mark that can close items: it neither starts nor continues an expression, and is no comma. -/
def closesItems (c : Char) : Bool :=
  c == ']' || c == ')'

theorem startsNot_closesItems {close : Char} (h : closesItems close = true) (rest : List Char) :
    StartsNot continues (close :: rest) ∧ startsExpression close = false ∧ close ≠ ',' ∧ Text.isBlank close = false := by
  rw [startsNot_cons]
  simp only [closesItems, Bool.or_eq_true, beq_iff_eq] at h
  rcases h with rfl | rfl <;> decide

/-- An entry prints as its key, a colon and its value. -/
theorem reads_printEntry (key : String) {value : Expression} {cs rest : List Char}
    (h : Reads clearLiteral (.expression value) cs rest) :
    Reads clearLiteral (.entry key value) (StringLiteral.print key.toList ++ ':' :: ' ' :: cs) rest := by
  have hq := Reads.quoted (trimStart_print key.toList (':' :: ' ' :: cs)) (spellsString_print key.toList)
    (trimStart_cons _ (by decide)) (h.space trivial)
  rwa [String.ofList_toList] at hq

/-- Items close at once when there are none, and start with an expression otherwise. -/
theorem reads_items {items : List Expression} {close : Char} {rest : List Char} (hc : closesItems close = true)
    (h : items ≠ [] → Reads clearLiteral (.moreItems close items) (printItems items ++ close :: rest) rest) :
    Reads clearLiteral (.items close items) (printItems items ++ close :: rest) rest := by
  obtain ⟨-, hstart, -, hblank⟩ := startsNot_closesItems hc rest
  cases items with
  | nil =>
    rw [printItems]
    exact .noItem (trimStart_cons _ hblank)
  | cons e es =>
    have hm := h (by simp)
    refine .someItems (fun c hc' => ?_) hm
    rw [beq_eq_false_iff_ne]
    rintro rfl
    exact Bool.false_ne_true (hstart.symm.trans (hm.startsExpression_of_moreItems c hc'))

/-- Entries close at once when there are none, and start with a key otherwise. -/
theorem reads_entries {entries : List (String × Expression)} {rest : List Char}
    (h : entries ≠ [] → Reads clearLiteral (.moreEntries entries) (printEntries entries ++ '\x7d' :: rest) rest) :
    Reads clearLiteral (.entries entries) (printEntries entries ++ '\x7d' :: rest) rest := by
  have hkey : ∀ (key : String) cs, StartsNot (· == '\x7d') (Text.trimStart (StringLiteral.print key.toList ++ cs)) := by
    intro key cs
    rw [trimStart_print]
    exact startsNot_cons.2 (by decide)
  match entries with
  | [] =>
    rw [printEntries]
    exact .noEntry (trimStart_cons _ (by decide))
  | [(key, value)] =>
    refine .someEntries ?_ (h (by simp))
    rw [printEntries, List.append_assoc]
    exact hkey key _
  | (key, value) :: entry :: entries =>
    refine .someEntries ?_ (h (by simp))
    rw [printEntries, List.append_assoc]
    · exact hkey key _
    · simp

mutual

theorem reads_print (e : Expression) {rest : List Char} (he : e.Printable) (h : StartsNot continues rest) :
    Reads clearLiteral (.expression e) (e.print ++ rest) rest := by
  match e with
  | .literal l =>
    rw [Expression.print]
    exact reads_printLiteral he h
  | .binding { text, head, steps } =>
    rw [Expression.Printable] at he
    obtain ⟨hn, rfl, hfree, hs⟩ := he
    rw [Expression.print, List.append_assoc]
    have hsteps := reads_printSteps steps hs h
    have hp := Reads.path (hn.trimStart_append _) hn
      (startsNot_printSteps (by decide) (by decide) (startsNot_isNameChar h) steps)
      (startsNot_printSteps (by decide) (by decide) (h.mono fun c hc => by simp [continues, hc]) steps)
      (by rwa [String.ofList_toList]) hsteps
    rwa [String.ofList_toList] at hp
  | .array items =>
    rw [Expression.Printable] at he
    rw [Expression.print, List.cons_append, List.append_assoc]
    exact .array (trimStart_cons _ (by decide)) (reads_items (by decide) (reads_printItems items rest he (by decide)))
  | .object entries =>
    rw [Expression.Printable] at he
    rw [Expression.print, List.cons_append, List.append_assoc]
    exact .object (trimStart_cons _ (by decide)) (reads_entries (reads_printEntries entries rest he))
  | .call { name, args } =>
    rw [Expression.Printable] at he
    obtain ⟨hn, ha⟩ := he
    rw [Expression.print, List.append_assoc, List.cons_append, List.append_assoc]
    have hi : Reads clearLiteral (.items ')' args) (printItems args ++ ([')'] ++ rest)) rest :=
      reads_items (by decide) (reads_printItems args rest ha (by decide))
    have hc := Reads.call (hn.trimStart_append _) hn hi
    rwa [String.ofList_toList] at hc

theorem reads_printSteps (steps : List (Accessor Expression)) {rest : List Char} (hs : StepsPrintable steps)
    (h : StartsNot continues rest) : Reads clearLiteral (.steps steps) (printSteps steps ++ rest) rest := by
  match steps with
  | [] =>
    rw [printSteps]
    exact .noStep (startsNot_startsStep h)
  | .member name :: steps =>
    rw [StepsPrintable] at hs
    obtain ⟨hn, hs⟩ := hs
    rw [printSteps, List.cons_append, List.append_assoc]
    have hm := Reads.member hn (startsNot_printSteps (by decide) (by decide) (startsNot_isNameChar h) steps)
      (reads_printSteps steps hs h)
    rwa [String.ofList_toList] at hm
  | .index value :: steps =>
    rw [StepsPrintable] at hs
    obtain ⟨hv, hs⟩ := hs
    rw [printSteps, List.cons_append, List.append_assoc, List.cons_append]
    exact .index (reads_print value hv (startsNot_cons.2 (by decide))) (trimStart_cons _ (by decide))
      (reads_printSteps steps hs h)

/-- The items from one on, up to the closing mark. -/
theorem reads_printItems (items : List Expression) {close : Char} (rest : List Char) (hi : ItemsPrintable items)
    (hc : closesItems close = true) (hne : items ≠ []) :
    Reads clearLiteral (.moreItems close items) (printItems items ++ close :: rest) rest := by
  obtain ⟨hend, -, hcomma, hblank⟩ := startsNot_closesItems hc rest
  match items with
  | [] => exact absurd rfl hne
  | [e] =>
    rw [ItemsPrintable] at hi
    rw [printItems]
    exact .lastItem (reads_print e hi.1 hend) (trimStart_cons _ hblank) hcomma
  | e :: e' :: es =>
    rw [ItemsPrintable] at hi
    rw [printItems, List.append_assoc, List.cons_append, List.cons_append]
    · exact .nextItem (reads_print e hi.1 (startsNot_cons.2 (by decide))) (trimStart_cons _ (by decide))
        ((reads_printItems (e' :: es) rest hi.2 hc (by simp)).space trivial)
    · simp

/-- The entries from one on, up to the closing brace. -/
theorem reads_printEntries (entries : List (String × Expression)) (rest : List Char) (he : EntriesPrintable entries)
    (hne : entries ≠ []) :
    Reads clearLiteral (.moreEntries entries) (printEntries entries ++ '\x7d' :: rest) rest := by
  match entries with
  | [] => exact absurd rfl hne
  | [(key, value)] =>
    rw [EntriesPrintable] at he
    rw [printEntries, List.append_assoc, List.cons_append, List.cons_append]
    exact .lastEntry (reads_printEntry key (reads_print value he.1 (startsNot_cons.2 (by decide))))
      (trimStart_cons _ (by decide))
  | (key, value) :: entry :: entries =>
    rw [EntriesPrintable] at he
    rw [printEntries, List.append_assoc, List.cons_append, List.cons_append, List.append_assoc, List.cons_append,
      List.cons_append]
    · exact .nextEntry (reads_printEntry key (reads_print value he.1 (startsNot_cons.2 (by decide))))
        (trimStart_cons _ (by decide)) ((reads_printEntries (entry :: entries) rest he.2 (by simp)).space trivial)
    · simp

end

/-! ## Pipelines -/

/-- The canonical text of filter stages: a bar between spaces, the name, and the arguments in parentheses. -/
def printStages : List (FilterCall Expression) → List Char
  | [] => []
  | stage :: stages =>
    ' ' :: '|' :: ' ' :: (stage.name.toList ++ '(' :: (printItems stage.args ++ ')' :: printStages stages))

/-- The canonical text of a pipeline. -/
def Pipeline.print (p : Pipeline) : List Char :=
  p.initial.print ++ printStages p.stages

/-- A pipeline with a canonical text. -/
def Pipeline.Printable (p : Pipeline) : Prop :=
  p.initial.Printable ∧ ∀ stage ∈ p.stages, IsName stage.name.toList ∧ ItemsPrintable stage.args

theorem startsNot_printStages (stages : List (FilterCall Expression)) : StartsNot continues (printStages stages) := by
  cases stages with
  | nil => exact StartsNot.nil _
  | cons stage stages =>
    rw [printStages]
    exact startsNot_cons.2 (by decide)

theorem reads_printArguments {args : List Expression} (h : ItemsPrintable args) (rest : List Char) :
    Reads clearLiteral (.items ')' args) (printItems args ++ ')' :: rest) rest :=
  reads_items (by decide) (reads_printItems args rest h (by decide))

theorem parseStageArguments_print {c : Cursor} {args : List Expression} {rest : List Char} (h : ItemsPrintable args)
    (hc : c.rest = '(' :: (printItems args ++ ')' :: rest)) :
    ∃ d, parseStageArguments c = .ok (args, d) ∧ d.rest = rest := by
  have hblanks : c.skipBlanks.rest = '(' :: (printItems args ++ ')' :: rest) := by
    rw [Cursor.rest_skipBlanks, hc, trimStart_cons _ (by decide)]
  obtain ⟨d, hd, hr⟩ := (reads_printArguments h rest).parsed (nestingBound c.skipBlanks.rest) (c.skipBlanks.skip 1)
    .endOfArguments (Cursor.rest_skip_one hblanks) (by rw [nestingBound, hblanks, List.length_cons, Phrase.cost]; omega)
  simp only [Phrase.Parsed] at hd
  refine ⟨d, ?_, hr⟩
  have hpeek : c.skipBlanks.peek? = some '(' := by rw [Cursor.peek?, hblanks]; rfl
  simp only [parseStageArguments, hpeek, if_true, hd]

/-- Printed stages are read back, with fuel for each and for the end. -/
theorem parseStages_print {fuel : Nat} {c : Cursor} {stages : List (FilterCall Expression)}
    (h : ∀ stage ∈ stages, IsName stage.name.toList ∧ ItemsPrintable stage.args) (hc : c.rest = printStages stages)
    (hf : stages.length < fuel) : parseStages fuel c = .ok stages := by
  induction stages generalizing fuel c with
  | nil =>
    obtain ⟨fuel, rfl⟩ := Nat.exists_eq_add_one_of_ne_zero (Nat.ne_of_gt hf)
    have hend : c.skipBlanks.rest = [] := by rw [Cursor.rest_skipBlanks, hc]; rfl
    simp only [parseStages, hend]
  | cons stage stages ih =>
    obtain ⟨fuel, rfl⟩ := Nat.exists_eq_add_one_of_ne_zero (Nat.ne_of_gt (Nat.lt_of_le_of_lt (Nat.zero_le _) hf))
    obtain ⟨⟨hn, ha⟩, hs⟩ := List.forall_mem_cons.1 h
    have hbar : c.skipBlanks.rest =
        '|' :: ' ' :: (stage.name.toList ++ '(' :: (printItems stage.args ++ ')' :: printStages stages)) := by
      rw [Cursor.rest_skipBlanks, hc]
      rfl
    have hname : (c.skipBlanks.skip 1).skipBlanks.rest =
        stage.name.toList ++ '(' :: (printItems stage.args ++ ')' :: printStages stages) := by
      rw [Cursor.rest_skipBlanks, Cursor.rest_skip_one hbar]
      exact hn.trimStart_append _
    obtain ⟨d, hd, hdr⟩ := parseName?_of_isName hn hname (startsNot_cons.2 (by decide))
    obtain ⟨e, he, her⟩ := parseStageArguments_print ha hdr
    have hmore := ih hs her (Nat.lt_of_succ_lt_succ hf)
    rw [String.ofList_toList] at hd
    simp only [parseStages, hbar, if_true, hd, he, hmore, bind, Except.bind, pure, Except.pure]

theorem length_le_printStages (stages : List (FilterCall Expression)) :
    stages.length ≤ (printStages stages).length := by
  induction stages with
  | nil => exact Nat.le_refl _
  | cons stage stages ih =>
    simp only [printStages, List.length_cons, List.length_append]
    omega

theorem passes_printStages (k : Nat) {stages : List (FilterCall Expression)}
    (h : ∀ stage ∈ stages, IsName stage.name.toList ∧ ItemsPrintable stage.args) :
    Passes (.outside k) (printStages stages) (.outside k) := by
  induction stages with
  | nil => exact .nil _
  | cons stage stages ih =>
    obtain ⟨⟨hn, ha⟩, hs⟩ := List.forall_mem_cons.1 h
    obtain ⟨w, hw, hp⟩ := (reads_printArguments ha (printStages stages)).passes (show isInert ')' = true by decide) k
    have hbar : Passes (.outside k) [' ', '|', ' '] (.outside k) := passes_of_inert (List.all_eq_true.1 rfl)
    have hparen : Passes (.outside k) ['('] (.outside k) := passes_mark (by decide)
    have hall := (((hbar.append (hn.passes k)).append hparen).append hp).append (ih hs)
    rw [printStages, hw]
    simpa using hall

theorem endsSolid_printStages (stages : List (FilterCall Expression)) : EndsSolid (printStages stages) := by
  induction stages with
  | nil => simp [printStages, EndsSolid]
  | cons stage stages ih =>
    rw [printStages]
    have hclose : EndsSolid ([' ', '|', ' '] ++ stage.name.toList ++ '(' :: printItems stage.args ++ [')']) :=
      EndsSolid.of_append_ne_nil (endsSolid_singleton (by decide)) (by simp)
    simpa using hclose.append ih

/-- A printed pipeline between spaces is read back when it is trimmed. -/
theorem parsePipeline_print {p : Pipeline} (h : p.Printable) :
    parsePipeline (Text.trim (' ' :: (p.print ++ [' ']))) = .ok p := by
  obtain ⟨hi, hs⟩ := h
  have hr : Reads clearLiteral (.expression p.initial) p.print (printStages p.stages) :=
    reads_print p.initial hi (startsNot_printStages p.stages)
  have hsolid : EndsSolid p.print := by
    obtain ⟨w, hw, hsolid, -⟩ := hr.consumes
    rw [hw]
    exact hsolid.append (endsSolid_printStages p.stages)
  have htrim : Text.trim (' ' :: (p.print ++ [' '])) = Text.trimStart p.print := by
    have hblank : Text.trimStart (' ' :: (p.print ++ [' '])) = Text.trimStart (p.print ++ [' ']) := rfl
    rw [Text.trim, hblank, trimStart_append_of_ne_nil hr.trimStart_ne_nil,
      trimEnd_append_blanks hsolid.trimStart (List.all_eq_true.1 rfl)]
  have hlen : (printStages p.stages).length ≤ (Text.trimStart p.print).length := hr.trimStart.length_le
  obtain ⟨d, hd, hdr⟩ := hr.trimStart.parsed (nestingBound (Text.trimStart p.print)) (Cursor.ofList (Text.trimStart p.print))
    .endOfExpression rfl (Nat.add_le_add_left (by decide : 1 ≤ 3) _)
  simp only [Phrase.Parsed] at hd
  have hstages : parseStages ((Text.trimStart p.print).length + 1) d = .ok p.stages :=
    parseStages_print hs hdr (Nat.lt_succ_of_le ((length_le_printStages p.stages).trans hlen))
  rw [htrim]
  simp only [parsePipeline, hd, hstages, bind, Except.bind, pure, Except.pure]

theorem passes_print {p : Pipeline} (h : p.Printable) (k : Nat) : Passes (.outside k) p.print (.outside k) := by
  obtain ⟨hi, hs⟩ := h
  obtain ⟨w, hw, hp⟩ := (reads_print p.initial hi (startsNot_printStages p.stages)).passes trivial k
  rw [Pipeline.print, hw]
  exact Passes.append hp (passes_printStages k hs)

/-- A printed pipeline between double braces is one fragment: the pipeline, with the whole text as its source. -/
theorem parseTemplate_print (p : Pipeline) (h : p.Printable) :
    parseTemplate (spanText (' ' :: (p.print ++ [' ']))) =
      [.var (.ofPipeline (String.ofList (spanText (' ' :: (p.print ++ [' '])))) p)] := by
  refine (parseTemplate_spanText_iff (parsePipeline_print h)).2 ?_
  have hspace : Passes (.outside 0) [' '] (.outside 0) := passes_mark (by decide)
  have hp : Passes (.outside 0) (' ' :: (p.print ++ [' '])) (.outside 0) :=
    hspace.append ((passes_print h 0).append hspace)
  rw [← splitClose?_eq_some_iff, splitClose?, hp]
  simp [splitCloseFrom]

/-- A pipeline whose text holds a quote and closing braces, an object that ends next to the braces of the span, a path and a
stage. -/
theorem parseTemplate_print_object :
    (Pipeline.mk (.object [("it's", .literal (.string "\x7d\x7d"))])
      [{ name := "or", args := [.binding { text := "a.b", head := "a", steps := [.member "b"] }] }]).Printable ∧
    parseTemplate "\x7b\x7b \x7b'it\\'s': '\x7d\x7d'\x7d | or(a.b) \x7d\x7d".toList =
      [.var (.ofPipeline "\x7b\x7b \x7b'it\\'s': '\x7d\x7d'\x7d | or(a.b) \x7d\x7d"
        (Pipeline.mk (.object [("it's", .literal (.string "\x7d\x7d"))])
          [{ name := "or", args := [.binding { text := "a.b", head := "a", steps := [.member "b"] }] }]))] := by
  have h : (Pipeline.mk (.object [("it's", .literal (.string "\x7d\x7d"))])
      [{ name := "or", args := [.binding { text := "a.b", head := "a", steps := [.member "b"] }] }]).Printable := by
    refine ⟨by simp [Expression.Printable, EntriesPrintable], ?_⟩
    simp only [List.mem_singleton, forall_eq, ItemsPrintable, Expression.Printable, StepsPrintable]
    have hname : ∀ c, isNameStart c = true → IsName [c] := fun c hc => ⟨c, [], rfl, hc, by simp⟩
    exact ⟨⟨'o', ['r'], rfl, rfl, List.all_eq_true.1 rfl⟩,
      ⟨hname 'a' rfl, by simp [printSteps], by simp, hname 'b' rfl, trivial⟩, trivial⟩
  have hp := parseTemplate_print _ h
  have htext : spanText (' ' :: (Pipeline.print (Pipeline.mk (.object [("it's", .literal (.string "\x7d\x7d"))])
      [{ name := "or", args := [.binding { text := "a.b", head := "a", steps := [.member "b"] }] }]) ++ [' '])) =
      "\x7b\x7b \x7b'it\\'s': '\x7d\x7d'\x7d | or(a.b) \x7d\x7d".toList := by
    rfl
  rw [htext, String.ofList_toList] at hp
  exact ⟨h, hp⟩

end PageTemplates
