import PageTemplates.Proofs.Syntax.Lexemes

/-!
# The grammar as a relation

`Reads` says that a phrase of the grammar stands at the start of a text and what of the text is left after it. It has a rule
for every way in which the parser can go on, and no fuel. A rule on string literals is a parameter, so that the same relation
describes all texts of the parser and the texts whose literals meet a condition. Main statement: what a phrase takes up does
not end in a blank, and the phrase reads the same when the text after it is cut (`Reads.consumes`).
-/

namespace PageTemplates

/-- What the parser reads, one kind for each of its functions. The items of an array or a call know their closing mark. -/
inductive Phrase where
  | expression (e : Expression)
  | steps (steps : List (Accessor Expression))
  | items (close : Char) (items : List Expression)
  | moreItems (close : Char) (items : List Expression)
  | entries (entries : List (String × Expression))
  | moreEntries (entries : List (String × Expression))
  | entry (key : String) (value : Expression)

/-- A character that starts a step of a path. -/
def startsStep (c : Char) : Bool :=
  c == '.' || c == '['

/-- A phrase stands at the start of the first text, and the second text is what is left after it. -/
inductive Reads (rule : LiteralRule) : Phrase → List Char → List Char → Prop where
  | string {cs w text ds} (start : Text.trimStart cs = w ++ ds) (literal : SpellsString rule w text) :
      Reads rule (.expression (.literal (.string (String.ofList text)))) cs ds
  | number {cs w ds l} (start : Text.trimStart cs = w ++ ds) (number : SpellsNumber w ds l) :
      Reads rule (.expression (.literal l)) cs ds
  | array {cs cs' ds es} (start : Text.trimStart cs = '[' :: cs') (items : Reads rule (.items ']' es) cs' ds) :
      Reads rule (.expression (.array es)) cs ds
  | object {cs cs' ds es} (start : Text.trimStart cs = '\x7b' :: cs') (entries : Reads rule (.entries es) cs' ds) :
      Reads rule (.expression (.object es)) cs ds
  | call {cs w cs' ds args} (start : Text.trimStart cs = w ++ '(' :: cs') (name : IsName w)
      (items : Reads rule (.items ')' args) cs' ds) :
      Reads rule (.expression (.call { name := String.ofList w, args })) cs ds
  | reserved {cs w ds l} (start : Text.trimStart cs = w ++ ds) (name : IsName w)
      (word : reserved? (String.ofList w) = some l) (ends : StartsNot isNameChar ds)
      (bare : StartsNot (fun c => c == '(' || startsStep c) ds) :
      Reads rule (.expression (.literal l)) cs ds
  | path {cs w u ds steps} (start : Text.trimStart cs = w ++ (u ++ ds)) (name : IsName w)
      (ends : StartsNot isNameChar (u ++ ds)) (plain : StartsNot (· == '(') (u ++ ds))
      (free : steps = [] → reserved? (String.ofList w) = none) (rest : Reads rule (.steps steps) (u ++ ds) ds) :
      Reads rule (.expression (.binding { text := String.ofList (w ++ u), head := String.ofList w, steps })) cs ds
  | noStep {cs} (ends : StartsNot startsStep cs) : Reads rule (.steps []) cs cs
  | member {w cs ds steps} (name : IsName w) (ends : StartsNot isNameChar cs) (rest : Reads rule (.steps steps) cs ds) :
      Reads rule (.steps (.member (String.ofList w) :: steps)) ('.' :: (w ++ cs)) ds
  | index {cs ds ds' es e steps} (value : Reads rule (.expression e) cs ds) (close : Text.trimStart ds = ']' :: ds')
      (rest : Reads rule (.steps steps) ds' es) :
      Reads rule (.steps (.index e :: steps)) ('[' :: cs) es
  | noItem {close cs ds} (stop : Text.trimStart cs = close :: ds) :
      Reads rule (.items close []) cs ds
  | someItems {close cs ds es} (start : StartsNot (· == close) (Text.trimStart cs))
      (items : Reads rule (.moreItems close es) cs ds) :
      Reads rule (.items close es) cs ds
  | lastItem {close cs ds ds' e} (item : Reads rule (.expression e) cs ds) (stop : Text.trimStart ds = close :: ds')
      (mark : close ≠ ',') :
      Reads rule (.moreItems close [e]) cs ds'
  | nextItem {close cs ds ds' fs e es} (item : Reads rule (.expression e) cs ds) (comma : Text.trimStart ds = ',' :: ds')
      (items : Reads rule (.moreItems close es) ds' fs) :
      Reads rule (.moreItems close (e :: es)) cs fs
  | noEntry {cs ds} (stop : Text.trimStart cs = '\x7d' :: ds) : Reads rule (.entries []) cs ds
  | someEntries {cs ds es} (start : StartsNot (· == '\x7d') (Text.trimStart cs))
      (entries : Reads rule (.moreEntries es) cs ds) :
      Reads rule (.entries es) cs ds
  | lastEntry {cs ds ds' key value} (entry : Reads rule (.entry key value) cs ds) (stop : Text.trimStart ds = '\x7d' :: ds') :
      Reads rule (.moreEntries [(key, value)]) cs ds'
  | nextEntry {cs ds ds' fs key value es} (entry : Reads rule (.entry key value) cs ds)
      (comma : Text.trimStart ds = ',' :: ds') (entries : Reads rule (.moreEntries es) ds' fs) :
      Reads rule (.moreEntries ((key, value) :: es)) cs fs
  | named {cs w ds ds' es value} (start : Text.trimStart cs = w ++ ds) (name : IsName w) (ends : StartsNot isNameChar ds)
      (colon : Text.trimStart ds = ':' :: ds') (rest : Reads rule (.expression value) ds' es) :
      Reads rule (.entry (String.ofList w) value) cs es
  | short {cs w ds} (start : Text.trimStart cs = w ++ ds) (name : IsName w) (ends : StartsNot isNameChar ds)
      (bare : StartsNot (· == ':') (Text.trimStart ds)) :
      Reads rule (.entry (String.ofList w) (.binding (.ofName (String.ofList w)))) cs ds
  | quoted {cs w text ds ds' es value} (start : Text.trimStart cs = w ++ ds) (literal : SpellsString rule w text)
      (colon : Text.trimStart ds = ':' :: ds') (rest : Reads rule (.expression value) ds' es) :
      Reads rule (.entry (String.ofList text) value) cs es

/-! ## Texts that do not end in a blank -/

/-- The text is empty or does not end in a blank. -/
def EndsSolid (w : List Char) : Prop :=
  ∀ c ∈ w.getLast?, Text.isBlank c = false

theorem EndsSolid.append {v w : List Char} (hv : EndsSolid v) (hw : EndsSolid w) : EndsSolid (v ++ w) := by
  intro c hc
  rw [List.getLast?_append] at hc
  cases h : w.getLast? with
  | none =>
    rw [h, Option.none_or] at hc
    exact hv c hc
  | some x =>
    rw [h, Option.some_or, Option.mem_some_iff] at hc
    exact hw c (by rw [h, hc]; rfl)

theorem EndsSolid.of_append_ne_nil {b w : List Char} (hw : EndsSolid w) (hn : w ≠ []) : EndsSolid (b ++ w) := by
  intro c hc
  rw [List.getLast?_append, List.getLast?_eq_some_getLast hn, Option.some_or, Option.mem_some_iff] at hc
  exact hw c (by rw [List.getLast?_eq_some_getLast hn, hc]; rfl)

theorem endsSolid_of_forall {w : List Char} (h : ∀ c ∈ w, Text.isBlank c = false) : EndsSolid w :=
  fun c hc => h c (List.mem_of_getLast? hc)

theorem endsSolid_singleton {c : Char} (h : Text.isBlank c = false) : EndsSolid [c] :=
  endsSolid_of_forall (by simpa using h)

/-- Letters, digits, underscores and dollar signs are no blanks. -/
theorem isBlank_of_isNameChar {c : Char} (h : isNameChar c = true) : Text.isBlank c = false := by
  have hn : (65 ≤ c.toNat ∧ c.toNat ≤ 90) ∨ (97 ≤ c.toNat ∧ c.toNat ≤ 122) ∨ (48 ≤ c.toNat ∧ c.toNat ≤ 57) ∨
      c.toNat = 95 ∨ c.toNat = 36 := by
    simp only [isNameChar, Char.isAlphanum, Char.isDigit, Bool.or_eq_true, isAlpha_iff, Bool.and_eq_true, decide_eq_true_eq,
      beq_iff_eq, UInt32.le_iff_toNat_le, ge_iff_le] at h
    rcases h with ((((h | h) | h) | rfl) | rfl)
    · exact Or.inl h
    · exact Or.inr (Or.inl h)
    · exact Or.inr (Or.inr (Or.inl h))
    · exact Or.inr (Or.inr (Or.inr (Or.inl rfl)))
    · exact Or.inr (Or.inr (Or.inr (Or.inr rfl)))
  simp only [Text.isBlank, Bool.or_eq_false_iff, Bool.and_eq_false_iff, decide_eq_false_iff_not, beq_eq_false_iff_ne]
  omega

theorem isBlank_of_isNumberChar {c : Char} (h : isNumberChar c = true) : Text.isBlank c = false := by
  simp only [isNumberChar, Bool.or_eq_true, beq_iff_eq] at h
  rcases h with ((h | rfl) | rfl) | rfl
  · exact isBlank_of_isNameChar h
  all_goals decide

theorem IsName.endsSolid {w : List Char} (h : IsName w) : EndsSolid w :=
  endsSolid_of_forall fun c hc => isBlank_of_isNameChar (h.isNameChar c hc)

theorem isBlank_of_isQuote {c : Char} (h : isQuote c = true) : Text.isBlank c = false := by
  simp only [isQuote, Bool.or_eq_true, beq_iff_eq] at h
  rcases h with (rfl | rfl) | rfl <;> decide

theorem SpellsString.ne_nil {rule : LiteralRule} {w text : List Char} (h : SpellsString rule w text) : w ≠ [] := by
  obtain ⟨quote, body, rfl, -⟩ := h
  simp

theorem SpellsString.endsSolid {rule : LiteralRule} {w text : List Char} (h : SpellsString rule w text) : EndsSolid w := by
  obtain ⟨quote, body, rfl, hq, hr, -⟩ := h
  have hl := StringLiteral.getLast?_of_read? (by simpa using hr [])
  intro c hc
  rw [List.getLast?_cons, hl, Option.getD_some, Option.mem_some_iff] at hc
  exact hc ▸ isBlank_of_isQuote hq

theorem SpellsNumber.ne_nil {w after : List Char} {l : Literal} (h : SpellsNumber w after l) : w ≠ [] := by
  obtain ⟨sign, body, isFloat, -, hstart, -⟩ := h
  rintro rfl
  simp [startsNumber] at hstart

theorem SpellsNumber.endsSolid {w after : List Char} {l : Literal} (h : SpellsNumber w after l) : EndsSolid w :=
  endsSolid_of_forall fun c hc => isBlank_of_isNumberChar (h.chars c hc)

/-! ## What a phrase takes up -/

/-- Between a text and what is left of it there is a text that does not end in a blank, and the relation holds as well when the
text after that one is cut. -/
def Consumes (P : List Char → List Char → Prop) (cs ds : List Char) : Prop :=
  ∃ w, cs = w ++ ds ∧ EndsSolid w ∧ ∀ u v, ds = u ++ v → P (w ++ u) u

section

variable {P Q : List Char → List Char → Prop} {R : List Char → Prop} {p : Char → Bool} {cs ds es x : List Char} {c : Char}

theorem Consumes.mono (h : Consumes P cs ds) (hPQ : ∀ {a b}, P a b → Q a b) : Consumes Q cs ds := by
  obtain ⟨w, hw, hs, hp⟩ := h
  exact ⟨w, hw, hs, fun u v hu => hPQ (hp u v hu)⟩

/-- One after the other. -/
theorem Consumes.trans (h : Consumes P cs ds) (h' : Consumes Q ds es) :
    Consumes (fun a c => ∃ b, P a b ∧ Q b c) cs es := by
  obtain ⟨w, rfl, hs, hp⟩ := h
  obtain ⟨w', rfl, hs', hq⟩ := h'
  refine ⟨w ++ w', (List.append_assoc ..).symm, hs.append hs', fun u v hu => ⟨w' ++ u, ?_, hq u v hu⟩⟩
  rw [List.append_assoc]
  exact hp (w' ++ u) v (by rw [hu, List.append_assoc])

/-- With a condition on the text that holds when the text is cut. -/
theorem Consumes.before (h : Consumes P cs ds) (hR : ∀ u v, cs = u ++ v → R u) :
    Consumes (fun a b => R a ∧ P a b) cs ds := by
  obtain ⟨w, rfl, hs, hp⟩ := h
  exact ⟨w, rfl, hs, fun u v hu => ⟨hR (w ++ u) v (by rw [hu, List.append_assoc]), hp u v hu⟩⟩

/-- With a condition on what is left that holds when that is cut. -/
theorem Consumes.after (h : Consumes P cs ds) (hR : ∀ u v, ds = u ++ v → R u) :
    Consumes (fun a b => P a b ∧ R b) cs ds := by
  obtain ⟨w, hw, hs, hp⟩ := h
  exact ⟨w, hw, hs, fun u v hu => ⟨hp u v hu, hR u v hu⟩⟩

theorem Consumes.startsNot (h : Consumes P cs ds) (hp : StartsNot p ds) : Consumes (fun a b => P a b ∧ StartsNot p b) cs ds :=
  h.after fun _ _ hu => (hu ▸ hp).cut

theorem consumes_append (hs : EndsSolid x) (ds : List Char) : Consumes (fun a b => a = x ++ b) (x ++ ds) ds :=
  ⟨x, rfl, hs, fun _ _ _ => rfl⟩

/-- What stands in a text after its leading blanks stands there whatever follows. -/
theorem consumes_of_trimStart (h : Text.trimStart cs = x ++ ds) (hx : x ≠ []) (hs : EndsSolid x) :
    Consumes (fun a b => Text.trimStart a = x ++ b) cs ds := by
  obtain ⟨b, hb, hcs⟩ := exists_blanks cs
  have hstart : ∀ z, StartsNot Text.isBlank (x ++ z) := by
    intro z
    have := startsNot_trimStart cs
    obtain ⟨c, x', rfl⟩ := List.exists_cons_of_ne_nil hx
    rw [h] at this
    exact this
  refine ⟨b ++ x, ?_, hs.of_append_ne_nil hx, fun u _ _ => ?_⟩
  · rw [List.append_assoc, ← h, ← hcs]
  · show Text.trimStart (b ++ x ++ u) = x ++ u
    rw [List.append_assoc, trimStart_blanks_append hb, trimStart_of_startsNot (hstart u)]

/-- The same for a single mark. -/
theorem consumes_mark (h : Text.trimStart cs = c :: ds) : Consumes (fun a b => Text.trimStart a = c :: b) cs ds := by
  have hc : Text.isBlank c = false := startsNot_trimStart cs c (by simp [h])
  exact consumes_of_trimStart (x := [c]) h (by simp) (endsSolid_singleton hc)

theorem IsName.consumes (hn : IsName x) (h : Text.trimStart cs = x ++ ds) :
    Consumes (fun a b => Text.trimStart a = x ++ b) cs ds :=
  consumes_of_trimStart h hn.ne_nil hn.endsSolid

end

/-- A phrase takes up a text that does not end in a blank, and reads the same when the text after it is cut. -/
theorem Reads.consumes {rule : LiteralRule} {φ : Phrase} {cs ds : List Char} (h : Reads rule φ cs ds) :
    Consumes (Reads rule φ) cs ds := by
  induction h with
  | string start literal =>
    exact (consumes_of_trimStart start literal.ne_nil literal.endsSolid).mono fun hs => .string hs literal
  | number start number =>
    have hw := consumes_of_trimStart start number.ne_nil number.endsSolid
    exact (hw.after fun u v hu => (hu ▸ number).cut).mono fun ⟨hs, hn⟩ => .number hs hn
  | array start items ih => exact ((consumes_mark start).trans ih).mono fun ⟨_, hs, hi⟩ => .array hs hi
  | object start entries ih => exact ((consumes_mark start).trans ih).mono fun ⟨_, hs, he⟩ => .object hs he
  | @call cs name cs' ds args start hn items ih =>
    have hw := consumes_of_trimStart (x := name ++ ['(']) (by simpa using start) (by simp)
      (hn.endsSolid.append (endsSolid_singleton (by decide)))
    exact (hw.trans ih).mono fun ⟨_, hs, hi⟩ => .call (by simpa using hs) hn hi
  | reserved start hn word ends bare =>
    exact (((hn.consumes start).startsNot ends).startsNot bare).mono fun ⟨⟨hs, he⟩, hb⟩ => .reserved hs hn word he hb
  | @path cs name t ds steps start hn ends plain free rest ih =>
    -- The text of the path is a part of the expression, so the steps have to take up the same text again.
    obtain ⟨w, hw, hs, hz⟩ := ((hn.consumes start).startsNot ends).startsNot plain
    obtain ⟨t', ht, hs', hr⟩ := ih
    obtain rfl : t = t' := List.append_cancel_right ht
    refine ⟨w ++ t, by rw [hw, List.append_assoc], hs.append hs', fun u v hu => ?_⟩
    obtain ⟨⟨hstart, hends⟩, hplain⟩ := hz (t ++ u) v (by rw [hu, List.append_assoc])
    rw [List.append_assoc]
    exact .path hstart hn hends hplain free (hr u v hu)
  | noStep ends => exact ⟨[], rfl, by simp [EndsSolid], fun u v hu => .noStep (hu ▸ ends).cut⟩
  | @member name cs ds steps hn ends rest ih =>
    have hname := consumes_append (hn.endsSolid.of_append_ne_nil (b := ['.']) hn.ne_nil) cs
    refine ((hname.startsNot ends).trans ih).mono ?_
    rintro a b ⟨_, ⟨rfl, he⟩, hr⟩
    exact .member hn he hr
  | @index cs ds ds' es e steps value close rest ih ih' =>
    have hopen := consumes_append (endsSolid_singleton (c := '[') (by decide)) cs
    refine (((hopen.trans ih).trans (consumes_mark close)).trans ih').mono ?_
    rintro a b ⟨_, ⟨_, ⟨_, rfl, hv⟩, hc⟩, hr⟩
    exact .index hv hc hr
  | noItem stop => exact (consumes_mark stop).mono .noItem
  | someItems start items ih =>
    exact (ih.before fun u v hu => (hu ▸ start).cut_trimStart).mono fun ⟨hs, hi⟩ => .someItems hs hi
  | lastItem item stop mark ih =>
    exact (ih.trans (consumes_mark stop)).mono fun ⟨_, hi, hs⟩ => .lastItem hi hs mark
  | nextItem item comma items ih ih' =>
    exact ((ih.trans (consumes_mark comma)).trans ih').mono fun ⟨_, ⟨_, hi, hc⟩, hr⟩ => .nextItem hi hc hr
  | noEntry stop => exact (consumes_mark stop).mono .noEntry
  | someEntries start entries ih =>
    exact (ih.before fun u v hu => (hu ▸ start).cut_trimStart).mono fun ⟨hs, he⟩ => .someEntries hs he
  | lastEntry entry stop ih => exact (ih.trans (consumes_mark stop)).mono fun ⟨_, he, hs⟩ => .lastEntry he hs
  | nextEntry entry comma entries ih ih' =>
    exact ((ih.trans (consumes_mark comma)).trans ih').mono fun ⟨_, ⟨_, he, hc⟩, hr⟩ => .nextEntry he hc hr
  | named start hn ends colon rest ih =>
    have hkey := (hn.consumes start).startsNot ends
    exact ((hkey.trans (consumes_mark colon)).trans ih).mono fun ⟨_, ⟨_, ⟨hs, he⟩, hc⟩, hr⟩ => .named hs hn he hc hr
  | short start hn ends bare =>
    have hkey := (hn.consumes start).startsNot ends
    exact (hkey.after fun u v hu => (hu ▸ bare).cut_trimStart).mono fun ⟨⟨hs, he⟩, hb⟩ => .short hs hn he hb
  | quoted start literal colon rest ih =>
    have hkey := consumes_of_trimStart start literal.ne_nil literal.endsSolid
    exact ((hkey.trans (consumes_mark colon)).trans ih).mono fun ⟨_, ⟨_, hs, hc⟩, hr⟩ => .quoted hs literal hc hr

/-- Blanks may stand before every phrase but the steps of a path. -/
def Phrase.skipsBlanks : Phrase → Prop
  | .steps _ => False
  | _ => True

/-- Blanks before a phrase that skips them do not matter. -/
theorem Reads.of_trimStart_eq {rule : LiteralRule} {φ : Phrase} {cs cs' ds : List Char} (h : Reads rule φ cs ds)
    (hφ : φ.skipsBlanks) (heq : Text.trimStart cs' = Text.trimStart cs) : Reads rule φ cs' ds := by
  induction h with
  | string start literal => exact .string (heq.trans start) literal
  | number start number => exact .number (heq.trans start) number
  | array start items => exact .array (heq.trans start) items
  | object start entries => exact .object (heq.trans start) entries
  | call start name items => exact .call (heq.trans start) name items
  | reserved start name word ends bare => exact .reserved (heq.trans start) name word ends bare
  | path start name ends plain free rest => exact .path (heq.trans start) name ends plain free rest
  | noStep => exact absurd hφ (by simp [Phrase.skipsBlanks])
  | member => exact absurd hφ (by simp [Phrase.skipsBlanks])
  | index => exact absurd hφ (by simp [Phrase.skipsBlanks])
  | noItem stop => exact .noItem (heq.trans stop)
  | someItems start items ih => exact .someItems (heq ▸ start) (ih trivial heq)
  | lastItem item stop mark ih => exact .lastItem (ih trivial heq) stop mark
  | nextItem item comma items ih => exact .nextItem (ih trivial heq) comma items
  | noEntry stop => exact .noEntry (heq.trans stop)
  | someEntries start entries ih => exact .someEntries (heq ▸ start) (ih trivial heq)
  | lastEntry entry stop ih => exact .lastEntry (ih trivial heq) stop
  | nextEntry entry comma entries ih => exact .nextEntry (ih trivial heq) comma entries
  | named start name ends colon rest => exact .named (heq.trans start) name ends colon rest
  | short start name ends bare => exact .short (heq.trans start) name ends bare
  | quoted start literal colon rest => exact .quoted (heq.trans start) literal colon rest

theorem Reads.trimStart {rule : LiteralRule} {e : Expression} {cs ds : List Char} (h : Reads rule (.expression e) cs ds) :
    Reads rule (.expression e) (Text.trimStart cs) ds :=
  h.of_trimStart_eq trivial (trimStart_trimStart cs)

/-- A space may stand before a phrase that skips blanks. -/
theorem Reads.space {rule : LiteralRule} {φ : Phrase} {cs ds : List Char} (h : Reads rule φ cs ds) (hφ : φ.skipsBlanks) :
    Reads rule φ (' ' :: cs) ds :=
  h.of_trimStart_eq hφ rfl

/-- A path without steps takes up nothing, before a character that starts no step. -/
theorem reads_steps_nil {rule : LiteralRule} {cs ds : List Char} :
    Reads rule (.steps []) cs ds ↔ cs = ds ∧ StartsNot startsStep cs := by
  constructor
  · intro h
    cases h with
    | noStep ends => exact ⟨rfl, ends⟩
  · rintro ⟨rfl, ends⟩
    exact .noStep ends

/-- Steps start with the mark of the first one. -/
theorem Reads.head?_of_steps {rule : LiteralRule} {ss : List (Accessor Expression)} {cs ds : List Char}
    (h : Reads rule (.steps ss) cs ds) (hs : ss ≠ []) : cs.head? = some '.' ∨ cs.head? = some '[' := by
  cases h with
  | noStep => exact absurd rfl hs
  | member => exact Or.inl rfl
  | index => exact Or.inr rfl

/-- An expression takes up more than blanks. -/
theorem Reads.trimStart_ne_nil {rule : LiteralRule} {e : Expression} {cs ds : List Char}
    (h : Reads rule (.expression e) cs ds) : Text.trimStart cs ≠ [] := by
  cases h with
  | string start literal => exact start ▸ List.append_ne_nil_of_left_ne_nil literal.ne_nil _
  | number start number => exact start ▸ List.append_ne_nil_of_left_ne_nil number.ne_nil _
  | array start => simp [start]
  | object start => simp [start]
  | call start => simp [start]
  | reserved start name => exact start ▸ List.append_ne_nil_of_left_ne_nil name.ne_nil _
  | path start name => exact start ▸ List.append_ne_nil_of_left_ne_nil name.ne_nil _

/-- The characters that an expression can start with. -/
def startsExpression (c : Char) : Bool :=
  isQuote c || c.isDigit || c == '-' || c == '.' || c == '[' || c == '\x7b' || isNameStart c

theorem IsName.startsExpression {w : List Char} (h : IsName w) (ds : List Char) :
    ∀ c ∈ (w ++ ds).head?, startsExpression c = true := by
  obtain ⟨x, xs, rfl, hx, -⟩ := h
  simp [PageTemplates.startsExpression, hx]

theorem Reads.startsExpression {rule : LiteralRule} {e : Expression} {cs ds : List Char}
    (h : Reads rule (.expression e) cs ds) : ∀ c ∈ (Text.trimStart cs).head?, startsExpression c = true := by
  cases h with
  | string start literal =>
    obtain ⟨quote, body, rfl, hq, -⟩ := literal
    simp [start, PageTemplates.startsExpression, hq]
  | @number _ w _ _ start number =>
    obtain ⟨-, -, -, -, hs, -⟩ := number
    cases w with
    | nil => simp [startsNumber] at hs
    | cons x xs =>
      simp only [startsNumber, Bool.or_eq_true, Bool.and_eq_true, decide_eq_true_eq] at hs
      rw [start]
      intro c hc
      obtain rfl : x = c := by simpa using hc
      rcases hs with hd | ⟨rfl | rfl, -⟩
      · simp [PageTemplates.startsExpression, hd]
      · rfl
      · rfl
  | array start => simp [start, PageTemplates.startsExpression]
  | object start => simp [start, PageTemplates.startsExpression]
  | call start name => exact start ▸ name.startsExpression _
  | reserved start name => exact start ▸ name.startsExpression _
  | path start name => exact start ▸ name.startsExpression _

theorem Reads.startsExpression_of_moreItems {rule : LiteralRule} {close : Char} {es : List Expression} {cs ds : List Char}
    (h : Reads rule (.moreItems close es) cs ds) :
    ∀ c ∈ (Text.trimStart cs).head?, PageTemplates.startsExpression c = true := by
  cases h with
  | lastItem item => exact item.startsExpression
  | nextItem item => exact item.startsExpression

end PageTemplates
