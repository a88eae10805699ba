import Mathlib.Algebra.Order.BigOperators.Group.List
import Mathlib.Data.List.Basic
import Mathlib.Data.Nat.Digits.Defs
import PageTemplates.Proofs.Syntax.Parsing

/-!
# Escapes of string literals

What may stand between the quotes of a literal, item by item, and what each item means. A code is `\u` and four characters; it
is meant to name a character if the four are hexadecimal digits of a scalar value, and to stand for itself otherwise. Main
statement: a literal is read as its items are meant, unless one of its codes is a plus sign and three digits, which the reader
takes for a number with its sign (`parseExpression_literalOf_iff`).
-/

namespace PageTemplates.StringLiteral

/-! ## Items -/

/-- The value of a hexadecimal digit: its place among the sixteen small or capital ones. -/
def digitValue? (c : Char) : Option Nat :=
  ("0123456789abcdef".toList.idxOf? c).or ("0123456789ABCDEF".toList.idxOf? c)

/-- The character that a code names: the one with the number that its digits write, if all are hexadecimal digits and the number
is a scalar value. -/
def named? (ds : List Char) : Option Char :=
  (ds.mapM digitValue?).bind fun values =>
    let number := Nat.ofDigits 16 values.reverse
    if number.isValidChar then some (Char.ofNat number) else none

/-- What stands between the quotes of a literal: a character, a backslash and a character, or `\u` and four characters. -/
inductive Item where
  | plain (c : Char)
  | escaped (c : Char)
  | code (a b c d : Char)
  deriving DecidableEq

namespace Item

/-- The text of an item. -/
def source : Item → List Char
  | plain c => [c]
  | escaped c => ['\\', c]
  | code a b c d => ['\\', 'u', a, b, c, d]

/-- An item can stand in a literal with the quote: a plain character is no quote and no backslash, and after a backslash `u`
starts a code. -/
def Fits (quote : Char) : Item → Prop
  | plain c => c ≠ quote ∧ c ≠ '\\'
  | escaped c => c ≠ 'u'
  | code _ _ _ _ => True

/-- What an item is meant to stand for. -/
def meaning : Item → List Char
  | plain c => [c]
  | escaped 'n' => ['\n']
  | escaped 't' => ['\t']
  | escaped 'r' => ['\r']
  | escaped '0' => ['\x00']
  | escaped c => [c]
  | code a b c d => (named? [a, b, c, d]).elim ['\\', 'u', a, b, c, d] fun x => [x]

/-- What an item is read as: after a plus sign, a code names what the other three characters name. -/
def reading : Item → List Char
  | code '+' b c d => (named? [b, c, d]).elim ['\\', 'u', '+', b, c, d] fun x => [x]
  | i => i.meaning

/-- A code that is a plus sign and three hexadecimal digits. -/
def Signed (i : Item) : Prop :=
  ∃ b c d, i = code '+' b c d ∧ ∀ x ∈ [b, c, d], (digitValue? x).isSome = true

end Item

/-- A literal of items. -/
def literalOf (quote : Char) (items : List Item) : List Char :=
  quote :: (items.flatMap Item.source ++ [quote])

/-! ## Hexadecimal numbers -/

/-- The reader knows the hexadecimal digits and their values. -/
theorem hexDigit?_eq (c : Char) : hexDigit? c = digitValue? c := by
  by_cases hc : c.toNat < 128
  · have hascii : ∀ n < 128, hexDigit? (Char.ofNat n) = digitValue? (Char.ofNat n) := by decide +kernel
    rw [← Char.ofNat_toNat c]
    exact hascii c.toNat hc
  · -- Beyond ASCII there is no digit on either side.
    have hdigit : hexDigit? c = none := by
      have hle : ∀ x : Char, x.toNat < 128 → ¬c ≤ x := fun x hx hle => hc (Nat.lt_of_le_of_lt hle hx)
      have h9 : c.isDigit = false := by
        rw [Char.isDigit, Bool.and_eq_false_iff, decide_eq_false_iff_not, decide_eq_false_iff_not]
        exact Or.inr (hle '9' (by decide))
      rw [hexDigit?, h9, if_neg Bool.false_ne_true, if_neg fun h => hle 'f' (by decide) h.2,
        if_neg fun h => hle 'F' (by decide) h.2]
    have hnone : ∀ ds : List Char, ds.all (·.toNat < 128) = true → ds.idxOf? c = none := by
      intro ds hds
      rw [List.idxOf?_eq_none_iff]
      exact fun hmem => hc (of_decide_eq_true (List.all_eq_true.1 hds c hmem))
    rw [hdigit, digitValue?, hnone _ (by decide), hnone _ (by decide)]
    rfl

/-- Digits read one after the other write the number that they are the digits of. -/
theorem hexDigits?_eq (ds : List Char) :
    hexDigits? ds = (ds.mapM digitValue?).map fun values => Nat.ofDigits 16 values.reverse := by
  -- The number read so far counts as one more digit before the others.
  have hfrom : ∀ n : Nat, ds.foldlM (fun n c => (hexDigit? c).map (16 * n + ·)) n =
      (ds.mapM digitValue?).map fun values => Nat.ofDigits 16 (n :: values).reverse := by
    induction ds with
    | nil => intro n; simp
    | cons c ds ih =>
      intro n
      rw [List.foldlM_cons, List.mapM_cons, hexDigit?_eq]
      cases digitValue? c with
      | none => rfl
      | some v =>
        have hshift : ∀ vs : List Nat,
            Nat.ofDigits 16 ((16 * n + v) :: vs).reverse = Nat.ofDigits 16 (n :: v :: vs).reverse := by
          intro vs
          simp only [Nat.ofDigits_reverse_cons, List.length_cons, pow_succ]
          ring
        simp only [Option.map_some, Option.bind_eq_bind, Option.bind_some, Option.pure_def, ih, hshift]
        cases ds.mapM digitValue? with
        | none => rfl
        | some vs => rfl
  rw [hexDigits?, hfrom]
  simp only [Nat.ofDigits_reverse_zero_cons]

theorem bind_scalar?_hexDigits? (ds : List Char) : (hexDigits? ds).bind scalar? = named? ds := by
  rw [hexDigits?_eq, named?]
  cases ds.mapM digitValue? with
  | none => rfl
  | some values => rfl

theorem codeText_eq (a b c d : Char) : codeText [a, b, c, d] = (Item.code a b c d).reading := by
  by_cases ha : a = '+'
  · subst ha
    rw [codeText, hexNumber?, bind_scalar?_hexDigits?, Item.reading]
    · cases named? [b, c, d] with
      | none => rfl
      | some x => rfl
    · simp
  · have hnumber : hexNumber? [a, b, c, d] = hexDigits? [a, b, c, d] := by
      rw [hexNumber?]
      · simp
      · simp
      · simpa using ha
    rw [codeText, hnumber, bind_scalar?_hexDigits?, Item.reading]
    · rw [Item.meaning]
      cases named? [a, b, c, d] with
      | none => rfl
      | some x => rfl
    · exact fun _ _ _ h => ha (Item.code.inj h).1

/-! ## Reading items -/

theorem Item.meaning_escaped (c : Char) : (Item.escaped c).meaning = [unescape c] := by
  unfold unescape
  split_ifs with hn ht hr hz
  · rw [hn, Item.meaning]
  · rw [ht, Item.meaning]
  · rw [hr, Item.meaning]
  · rw [hz, Item.meaning]
  · rw [Item.meaning] <;> assumption

section

variable {quote : Char}

/-- The reader takes up one item and goes on after it. -/
theorem read?_item (hquote : quote ≠ '\\') {i : Item} (hi : i.Fits quote) (rest : List Char) :
    read? quote .plain (i.source ++ rest) =
      (read? quote .plain rest).map fun (text, after) => (i.reading ++ text, after) := by
  cases i with
  | plain c =>
    obtain ⟨hq, hb⟩ := hi
    simp [Item.source, Item.reading, Item.meaning, read?, hq, hb]
  | escaped c =>
    have hu : c ≠ 'u' := hi
    have hreading : (Item.escaped c).reading = [unescape c] := Item.meaning_escaped c
    rw [hreading]
    simp [Item.source, read?, hquote.symm, hu]
  | code a b c d =>
    rw [← codeText_eq]
    simp [Item.source, read?, hquote.symm]

/-- The reader takes up all items and stops after the closing quote. -/
theorem read?_items (hquote : quote ≠ '\\') {items : List Item} (hitems : ∀ i ∈ items, i.Fits quote) (after : List Char) :
    read? quote .plain (items.flatMap Item.source ++ quote :: after) = some (items.flatMap Item.reading, after) := by
  induction items with
  | nil => simp [read?]
  | cons i items ih =>
    rw [List.forall_mem_cons] at hitems
    rw [List.flatMap_cons, List.append_assoc, read?_item hquote hitems.1, ih hitems.2]
    rfl

theorem spellsString_literalOf (hq : isQuote quote = true) {items : List Item} (hitems : ∀ i ∈ items, i.Fits quote) :
    SpellsString anyLiteral (literalOf quote items) (items.flatMap Item.reading) := by
  have hquote : quote ≠ '\\' := by
    rintro rfl
    simp [isQuote] at hq
  refine ⟨quote, items.flatMap Item.source ++ [quote], rfl, hq, fun after => ?_, trivial⟩
  rw [List.append_assoc, List.singleton_append]
  exact read?_items hquote hitems after

end

/-! ## Plus signs -/

theorem digitValue?_lt {c : Char} {v : Nat} (h : digitValue? c = some v) : v < 16 := by
  rw [digitValue?, Option.or_eq_some_iff] at h
  rcases h with hsmall | ⟨-, hcapital⟩
  · obtain ⟨hlt, -⟩ := List.findIdx?_eq_some_iff_getElem.1 hsmall
    exact hlt
  · obtain ⟨hlt, -⟩ := List.findIdx?_eq_some_iff_getElem.1 hcapital
    exact hlt

/-- Three characters name a character if they are digits: their number is below those of the surrogates. -/
theorem named?_isSome_iff (b c d : Char) :
    (named? [b, c, d]).isSome = true ↔ ∀ x ∈ [b, c, d], (digitValue? x).isSome = true := by
  cases hb : digitValue? b with
  | none => simp [named?, hb]
  | some vb =>
    cases hc : digitValue? c with
    | none => simp [named?, hb, hc]
    | some vc =>
      cases hd : digitValue? d with
      | none => simp [named?, hb, hc, hd]
      | some vd =>
        have hvalid : (Nat.ofDigits 16 [vd, vc, vb]).isValidChar := by
          have hvb := digitValue?_lt hb
          have hvc := digitValue?_lt hc
          have hvd := digitValue?_lt hd
          refine Or.inl ?_
          simp only [Nat.ofDigits_cons, Nat.ofDigits_nil]
          omega
        simp [named?, hb, hc, hd, hvalid]

namespace Item

/-- A code with a plus sign is meant to stand for itself. -/
theorem meaning_code_plus (b c d : Char) : (code '+' b c d).meaning = ['\\', 'u', '+', b, c, d] := by
  have hplus : digitValue? '+' = none := by decide
  simp [meaning, named?, hplus]

theorem reading_eq_meaning {i : Item} (h : ¬i.Signed) : i.reading = i.meaning := by
  unfold reading
  split
  · rename_i b c d
    have hnone : named? [b, c, d] = none := by
      rw [← Option.not_isSome_iff_eq_none, named?_isSome_iff]
      exact fun hdigits => h ⟨b, c, d, rfl, hdigits⟩
    rw [hnone, meaning_code_plus]
    rfl
  · rfl

theorem length_reading_lt {i : Item} (h : i.Signed) : i.reading.length < i.meaning.length := by
  obtain ⟨b, c, d, rfl, hdigits⟩ := h
  obtain ⟨x, hx⟩ := Option.isSome_iff_exists.1 ((named?_isSome_iff b c d).2 hdigits)
  rw [reading, hx, meaning_code_plus]
  exact Nat.lt_add_of_pos_left (by decide : 0 < 5)

theorem length_reading_le (i : Item) : i.reading.length ≤ i.meaning.length := by
  by_cases h : i.Signed
  · exact Nat.le_of_lt (length_reading_lt h)
  · rw [reading_eq_meaning h]

/-- If an item is read otherwise than it is meant, the whole text is shorter than it is meant to be. -/
theorem flatMap_reading_eq_iff (items : List Item) :
    items.flatMap reading = items.flatMap meaning ↔ ∀ i ∈ items, ¬i.Signed := by
  constructor
  · intro h
    induction items with
    | nil => simp
    | cons i items ih =>
      rw [List.flatMap_cons, List.flatMap_cons] at h
      have hle : (items.flatMap reading).length ≤ (items.flatMap meaning).length := by
        rw [List.length_flatMap, List.length_flatMap]
        exact List.sum_le_sum fun i _ => length_reading_le i
      have hi : ¬i.Signed := by
        intro hsigned
        have hlt := length_reading_lt hsigned
        have hlength := congrArg List.length h
        rw [List.length_append, List.length_append] at hlength
        omega
      rw [reading_eq_meaning hi, List.append_cancel_left_eq] at h
      exact List.forall_mem_cons.2 ⟨hi, ih h⟩
  · intro h
    exact List.flatMap_congr fun i hi => reading_eq_meaning (h i hi)

end Item

/-! ## Literals of items -/

/-- **Escapes.** A literal is the text that its items are read as, in any quotes; that is the text that they are meant to be
exactly when no code is a plus sign and three digits. -/
theorem parseExpression_literalOf_iff {quote : Char} (hq : isQuote quote = true) {items : List Item}
    (hitems : ∀ i ∈ items, i.Fits quote) :
    parseExpression (literalOf quote items) = .ok (.literal (.string (String.ofList (items.flatMap Item.reading)))) ∧
      (parseExpression (literalOf quote items) = .ok (.literal (.string (String.ofList (items.flatMap Item.meaning)))) ↔
        ∀ i ∈ items, ¬i.Signed) := by
  have hliteral := spellsString_literalOf hq hitems
  have hstart : Text.trimStart (literalOf quote items) = literalOf quote items ++ [] := by
    rw [List.append_nil]
    exact trimStart_of_startsNot (startsNot_cons.2 (isBlank_of_isQuote hq))
  have hread : parseExpression (literalOf quote items) =
      .ok (.literal (.string (String.ofList (items.flatMap Item.reading)))) :=
    parseExpression_eq_ok.2 ⟨[], .string hstart hliteral, rfl⟩
  refine ⟨hread, ?_⟩
  rw [hread, ← Item.flatMap_reading_eq_iff]
  simp only [Except.ok.injEq, Expression.literal.injEq, Literal.string.injEq, String.ofList_inj]

/-- Escapes of every kind in double quotes; the code of a surrogate stays as written. -/
theorem parseExpression_literalOf_iff_mixed :
    isQuote '"' = true ∧
      (∀ i ∈ [.plain 'é', .escaped 'n', .escaped '"', .code '0' '0' 'E' '9', .code 'd' '8' '0' '0'], Item.Fits '"' i) ∧
      parseExpression "\"é\\n\\\"\\u00E9\\ud800\"".toList = .ok (.literal (.string "é\n\"é\\ud800")) := by
  have hq : isQuote '"' = true := rfl
  have hitems : ∀ i ∈ [.plain 'é', .escaped 'n', .escaped '"', .code '0' '0' 'E' '9', .code 'd' '8' '0' '0'],
      Item.Fits '"' i := by simp [Item.Fits]
  exact ⟨hq, hitems, (parseExpression_literalOf_iff hq hitems).1⟩

/-- A plus sign and three digits are no four digits, but they are read as the number 41. -/
theorem parseExpression_literalOf_plus_fails :
    parseExpression (literalOf '\x27' [.code '+' '0' '4' '1']) = .ok (.literal (.string "A")) ∧
      String.ofList (Item.meaning (.code '+' '0' '4' '1')) = "\\u+041" ∧
      ¬∀ quote items, isQuote quote = true → (∀ i ∈ items, i.Fits quote) →
        parseExpression (literalOf quote items) = .ok (.literal (.string (String.ofList (items.flatMap Item.meaning)))) := by
  have hread : parseExpression (literalOf '\x27' [.code '+' '0' '4' '1']) = .ok (.literal (.string "A")) := by rfl
  have hmeant : String.ofList (Item.meaning (.code '+' '0' '4' '1')) = "\\u+041" := by decide
  refine ⟨hread, hmeant, fun h => ?_⟩
  have hmeans := h '\x27' [.code '+' '0' '4' '1'] rfl (by simp [Item.Fits])
  have hsame := Literal.string.inj (Expression.literal.inj (Except.ok.inj (hread.symm.trans hmeans)))
  exact absurd hsame (by decide)

end PageTemplates.StringLiteral
