import Mathlib.Tactic.Common
import PageTemplates.Proofs.Filters.IntegerArithmetic
import PageTemplates.Proofs.Syntax.Spans

/-!
# Arithmetic on values that count as integers

Integers, truth values and the decimal texts of integers count as 64-bit integers (`Value.CountsAs`), and no other value does
(`Value.number?_eq_int_iff`). The arithmetic filters give the exact result where this is a 64-bit integer and a float where it is
none (`Arithmetic.IntOrFloat`). Main statement: what each of the filters gives for such values, whatever the integers are
(`Arithmetic.integer_operands`).
-/

namespace PageTemplates

/-! ## Values that count as integers -/

namespace Decimal

/-- What may stand before the digits of an integer. -/
inductive LeadingSign where
  | none
  | plus
  | minus
  deriving DecidableEq, Repr

/-- The characters of a sign. -/
def LeadingSign.text : LeadingSign → List Char
  | .none => []
  | .plus => ['+']
  | .minus => ['-']

/-- The integer with a sign before its digits. -/
def LeadingSign.apply (sign : LeadingSign) (n : Nat) : Int :=
  if sign = .minus then -(n : Int) else n

theorem int64?_eq_some_iff {n : Int} {i : Int64} : int64? n = some i ↔ i.toInt = n := by
  refine ⟨toInt_of_int64?, ?_⟩
  rintro rfl
  have hrange : Int64.minValue.toInt ≤ i.toInt ∧ i.toInt ≤ Int64.maxValue.toInt :=
    ⟨i.minValue_le_toInt, i.toInt_le⟩
  rw [Arithmetic.int64?_eq_some hrange, Int64.ofInt_toInt]

theorem readSign_of_isDigit {d : Char} {ds : List Char} (h : d.isDigit = true) : readSign (d :: ds) = (false, d :: ds) := by
  unfold readSign
  split
  · rename_i heq
    obtain ⟨rfl, -⟩ := List.cons.inj heq
    exact absurd h (by decide)
  · rename_i heq
    obtain ⟨rfl, -⟩ := List.cons.inj heq
    exact absurd h (by decide)
  · rfl

theorem readSign_sign (sign : LeadingSign) {d : Char} {ds : List Char} (h : d.isDigit = true) :
    readSign (sign.text ++ d :: ds) = (decide (sign = .minus), d :: ds) := by
  cases sign with
  | none => exact readSign_of_isDigit h
  | plus => rfl
  | minus => rfl

theorem exists_sign (cs : List Char) :
    ∃ sign : LeadingSign, cs = sign.text ++ (readSign cs).2 ∧ (readSign cs).1 = decide (sign = .minus) := by
  unfold readSign
  split
  · exact ⟨.minus, rfl, rfl⟩
  · exact ⟨.plus, rfl, rfl⟩
  · exact ⟨.none, rfl, rfl⟩

/-- The texts of integers are digits behind a sign or none. -/
theorem readInt?_eq_some_iff {cs : List Char} {n : Int} :
    readInt? cs = some n ↔
      ∃ (sign : LeadingSign) (digits : List Char), digits ≠ [] ∧ (∀ c ∈ digits, c.isDigit = true) ∧ cs = sign.text ++ digits ∧
        n = sign.apply (digitsValue digits) := by
  constructor
  · intro h
    obtain ⟨sign, hcs, hsign⟩ := exists_sign cs
    simp only [readInt?, hsign, decide_eq_true_eq] at h
    split at h
    · rename_i hdigits
      rw [Bool.and_eq_true, Bool.not_eq_true', List.isEmpty_eq_false_iff, List.all_eq_true] at hdigits
      exact ⟨sign, (readSign cs).2, hdigits.1, hdigits.2, hcs, (Option.some.inj h).symm⟩
    · simp at h
  · rintro ⟨sign, digits, hne, hdigits, rfl, rfl⟩
    obtain ⟨d, ds, rfl⟩ := List.exists_cons_of_ne_nil hne
    have hall : (!(d :: ds).isEmpty && (d :: ds).all Char.isDigit) = true := by
      rw [List.all_eq_true.2 hdigits]
      rfl
    simp only [readInt?, readSign_sign sign (hdigits d List.mem_cons_self), hall, if_true, decide_eq_true_eq]
    rfl

theorem isBlank_of_isDigit {c : Char} (h : c.isDigit = true) : Text.isBlank c = false := by
  refine isBlank_of_isNameChar ?_
  simp [isNameChar, Char.isAlphanum, h]

/-- No character of the text of an integer is a blank. -/
theorem isBlank_of_mem_sign_digits {sign : LeadingSign} {digits : List Char} (h : ∀ c ∈ digits, c.isDigit = true) :
    ∀ c ∈ sign.text ++ digits, Text.isBlank c = false := by
  intro c hc
  rcases List.mem_append.1 hc with hc | hc
  · have hsign : ∀ d ∈ sign.text, Text.isBlank d = false := by
      cases sign with
      | none => exact List.forall_mem_nil _
      | plus => exact List.forall_mem_singleton.2 rfl
      | minus => exact List.forall_mem_singleton.2 rfl
    exact hsign c hc
  · exact isBlank_of_isDigit (h c hc)

end Decimal

namespace Value

/-- The value counts as an integer: it is one, it is a truth value, of which true counts as one and false as zero, or it is a text
of digits with a sign or without, between blanks. -/
inductive CountsAs : Value → Int64 → Prop
  | int (n : Int64) : CountsAs (.int n) n
  | bool (b : Bool) : CountsAs (.bool b) (if b then 1 else 0)
  | text {v : Value} {s : String} {n : Int64} {before digits after : List Char} (sign : Decimal.LeadingSign)
      (text : v.text? = some s) (before_blank : ∀ c ∈ before, Text.isBlank c = true)
      (after_blank : ∀ c ∈ after, Text.isBlank c = true) (digits_ne_nil : digits ≠ [])
      (isDigit : ∀ c ∈ digits, c.isDigit = true) (spelled : s.toList = before ++ (sign.text ++ digits ++ after))
      (value : n.toInt = sign.apply (Decimal.digitsValue digits)) : CountsAs v n

theorem ofText?_eq_int_iff {s : String} {n : Int64} :
    Number.ofText? s = some (.int n) ↔ ∃ m, Decimal.readInt? (Text.trim s.toList) = some m ∧ n.toInt = m := by
  have hread : Number.ofText? s = some (.int n) ↔ Decimal.readInt64? (Text.trim s.toList) = some n := by
    cases h : Decimal.readInt64? (Text.trim s.toList) with
    | some m => simp [Number.ofText?, h]
    | none => simp [Number.ofText?, h]
  rw [hread, Decimal.readInt64?, Option.bind_eq_some_iff]
  simp only [Decimal.int64?_eq_some_iff]

/-- A text counts as the integer that it spells. -/
theorem countsAs_text_iff {v : Value} {s : String} (hv : v.text? = some s) (n : Int64) :
    Number.ofText? s = some (.int n) ↔ v.CountsAs n := by
  rw [ofText?_eq_int_iff]
  constructor
  · rintro ⟨m, hm, hn⟩
    obtain ⟨sign, digits, hne, hdigits, htrim, rfl⟩ := Decimal.readInt?_eq_some_iff.1 hm
    obtain ⟨before, after, hbefore, hafter, hs⟩ := exists_trim_between s.toList
    exact .text sign hv hbefore hafter hne hdigits (htrim ▸ hs) hn
  · intro h
    cases h with
    | int n => simp [text?] at hv
    | bool b => simp [text?] at hv
    | text sign text hbefore hafter hne hdigits spelled value =>
      obtain rfl := Option.some.inj (text.symm.trans hv)
      refine ⟨_, Decimal.readInt?_eq_some_iff.2 ⟨sign, _, hne, hdigits, ?_, value⟩, rfl⟩
      rw [spelled, trim_between hbefore hafter (Decimal.isBlank_of_mem_sign_digits hdigits)]

/-- The values that count as integers are the ones whose number is an integer. -/
theorem number?_eq_int_iff {v : Value} {n : Int64} : v.number? = some (.int n) ↔ v.CountsAs n := by
  have hother : v.number? ≠ some (.int n) → v.text? = none → (∀ m, v ≠ .int m) → (∀ b, v ≠ .bool b) →
      (v.number? = some (.int n) ↔ v.CountsAs n) := by
    intro hnumber htext hint hbool
    refine iff_of_false hnumber fun h => ?_
    cases h with
    | int => exact hint _ rfl
    | bool => exact hbool _ rfl
    | text sign text => exact Option.some_ne_none _ (text.symm.trans htext)
  cases v with
  | int m =>
    constructor
    · intro h
      obtain rfl := Number.int.inj (Option.some.inj h)
      exact .int m
    · intro h
      cases h with
      | int => rfl
      | text sign text => simp [text?] at text
  | bool b =>
    constructor
    · intro h
      obtain rfl := Number.int.inj (Option.some.inj h)
      exact .bool b
    · intro h
      cases h with
      | bool => rfl
      | text sign text => simp [text?] at text
  | string s => exact countsAs_text_iff rfl n
  | raw s => exact countsAs_text_iff rfl n
  | null | float | array | object | expression => exact hother (by simp [number?]) rfl (by simp) (by simp)

end Value

namespace Arithmetic

/-! ## One operation -/

variable {v w : Value} {a b : Int64}

theorem operand_countsAs (name : String) (h : v.CountsAs a) : operand name v = .ok (.int a) := by
  rw [operand, Value.number?_eq_int_iff.2 h]

theorem operands_countsAs (name : String) (hv : v.CountsAs a) (hw : w.CountsAs b) (rest : List Value) :
    operands name v (w :: rest) = .ok (.int a, .int b) := by
  simp only [operands, operand_countsAs name hv, operand_countsAs name hw]
  rfl

/-- The answer is the integer with a property if there is one, else the given float. -/
def IntOrFloat (answer : Except TemplateError Value) (exact : Int64 → Prop) (x : Float) : Prop :=
  (∃ n, exact n ∧ answer = .ok (.int n)) ∨ (∀ n, ¬exact n) ∧ answer = .ok (.float x)

/-- An operation gives its exact result where this is a 64-bit integer, and else its result on the nearest floats. -/
theorem intOrFloat_binary (surroundings : Surroundings) (name : String) (op : Operation) (hv : v.CountsAs a) (hw : w.CountsAs b)
    (rest : List Value) :
    IntOrFloat (binary name op surroundings v (w :: rest)) (fun n => n.toInt = op.onInts a.toInt b.toInt)
      (op.onFloats (floatOfInt64 a) (floatOfInt64 b)) := by
  have hbinary : binary name op surroundings v (w :: rest) = .ok (op.apply (.int a) (.int b)).toValue := by
    unfold binary
    rw [operands_countsAs name hv hw]
    rfl
  rw [hbinary]
  cases hn : Decimal.int64? (op.onInts a.toInt b.toInt) with
  | some n =>
    refine Or.inl ⟨n, Decimal.int64?_eq_some_iff.1 hn, ?_⟩
    rw [apply_int op hn]
    rfl
  | none =>
    refine Or.inr ⟨fun n hexact => ?_, ?_⟩
    · rw [Decimal.int64?_eq_some_iff.2 hexact] at hn
      simp at hn
    · simp only [Operation.apply, hn]
      rfl

theorem toInt_ne_zero {b : Int64} (hb : b ≠ 0) : b.toInt ≠ 0 :=
  fun h => hb (Int64.toInt_inj.1 h)

/-- Nothing is divided by zero. -/
theorem divide_zero (a : Int64) : divide (.int a) (.int 0) = .error (.invalidArgument "division by zero") := by
  have hzero : isZero (.int 0) = true := by
    rw [isZero_int]
    rfl
  simp only [divide, hzero, if_true]

theorem modulo_zero (a : Int64) : modulo (.int a) (.int 0) = .error (.invalidArgument "modulo by zero") := by
  have hzero : isZero (.int 0) = true := by
    rw [isZero_int]
    rfl
  simp only [modulo, hzero, if_true]

/-- A quotient is an integer if it is exact and a 64-bit integer, and else the quotient of the nearest floats. So the least integer
by minus one is a float. -/
theorem divide_cases {a b : Int64} (hb : b ≠ 0) :
    (∃ q : Int64, q.toInt * b.toInt = a.toInt ∧ divide (.int a) (.int b) = .ok (.int q)) ∨
      (∀ q : Int64, q.toInt * b.toInt ≠ a.toInt) ∧
        divide (.int a) (.int b) = .ok (.float (floatOfInt64 a / floatOfInt64 b)) := by
  have hzero := toInt_ne_zero hb
  by_cases hdvd : b.toInt ∣ a.toInt
  · have hexact : a.toInt.tdiv b.toInt * b.toInt = a.toInt := Int.tdiv_mul_cancel hdvd
    cases hq : Decimal.int64? (a.toInt.tdiv b.toInt) with
    | some q => exact Or.inl ⟨q, by rw [Decimal.int64?_eq_some_iff.1 hq, hexact], divide_int hzero hdvd hq⟩
    | none =>
      refine Or.inr ⟨fun q hquotient => ?_, ?_⟩
      · rw [← hquotient, Int.mul_tdiv_cancel _ hzero, Decimal.int64?_eq_some_iff.2 rfl] at hq
        simp at hq
      · simp only [divide, isZero_eq_false hzero, Int.tmod_eq_zero_of_dvd hdvd, hq, Bool.false_eq_true, if_false, if_true]
  · have hrest : a.toInt.tmod b.toInt ≠ 0 := fun h => hdvd (Int.dvd_of_tmod_eq_zero h)
    refine Or.inr ⟨fun q hquotient => hdvd ⟨q.toInt, ?_⟩, ?_⟩
    · rw [← hquotient, Int.mul_comm]
    · simp only [divide, isZero_eq_false hzero, hrest, Bool.false_eq_true, if_false]

/-- A remainder of 64-bit integers is one. It is smaller than the divisor, and zero or of the sign of the dividend. -/
theorem exists_remainder (a : Int64) {b : Int64} (hb : b ≠ 0) :
    ∃ r : Int64, modulo (.int a) (.int b) = .ok (.int r) ∧ a.toInt = b.toInt * a.toInt.tdiv b.toInt + r.toInt ∧
      r.toInt.natAbs < b.toInt.natAbs ∧ (r = 0 ∨ r.toInt.sign = a.toInt.sign) := by
  have hzero := toInt_ne_zero hb
  have hlt : (a.toInt.tmod b.toInt).natAbs < b.toInt.natAbs := by
    rw [Int.natAbs_tmod]
    exact Nat.mod_lt _ (Int.natAbs_pos.2 hzero)
  have hrange : Int64.minValue.toInt ≤ a.toInt.tmod b.toInt ∧ a.toInt.tmod b.toInt ≤ Int64.maxValue.toInt := by
    have hlow := b.le_toInt
    have hhigh := b.toInt_lt
    rw [Int64.toInt_minValue, Int64.toInt_maxValue]
    omega
  have hr := int64?_eq_some hrange
  have hvalue := Decimal.toInt_of_int64? hr
  refine ⟨Int64.ofInt (a.toInt.tmod b.toInt), modulo_int hzero hr, ?_, ?_, ?_⟩
  · rw [hvalue, Int.mul_tdiv_add_tmod]
  · rwa [hvalue]
  · by_cases hdvd : b.toInt ∣ a.toInt
    · left
      rw [Int.tmod_eq_zero_of_dvd hdvd]
      rfl
    · right
      rw [hvalue, Int.sign_tmod, if_neg hdvd]

theorem divideFilter_countsAs (surroundings : Surroundings) (hv : v.CountsAs a) (hw : w.CountsAs b) (rest : List Value) :
    divideFilter surroundings v (w :: rest) = (divide (.int a) (.int b)).map Number.toValue := by
  unfold divideFilter
  rw [operands_countsAs "divide" hv hw]
  show (divide (.int a) (.int b) >>= fun q => .ok q.toValue) = _
  cases divide (.int a) (.int b) <;> rfl

theorem moduloFilter_countsAs (surroundings : Surroundings) (hv : v.CountsAs a) (hw : w.CountsAs b) (rest : List Value) :
    moduloFilter surroundings v (w :: rest) = (modulo (.int a) (.int b)).map Number.toValue := by
  unfold moduloFilter
  rw [operands_countsAs "mod" hv hw]
  show (modulo (.int a) (.int b) >>= fun r => .ok r.toValue) = _
  cases modulo (.int a) (.int b) <;> rfl

/-- The filters with one for an operand are those with any operand, applied to one. -/
theorem withOne_eq_binary (surroundings : Surroundings) (name name' : String) (op : Operation) (hv : v.CountsAs a)
    (rest : List Value) : withOne name op surroundings v rest = binary name' op surroundings v [.int 1] := by
  unfold withOne binary
  rw [operand_countsAs name hv, operands_countsAs name' hv (.int 1)]
  rfl

/-! ## The filters -/

/-- **Integer arithmetic.** For values that count as integers, sums, differences and products are exact where they are 64-bit
integers, and floats where they are none. Division and remainder fail for the divisor zero and for no other. A quotient is an
integer where one times the divisor is the dividend, and else a float. A remainder is what is left of the dividend when the
divisor is taken from it as often as the quotient says that is cut off towards zero. `incr` adds one and `decr` subtracts one. -/
theorem integer_operands (surroundings : Surroundings) (hv : v.CountsAs a) (hw : w.CountsAs b) (rest : List Value) :
    IntOrFloat (Operator.add.filter surroundings v (w :: rest)) (fun n => n.toInt = a.toInt + b.toInt)
        (floatOfInt64 a + floatOfInt64 b) ∧
      IntOrFloat (Operator.subtract.filter surroundings v (w :: rest)) (fun n => n.toInt = a.toInt - b.toInt)
        (floatOfInt64 a - floatOfInt64 b) ∧
      IntOrFloat (Operator.multiply.filter surroundings v (w :: rest)) (fun n => n.toInt = a.toInt * b.toInt)
        (floatOfInt64 a * floatOfInt64 b) ∧
      ((∃ e, Operator.divide.filter surroundings v (w :: rest) = .error e) ↔ b = 0) ∧
      ((∃ e, Operator.mod.filter surroundings v (w :: rest) = .error e) ↔ b = 0) ∧
      (b ≠ 0 → IntOrFloat (Operator.divide.filter surroundings v (w :: rest)) (fun q => q.toInt * b.toInt = a.toInt)
        (floatOfInt64 a / floatOfInt64 b)) ∧
      (b ≠ 0 → ∃ r : Int64, Operator.mod.filter surroundings v (w :: rest) = .ok (.int r) ∧
        a.toInt = b.toInt * a.toInt.tdiv b.toInt + r.toInt ∧ r.toInt.natAbs < b.toInt.natAbs ∧
          (r = 0 ∨ r.toInt.sign = a.toInt.sign)) ∧
      withOne "incr" addition surroundings v rest = Operator.add.filter surroundings v [.int 1] ∧
      withOne "decr" subtraction surroundings v rest = Operator.subtract.filter surroundings v [.int 1] := by
  have hquotient : b ≠ 0 → IntOrFloat (divideFilter surroundings v (w :: rest)) (fun q => q.toInt * b.toInt = a.toInt)
      (floatOfInt64 a / floatOfInt64 b) := by
    intro hb
    rw [divideFilter_countsAs surroundings hv hw]
    rcases divide_cases (a := a) hb with ⟨q, hexact, hq⟩ | ⟨hnone, hq⟩
    · exact Or.inl ⟨q, hexact, by rw [hq]; rfl⟩
    · exact Or.inr ⟨hnone, by rw [hq]; rfl⟩
  have hremainder : b ≠ 0 → ∃ r : Int64, moduloFilter surroundings v (w :: rest) = .ok (.int r) ∧
      a.toInt = b.toInt * a.toInt.tdiv b.toInt + r.toInt ∧ r.toInt.natAbs < b.toInt.natAbs ∧
        (r = 0 ∨ r.toInt.sign = a.toInt.sign) := by
    intro hb
    obtain ⟨r, hr, hrest⟩ := exists_remainder a hb
    exact ⟨r, by rw [moduloFilter_countsAs surroundings hv hw, hr]; rfl, hrest⟩
  refine ⟨intOrFloat_binary surroundings "add" addition hv hw rest,
    intOrFloat_binary surroundings "subtract" subtraction hv hw rest,
    intOrFloat_binary surroundings "multiply" multiplication hv hw rest, ?_, ?_, hquotient, hremainder,
    withOne_eq_binary surroundings "incr" "add" addition hv rest,
    withOne_eq_binary surroundings "decr" "subtract" subtraction hv rest⟩
  · constructor
    · rintro ⟨e, he⟩
      by_contra hb
      rcases hquotient hb with ⟨q, -, hq⟩ | ⟨-, hq⟩
      · exact nomatch he.symm.trans hq
      · exact nomatch he.symm.trans hq
    · rintro rfl
      exact ⟨_, by rw [Operator.filter, divideFilter_countsAs surroundings hv hw, divide_zero]; rfl⟩
  · constructor
    · rintro ⟨e, he⟩
      by_contra hb
      obtain ⟨r, hr, -⟩ := hremainder hb
      exact nomatch he.symm.trans hr
    · rintro rfl
      exact ⟨_, by rw [Operator.filter, moduloFilter_countsAs surroundings hv hw, modulo_zero]; rfl⟩

/-- The least integer, written between blanks, and minus one: the quotient is a float, and the remainder is zero. -/
theorem integer_operands_least :
    Value.CountsAs (.string " -9223372036854775808 ") Int64.minValue ∧ Value.CountsAs (.raw "-1") (-1) ∧ (-1 : Int64) ≠ 0 ∧
      Operator.divide.filter { settings := {}, now := "" } (.string " -9223372036854775808 ") [.raw "-1"] =
        .ok (.float (floatOfInt64 Int64.minValue / floatOfInt64 (-1))) ∧
      Operator.mod.filter { settings := {}, now := "" } (.string " -9223372036854775808 ") [.raw "-1"] = .ok (.int 0) := by
  have hblank : ∀ c ∈ [' '], Text.isBlank c = true := List.forall_mem_singleton.2 rfl
  have hdigits : ∀ c ∈ "9223372036854775808".toList, c.isDigit = true := List.all_eq_true.1 rfl
  have hleast : Value.CountsAs (.string " -9223372036854775808 ") Int64.minValue :=
    .text .minus rfl hblank hblank (by decide) hdigits rfl rfl
  have hnone : ∀ c ∈ [], Text.isBlank c = true := List.forall_mem_nil _
  have hdigit : ∀ c ∈ ['1'], c.isDigit = true := List.forall_mem_singleton.2 rfl
  have hone : Value.CountsAs (.raw "-1") (-1) :=
    .text .minus rfl hnone hnone (by decide) hdigit rfl rfl
  have hne : (-1 : Int64) ≠ 0 := by
    decide
  obtain ⟨-, -, -, -, -, hdivide, hmod, -, -⟩ := integer_operands { settings := {}, now := "" } hleast hone []
  refine ⟨hleast, hone, hne, ?_, ?_⟩
  · rcases hdivide hne with ⟨q, hq, -⟩ | ⟨-, hfloat⟩
    · have hquotient : q.toInt * -1 = -9223372036854775808 := hq
      have := q.toInt_lt
      omega
    · exact hfloat
  · obtain ⟨r, hr, -, hlt, -⟩ := hmod hne
    have hsmall : r.toInt.natAbs < 1 := hlt
    have hzero : r = 0 := Int64.toInt_inj.1 (Int.natAbs_eq_zero.1 (by omega))
    rw [hr, hzero]

end Arithmetic

end PageTemplates
