import PageTemplates.Filters.BuiltIn
import PageTemplates.Proofs.Evaluation.EvaluatedValues
import PageTemplates.Proofs.Syntax.Parsing
import PageTemplates.Text.Html

/-!
# Where raw text comes from

The built-in value filters make raw text in HTML form only, apart from `raw` and `json`, and they make no expressions: whatever
else they give is a part of what they got, or has neither in it. Main statements: what such a filter gives is made of its value
and its arguments (`BuiltIn.makes_valueFilters`), and what a chain of them gives is made of the value that it starts with and of
the arguments in it (`BuiltIn.madeOf_chain`).
-/

namespace PageTemplates

/-! ## Parts of values -/

/-- A value is a part of another one, at any depth. -/
inductive Value.Within (u : Value) : Value → Prop
  | refl : Within u u
  | item {v : Value} {items : List Value} (hmem : v ∈ items) (hwithin : Within u v) : Within u (.array items)
  | field {name : String} {v : Value} {fields : List (String × Value)} (hmem : (name, v) ∈ fields) (hwithin : Within u v) :
      Within u (.object fields)

namespace Value

/-- A property of all values, shown of a collection from the values in it. -/
@[elab_as_elim]
theorem nested_induction {P : Value → Prop} (null : P .null) (bool : ∀ b, P (.bool b)) (int : ∀ n, P (.int n))
    (float : ∀ x, P (.float x)) (string : ∀ s, P (.string s)) (raw : ∀ s, P (.raw s))
    (array : ∀ items, (∀ v ∈ items, P v) → P (.array items))
    (object : ∀ fields : List (String × Value), (∀ name v, (name, v) ∈ fields → P v) → P (.object fields))
    (expression : ∀ e, P (.expression e)) (v : Value) : P v := by
  match v with
  | .null => exact null
  | .bool b => exact bool b
  | .int n => exact int n
  | .float x => exact float x
  | .string s => exact string s
  | .raw s => exact raw s
  | .array items => exact array items fun v _ => nested_induction null bool int float string raw array object expression v
  | .object fields =>
    refine object fields fun name v hfield => ?_
    have hlt : sizeOf v < sizeOf fields := by
      have hfield := List.sizeOf_lt_of_mem hfield
      rw [Prod.mk.sizeOf_spec] at hfield
      omega
    exact nested_induction null bool int float string raw array object expression v
  | .expression e => exact expression e

theorem Within.trans {u v w : Value} (huv : u.Within v) (hvw : v.Within w) : u.Within w := by
  induction hvw with
  | refl => exact huv
  | item hmem _ ih => exact .item hmem ih
  | field hmem _ ih => exact .field hmem ih

/-- A value that is neither a collection, nor raw text, nor an expression. -/
def IsPlain : Value → Prop
  | .null | .bool _ | .int _ | .float _ | .string _ => True
  | .raw _ | .array _ | .object _ | .expression _ => False

theorem IsPlain.eq_of_within {u v : Value} (hv : v.IsPlain) (h : u.Within v) : u = v := by
  cases h with
  | refl => rfl
  | item => exact hv.elim
  | field => exact hv.elim

theorem IsPlain.not_within_raw {v : Value} {text : String} (hv : v.IsPlain) : ¬ (raw text).Within v := by
  intro hwithin
  rw [← hv.eq_of_within hwithin] at hv
  exact hv

/-- What can be made of some values without making markup: plain values, parts of those values, texts in HTML form, and arrays of
such values. -/
inductive MadeOf (sources : List Value) : Value → Prop
  | plain {v : Value} (hv : v.IsPlain) : MadeOf sources v
  | part {v source : Value} (hmem : source ∈ sources) (hwithin : v.Within source) : MadeOf sources v
  | escaped (s : String) : MadeOf sources (.raw (Text.escapeHtml s))
  | array {items : List Value} (hitems : ∀ item ∈ items, MadeOf sources item) : MadeOf sources (.array items)

namespace MadeOf

variable {sources others : List Value} {u v : Value}

theorem source (h : v ∈ sources) : MadeOf sources v :=
  .part h .refl

/-- The parts of what is made of values are made of them. -/
theorem within (h : MadeOf sources v) (hu : u.Within v) : MadeOf sources u := by
  induction h with
  | plain hv => exact hv.eq_of_within hu ▸ .plain hv
  | part hmem hwithin => exact .part hmem (hu.trans hwithin)
  | escaped s =>
    cases hu
    exact .escaped s
  | array hitems ih =>
    cases hu with
    | refl => exact .array hitems
    | item hmem hwithin => exact ih _ hmem hwithin

/-- What is made of things made of values is made of these values. -/
theorem through (h : MadeOf others v) (hothers : ∀ other ∈ others, MadeOf sources other) : MadeOf sources v := by
  induction h with
  | plain hv => exact .plain hv
  | part hmem hwithin => exact (hothers _ hmem).within hwithin
  | escaped s => exact .escaped s
  | array _ ih => exact .array ih

theorem mono (h : MadeOf sources v) (hsub : sources ⊆ others) : MadeOf others v :=
  h.through fun _ hmem => .source (hsub hmem)

/-- Raw text that is made of values is in HTML form or a part of one of them. -/
theorem raw {text : String} (h : MadeOf sources (.raw text)) :
    (∃ s, text = Text.escapeHtml s) ∨ ∃ source ∈ sources, (Value.raw text).Within source := by
  cases h with
  | plain hv => exact hv.elim
  | part hmem hwithin => exact .inr ⟨_, hmem, hwithin⟩
  | escaped s => exact .inl ⟨s, rfl⟩

/-- An expression that is made of values is a part of one of them. -/
theorem expression {e : Expression} (h : MadeOf sources (.expression e)) :
    ∃ source ∈ sources, (Value.expression e).Within source := by
  cases h with
  | plain hv => exact hv.elim
  | part hmem hwithin => exact ⟨_, hmem, hwithin⟩

end MadeOf

theorem hasExpression_of_within {e : Expression} {v : Value} (h : (expression e).Within v) : v.hasExpression = true := by
  induction h with
  | refl => rfl
  | @item v items hmem _ ih =>
    by_contra hnone
    have hitems := anyHasExpression_eq_false.1 (Bool.eq_false_iff.2 hnone) v hmem
    rw [ih] at hitems
    cases hitems
  | @field name v fields hmem _ ih =>
    by_contra hnone
    have hfields := fieldsHaveExpression_eq_false.1 (Bool.eq_false_iff.2 hnone) (name, v) hmem
    rw [ih] at hfields
    cases hfields

theorem hasExpression_eq_false (v : Value) (h : ∀ e, ¬ (expression e).Within v) : v.hasExpression = false := by
  induction v using nested_induction with
  | null | bool | int | float | string | raw => rfl
  | array items ih =>
    exact anyHasExpression_eq_false.2 fun item hitem => ih item hitem fun e hwithin => h e (.item hitem hwithin)
  | object fields ih =>
    exact fieldsHaveExpression_eq_false.2 fun (name, v) hfield => ih name v hfield fun e hwithin => h e (.field hfield hwithin)
  | expression e => exact absurd .refl (h e)

theorem MadeOf.hasExpression_eq_false {sources : List Value} {v : Value} (h : MadeOf sources v)
    (hsources : ∀ source ∈ sources, source.hasExpression = false) : v.hasExpression = false := by
  refine Value.hasExpression_eq_false v fun e hwithin => ?_
  obtain ⟨source, hmem, hwithin⟩ := (h.within hwithin).expression
  exact Bool.false_ne_true ((hsources source hmem).symm.trans (hasExpression_of_within hwithin))

end Value

/-! ## Filters -/

namespace Except

variable {ε α β : Type} {P : α → Prop} {Q : β → Prop}

/-- The value of a successful computation has a property. -/
def Returns (P : α → Prop) (x : Except ε α) : Prop :=
  ∀ a, x = .ok a → P a

theorem Returns.ok {a : α} (ha : P a) : Returns P (.ok a : Except ε α) := by
  intro b hb
  obtain rfl := Except.ok.inj hb
  exact ha

theorem Returns.error (e : ε) : Returns P (.error e : Except ε α) :=
  fun _ h => nomatch h

theorem Returns.after {x : Except ε α} {f : α → Except ε β} (hf : ∀ a, Returns Q (f a)) : Returns Q (x >>= f) := by
  intro b hb
  obtain ⟨a, -, hb⟩ := bind_eq_ok.1 hb
  exact hf a b hb

end Except

/-- What a filter gives is made of its value and its arguments. -/
def ValueFilter.Makes (run : ValueFilter) : Prop :=
  ∀ surroundings v args, Except.Returns (Value.MadeOf (v :: args)) (run surroundings v args)

/-- A function on values that cannot fail. -/
theorem Collections.makes_pure {f : Value → Value} (h : ∀ v, Value.MadeOf [v] (f v)) : (pure f).Makes :=
  fun _ v args => .ok ((h v).mono (List.cons_subset_cons v (List.nil_subset args)))

namespace Value.MadeOf

variable {sources : List Value}

theorem null : MadeOf sources .null := .plain trivial

theorem string (s : String) : MadeOf sources (.string s) := .plain trivial

theorem number (n : Number) : MadeOf sources n.toValue := by
  cases n <;> exact .plain trivial

/-- Items of an array that is a source. -/
theorem itemsOf {items : List Value} (h : .array items ∈ sources) {item : Value} (hitem : item ∈ items) : MadeOf sources item :=
  .part h (.item hitem .refl)

end Value.MadeOf

open Value (MadeOf)

namespace Arithmetic

theorem makes_binary (name : String) (op : Operation) : (binary name op).Makes :=
  fun _ _ _ => .after fun ⟨_, _⟩ => .ok (.number _)

theorem makes_withOne (name : String) (op : Operation) : (withOne name op).Makes :=
  fun _ _ _ => .after fun _ => .ok (.number _)

theorem makes_divideFilter : divideFilter.Makes :=
  fun _ _ _ => .after fun ⟨_, _⟩ => .after fun _ => .ok (.number _)

theorem makes_moduloFilter : moduloFilter.Makes :=
  fun _ _ _ => .after fun ⟨_, _⟩ => .after fun _ => .ok (.number _)

end Arithmetic

namespace Texts

theorem makes_mapping (f : List Char → List Char) : (mapping f).Makes := by
  intro _ v args
  cases v <;> exact .ok (.plain trivial)

theorem makes_append : append.Makes :=
  fun _ _ _ => .ok (.string _)

theorem makes_prepend : prepend.Makes :=
  fun _ _ _ => .ok (.string _)

theorem makes_replace : replace.Makes :=
  fun _ _ _ => .after fun _ => .ok (.string _)

theorem makes_substringFrom : substringFrom.Makes :=
  fun _ _ _ => .after fun _ => .ok (.string _)

theorem makes_substring : substring.Makes :=
  fun _ _ _ => .after fun _ => .after fun _ => .ok (.string _)

theorem makes_pad (name : String) (side : Side) : (pad name side).Makes :=
  fun _ _ _ => .after fun _ => .ok (.string _)

theorem makes_htmlEncode : htmlEncode.Makes :=
  fun _ _ _ => .ok (.escaped _)

theorem makes_split : split.Makes := by
  refine fun _ v args => .after fun separator => .ok (.array fun item hitem => ?_)
  obtain ⟨cs, -, rfl⟩ := List.mem_map.1 hitem
  exact .string _

theorem madeOf_joined {sources : List Value} (separator : List Char) (v : Value) : MadeOf sources (joined separator v) := by
  cases v <;> exact .plain trivial

theorem makes_joinCommas : joinCommas.Makes :=
  fun _ v _ => .ok (madeOf_joined _ v)

theorem makes_join : join.Makes :=
  fun _ v _ => .after fun _ => .ok (madeOf_joined _ v)

end Texts

namespace Collections

theorem makes_length : length.Makes := by
  intro _ v args
  cases v with
  | null | string s | raw s | array items | object fields => exact .ok (.plain trivial)
  | bool b | int n | float x | expression e => exact .error _

theorem madeOf_charValue {sources : List Value} (c : Option Char) : MadeOf sources (charValue c) := by
  cases c <;> exact .plain trivial

/-- An optional item of an array. -/
theorem madeOf_getD {items : List Value} {item : Option Value} (h : ∀ v, item = some v → v ∈ items) :
    MadeOf [.array items] (item.getD .null) := by
  cases item with
  | none => exact .null
  | some v => exact .itemsOf List.mem_cons_self (h v rfl)

theorem makes_first : (pure first).Makes := by
  refine makes_pure fun v => ?_
  cases v with
  | array items => exact madeOf_getD fun v => List.mem_of_head?
  | string s => exact madeOf_charValue _
  | null | bool b | int n | float x | raw s | object fields | expression e => exact .null

theorem makes_last : (pure last).Makes := by
  refine makes_pure fun v => ?_
  cases v with
  | array items => exact madeOf_getD fun v => List.mem_of_getLast?
  | string s => exact madeOf_charValue _
  | null | bool b | int n | float x | raw s | object fields | expression e => exact .null

theorem makes_reverse : (pure reverse).Makes := by
  refine makes_pure fun v => ?_
  cases v with
  | array items => exact .array fun item hitem => .itemsOf List.mem_cons_self (List.mem_reverse.1 hitem)
  | string s => exact .string _
  | null | bool b | int n | float x | raw s | object fields | expression e => exact .source List.mem_cons_self

/-- Some of the items of a value. -/
theorem madeOf_mapItems {f : List Value → List Value} (hf : ∀ items, f items ⊆ items) (v : Value) (args : List Value) :
    MadeOf (v :: args) (mapItems f v) := by
  have hsingle : MadeOf (v :: args) (.array (f [v])) := .array fun item hitem => by
    rw [List.mem_singleton.1 (hf [v] hitem)]
    exact .source List.mem_cons_self
  cases v with
  | array items => exact .array fun item hitem => .itemsOf List.mem_cons_self (hf items hitem)
  | null => exact .null
  | bool b | int n | float x | string s | raw s | object fields | expression e => exact hsingle

theorem makes_take : take.Makes :=
  fun _ v args => .after fun n => .ok (madeOf_mapItems (fun items => List.take_subset n items) v args)

theorem makes_skip : skip.Makes :=
  fun _ v args => .after fun n => .ok (madeOf_mapItems (fun items => List.drop_subset n items) v args)

theorem makes_keys : (pure keys).Makes := by
  refine makes_pure fun v => ?_
  cases v with
  | object fields =>
    refine .array fun item hitem => ?_
    obtain ⟨name, -, rfl⟩ := List.mem_map.1 hitem
    exact .string _
  | null | bool b | int n | float x | string s | raw s | array items | expression e => exact .array (List.forall_mem_nil _)

theorem makes_values : (pure values).Makes := by
  refine makes_pure fun v => ?_
  cases v with
  | object fields =>
    refine .array fun item hitem => ?_
    obtain ⟨⟨name, v⟩, hmem, rfl⟩ := List.mem_map.1 hitem
    exact .part List.mem_cons_self (.field hmem .refl)
  | array items => exact .source List.mem_cons_self
  | null | bool b | int n | float x | string s | raw s | expression e => exact .array (List.forall_mem_nil _)

end Collections

namespace Logic

theorem makes_default : default.Makes := by
  refine fun _ v args => .ok ?_
  cases v with
  | null =>
    cases args with
    | nil => exact .null
    | cons arg args => exact .source (List.mem_cons_of_mem _ List.mem_cons_self)
  | bool b | int n | float x | string s | raw s | array items | object fields | expression e =>
    exact .source List.mem_cons_self

theorem makes_isNull : isNull.Makes :=
  fun _ _ _ => .ok (.plain trivial)

theorem makes_equals : equals.Makes :=
  fun _ _ _ => .ok (.plain trivial)

theorem makes_not : not.Makes :=
  fun _ _ _ => .ok (.plain trivial)

end Logic

namespace Dates

theorem returns_format (v : Value) (args : List Value) (pattern : String) :
    Except.Returns (MadeOf (v :: args)) (format v pattern) := by
  unfold format
  split
  · exact .ok .null
  · split
    · exact .error _
    · split
      · exact .ok (.string _)
      · exact .error _

theorem makes_now : now.Makes :=
  fun _ _ _ => .ok (.string _)

theorem makes_formatDefault : formatDefault.Makes :=
  fun _ v args => returns_format v args _

theorem makes_formatBy : formatBy.Makes :=
  fun _ v args => .after fun _ => returns_format v args _

end Dates

namespace Currency

theorem returns_format (v : Value) (args : List Value) (culture : String) :
    Except.Returns (MadeOf (v :: args)) (format v culture) := by
  unfold format
  split
  · exact .ok .null
  · split
    · exact .error _
    · exact .error _
    · exact .ok (.string _)

theorem makes_ofSite : ofSite.Makes :=
  fun _ v args => returns_format v args _

theorem makes_ofCulture : ofCulture.Makes :=
  fun _ v args => .after fun _ => returns_format v args _

end Currency

/-- A value filter of which what it gives is made of its value and its arguments. -/
def FilterDef.Makes (d : FilterDef) : Prop :=
  ∃ run : ValueFilter, d.body = .value run ∧ run.Makes

namespace BuiltIn

theorem makes_value {name : String} {arity : Nat} {run : ValueFilter} {params : List String} (h : run.Makes) :
    (value name arity run params).Makes :=
  ⟨run, rfl, h⟩

theorem makes_ofUnknown {name : String} {arity : Nat} {run : ValueFilter} (h : run.Makes) : (ofUnknown name arity run).Makes :=
  ⟨run, rfl, h⟩

theorem makes_arithmetic : ∀ d ∈ arithmetic, d.Makes := by
  open Arithmetic in
  simp only [arithmetic, List.forall_mem_cons]
  exact ⟨makes_value (makes_binary _ _), makes_value (makes_binary _ _), makes_value (makes_binary _ _),
    makes_value makes_divideFilter, makes_value makes_moduloFilter, makes_value (makes_withOne _ _),
    makes_value (makes_withOne _ _), List.forall_mem_nil _⟩

theorem makes_texts : ∀ d ∈ texts, d.name ≠ "raw" → d.name ≠ "json" → d.Makes := by
  open Texts in
  simp only [texts, List.forall_mem_cons]
  refine ⟨fun _ _ => makes_value (makes_mapping _), fun _ _ => makes_value (makes_mapping _),
    fun _ _ => makes_value (makes_mapping _), fun _ _ => makes_value (makes_mapping _),
    fun _ _ => makes_value (makes_mapping _), fun _ _ => makes_value makes_append, fun _ _ => makes_value makes_prepend,
    fun _ _ => makes_value makes_replace, fun _ _ => makes_value makes_substringFrom,
    fun _ _ => makes_value makes_substring, fun _ _ => makes_value (makes_pad _ _), fun _ _ => makes_value (makes_pad _ _),
    fun _ _ => makes_value (makes_pad _ _), fun _ _ => makes_value (makes_pad _ _), fun _ _ => makes_value makes_htmlEncode,
    fun hraw _ => absurd rfl hraw, fun _ hjson => absurd rfl hjson, fun _ _ => makes_value makes_split,
    fun _ _ => makes_value makes_joinCommas, fun _ _ => makes_value makes_join, List.forall_mem_nil _⟩

theorem makes_collections : ∀ d ∈ collections, d.Makes := by
  open Collections in
  simp only [collections, List.forall_mem_cons]
  exact ⟨makes_value makes_length, makes_value makes_first, makes_value makes_last, makes_value makes_reverse,
    makes_value makes_take, makes_value makes_skip, makes_value makes_keys, makes_value makes_values, List.forall_mem_nil _⟩

theorem makes_logic : ∀ d ∈ logic, d.Makes := by
  open Logic in
  simp only [logic, List.forall_mem_cons]
  exact ⟨makes_ofUnknown makes_default, makes_ofUnknown makes_isNull, makes_value makes_equals, makes_value makes_not, List.forall_mem_nil _⟩

theorem makes_datesAndMoney : ∀ d ∈ datesAndMoney, d.Makes := by
  simp only [datesAndMoney, List.forall_mem_cons]
  exact ⟨makes_value Dates.makes_now, makes_value Dates.makes_formatDefault, makes_value Dates.makes_formatBy,
    makes_value Currency.makes_ofSite, makes_value Currency.makes_ofCulture, List.forall_mem_nil _⟩

/-- **Steps.** What a built-in value filter gives is made of its value and its arguments, apart from `raw` and `json`. -/
theorem makes_valueFilters {d : FilterDef} (hd : d ∈ valueFilters) (hraw : d.name ≠ "raw") (hjson : d.name ≠ "json") :
    d.Makes := by
  simp only [valueFilters, List.mem_append] at hd
  rcases hd with (((hd | hd) | hd) | hd) | hd
  · exact makes_arithmetic d hd
  · exact makes_texts d hd hraw hjson
  · exact makes_collections d hd
  · exact makes_logic d hd
  · exact makes_datesAndMoney d hd

/-- **Chains.** What a chain of such filters gives is made of the value that it starts with and of the arguments in it. -/
theorem madeOf_chain {surroundings : Surroundings} {calls : List (ValueFilter × List Value)} {v w : Value}
    (hcalls : ∀ call ∈ calls, call.1.Makes) (hrun : calls.foldlM (fun v call => call.1 surroundings v call.2) v = .ok w) :
    MadeOf (v :: calls.flatMap (·.2)) w := by
  induction calls generalizing v with
  | nil =>
    obtain rfl := Except.ok.inj hrun
    exact .source List.mem_cons_self
  | cons call calls ih =>
    rw [List.foldlM_cons] at hrun
    obtain ⟨u, hu, hrun⟩ := Except.bind_eq_ok.1 hrun
    obtain ⟨hcall, hcalls⟩ := List.forall_mem_cons.1 hcalls
    have hfirst : MadeOf (v :: (call.2 ++ calls.flatMap (·.2))) u :=
      (hcall surroundings v call.2 u hu).mono (List.cons_subset_cons v (List.subset_append_left _ _))
    rw [List.flatMap_cons]
    refine (ih hcalls hrun).through (List.forall_mem_cons.2 ⟨hfirst, fun arg harg => ?_⟩)
    exact .source (List.mem_cons_of_mem v (List.mem_append_right _ harg))

end BuiltIn

end PageTemplates
