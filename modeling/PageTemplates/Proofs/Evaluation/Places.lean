import PageTemplates.Proofs.Evaluation.LazyValues

/-!
# Places inside values

An assignment walks to a place inside a value by the steps of its target. A path is evaluated by steps that are parsed again and
compiled for the value. Both walks lead to the same place. Main statements: a place holds what was assigned to it
(`at_of_assignAt`), nothing assigned brings in an expression (`hasExpression_of_assignAt`), and a walk comes to what its place
holds (`gives_walk`).
-/

namespace PageTemplates

open Emit

/-! ## Places -/

/-- A value is found at steps inside another one. A field that an object does not have is null. -/
inductive Value.At : List AssignStep → Value → Value → Prop
  | here {v : Value} : At [] v v
  | key {name : String} {steps : List AssignStep} {fields : Table Value} {v : Value}
      (inner : At steps ((Table.get? fields name).getD .null) v) : At (.key name :: steps) (.object fields) v
  | index {i : Nat} {steps : List AssignStep} {items : List Value} {item v : Value} (found : items[i]? = some item)
      (inner : At steps item v) : At (.index i :: steps) (.array items) v

namespace Value.At

variable {steps : List AssignStep} {root v : Value}

theorem eq_of_nil (h : At [] root v) : root = v := by
  cases h
  rfl

/-- Nothing but null is found in null. -/
theorem eq_of_isNull (h : At steps root v) (hroot : root.isNull = true) : root = v := by
  cases h with
  | here => rfl
  | key inner | index found inner => cases hroot

end Value.At

namespace AssignTarget

variable {head : String} {steps : List AssignStep} {root changed v : Value}

/-- A place holds what was assigned to it. -/
theorem at_of_assignAt (h : assignAt head steps root v = .ok changed) : Value.At steps changed v := by
  induction steps generalizing root changed with
  | nil =>
    obtain rfl : v = changed := Except.ok.inj h
    exact .here
  | cons step steps ih =>
    cases step with
    | key name =>
      rw [assignAt] at h
      obtain ⟨inner, hinner, h⟩ := Except.bind_eq_ok.1 h
      obtain rfl := Except.ok.inj h
      refine .key ?_
      rw [Table.get?_insert, if_pos rfl]
      exact ih hinner
    | index i =>
      rw [assignAt] at h
      split at h
      · cases h
      · split at h
        · cases h
        · rename_i items _ item hitem
          obtain ⟨inner, hinner, h⟩ := Except.bind_eq_ok.1 h
          obtain rfl := Except.ok.inj h
          obtain ⟨hlt, -⟩ := List.getElem?_eq_some_iff.1 hitem
          exact .index (List.getElem?_set_self hlt) (ih hinner)

end AssignTarget

/-- A binding of a table after a key was bound is that one, or it was there before. -/
theorem Table.mem_of_mem_insert {α : Type} {t : Table α} {key : String} {value : α} {entry : String × α}
    (h : entry ∈ Table.insert t key value) : entry.2 = value ∨ entry ∈ t := by
  induction t with
  | nil =>
    obtain rfl := List.mem_singleton.1 h
    exact Or.inl rfl
  | cons first t ih =>
    obtain ⟨other, old⟩ := first
    rw [insert] at h
    split at h
    · rcases List.mem_cons.1 h with rfl | h
      · exact Or.inl rfl
      · exact Or.inr (List.mem_cons_of_mem _ h)
    · rcases List.mem_cons.1 h with rfl | h
      · exact Or.inr List.mem_cons_self
      · exact (ih h).imp_right (List.mem_cons_of_mem _)

namespace Value

variable {fields : Table Value} {items : List Value}

theorem hasExpression_object : (object fields).hasExpression = false ↔ ∀ field ∈ fields, field.2.hasExpression = false := by
  rw [hasExpression, fieldsHaveExpression_eq_false]

theorem hasExpression_array : (array items).hasExpression = false ↔ ∀ item ∈ items, item.hasExpression = false := by
  rw [hasExpression, anyHasExpression_eq_false]

/-- A field of an object without expressions has none. -/
theorem hasExpression_field (h : ∀ field ∈ fields, field.2.hasExpression = false) (name : String) :
    ((Table.get? fields name).getD .null).hasExpression = false := by
  cases hget : Table.get? fields name with
  | none => rfl
  | some v => exact h _ (Table.mem_of_get? hget)

/-- An object without expressions has none after a field was set to a value without expressions. -/
theorem hasExpression_insert (h : ∀ field ∈ fields, field.2.hasExpression = false) {v : Value} (hv : v.hasExpression = false)
    (name : String) : (object (Table.insert fields name v)).hasExpression = false := by
  refine hasExpression_object.2 fun field hfield => ?_
  rcases Table.mem_of_mem_insert hfield with hnew | hold
  · rw [hnew]
    exact hv
  · exact h field hold

end Value

/-- Assigning a value without expressions brings none in. -/
theorem AssignTarget.hasExpression_of_assignAt {head : String} {steps : List AssignStep} {root changed v : Value}
    (hroot : root.hasExpression = false) (hv : v.hasExpression = false) (h : assignAt head steps root v = .ok changed) :
    changed.hasExpression = false := by
  induction steps generalizing root changed with
  | nil =>
    obtain rfl : v = changed := Except.ok.inj h
    exact hv
  | cons step steps ih =>
    cases step with
    | key name =>
      rw [assignAt] at h
      obtain ⟨inner, hinner, h⟩ := Except.bind_eq_ok.1 h
      obtain rfl := Except.ok.inj h
      have hfields : ∀ field ∈ root.fields?.getD [], field.2.hasExpression = false := by
        cases root with
        | object fields => exact Value.hasExpression_object.1 hroot
        | null | bool b | int i | float x | string s | raw s | array items | expression e => exact nofun
      exact Value.hasExpression_insert hfields (ih (Value.hasExpression_field hfields name) hinner) name
    | index i =>
      cases root with
      | array items =>
        have hitems := Value.hasExpression_array.1 hroot
        simp only [assignAt, Value.items?] at h
        cases hitem : items[i]? with
        | none =>
          rw [hitem] at h
          cases h
        | some item =>
          rw [hitem] at h
          obtain ⟨inner, hinner, h⟩ := Except.bind_eq_ok.1 h
          obtain rfl := Except.ok.inj h
          refine Value.hasExpression_array.2 fun other hother => ?_
          rcases List.mem_or_eq_of_mem_set hother with hother | rfl
          · exact hitems other hother
          · exact ih (hitems item (List.mem_of_getElem? hitem)) hinner
      | null | bool b | int i | float x | string s | raw s | object fields | expression e => cases h

/-! ## Families that give values -/

namespace Emit.Gives

variable {σ α β : Type} {s t u : σ} {a : α} {b : β}

theorem of_run {x : Emit σ α} (h : (x.run s).outcome = .ok a) (ht : (x.run s).state = t) : Gives (fun _ => x) s a t :=
  ⟨x.run s, Yields.of_run rfl (by rw [h]; exact nofun), h, ht⟩

theorem bind {x : Nat → Emit σ α} {f : Nat → α → Emit σ β} (hx : Gives x s a t) (hf : Gives (fun n => f n a) t b u) :
    Gives (fun n => x n >>= f n) s b u := by
  obtain ⟨r, hr, ha, rfl⟩ := hx
  obtain ⟨r', hr', hb, rfl⟩ := hf
  exact ⟨_, hr.bind ha hr', hb, rfl⟩

theorem exists_bind {x : Nat → Emit σ α} {f : Nat → α → Emit σ β} (hx : Gives x s a t)
    (hf : ∃ u, Gives (fun n => f n a) t b u) : ∃ u, Gives (fun n => x n >>= f n) s b u :=
  hf.imp fun _ => hx.bind

/-- If the least bound is too small, counting from the next one makes no difference. -/
theorem of_succ {x : Nat → Emit σ α} (h0 : x 0 = throwFault .exhausted) (h : Gives (fun n => x (n + 1)) s a t) :
    Gives x s a t := by
  obtain ⟨r, hr, ha, ht⟩ := h
  exact ⟨r, (Yields.succ (by rw [h0]; rfl)).1 hr, ha, ht⟩

end Emit.Gives

namespace Environment

variable {env : Environment} {s t : Session} {root v w : Value}

/-- A value without expressions is resolved to itself. -/
theorem gives_resolve_self (env : Environment) (s : Session) (hv : v.hasExpression = false) :
    Gives (fun n => ofEval (env.resolve n v)) s v s := by
  refine .of_succ rfl ?_
  simp only [resolve, hv, Bool.not_false, if_true]
  exact .of_run rfl rfl

theorem gives_evalArgument_literal (env : Environment) (s : Session) (l : Literal) :
    Gives (fun n => ofEval (env.evalArgument n (.literal l))) s (.ofLiteral l) s := by
  refine .of_succ rfl ?_
  simp only [evalArgument, ofEval_bind]
  have hliteral : Gives (fun n => ofEval (env.evalExpression n (.literal l))) s (some (.ofLiteral l)) s := by
    refine .of_succ rfl ?_
    simp only [evalExpression]
    exact .of_run rfl rfl
  refine hliteral.bind (gives_resolve_self env s ?_)
  cases l <;> rfl

end Environment

/-! ## Walking to a place -/

namespace AssignTarget

variable {accessor : Accessor Expression}

theorem step?_eq_key {name : String} (h : step? accessor = some (.key name)) :
    accessor = .member name ∨ accessor = .index (.literal (.string name)) := by
  unfold step? at h
  split at h
  · obtain rfl := AssignStep.key.inj (Option.some.inj h)
    exact Or.inl rfl
  · obtain rfl := AssignStep.key.inj (Option.some.inj h)
    exact Or.inr rfl
  · split at h <;> cases h
  · cases h

theorem step?_eq_index {i : Nat} (h : step? accessor = some (.index i)) :
    ∃ n : Int64, accessor = .index (.literal (.int n)) ∧ 0 ≤ n.toInt ∧ n.toInt.toNat = i := by
  unfold step? at h
  split at h
  · cases h
  · cases h
  · rename_i n
    split at h
    · rename_i hn
      exact ⟨n, rfl, hn, AssignStep.index.inj (Option.some.inj h)⟩
    · cases h
  · cases h

/-- Accessors that stand for no steps are none. -/
theorem eq_nil_of_steps {accessors : List (Accessor Expression)} (h : accessors.mapM step? = some []) : accessors = [] := by
  cases accessors with
  | nil => rfl
  | cons accessor accessors =>
    rw [List.mapM_cons] at h
    obtain ⟨first, -, h⟩ := Option.bind_eq_some_iff.1 h
    obtain ⟨others, -, h⟩ := Option.bind_eq_some_iff.1 h
    cases h

/-- Accessors that stand for steps are one for the first step and others for the rest. -/
theorem exists_of_steps {accessors : List (Accessor Expression)} {step : AssignStep} {steps : List AssignStep}
    (h : accessors.mapM step? = some (step :: steps)) :
    ∃ accessor others, accessors = accessor :: others ∧ step? accessor = some step ∧ others.mapM step? = some steps := by
  cases accessors with
  | nil => cases h
  | cons accessor others =>
    rw [List.mapM_cons] at h
    obtain ⟨first, hfirst, h⟩ := Option.bind_eq_some_iff.1 h
    obtain ⟨rest, hrest, h⟩ := Option.bind_eq_some_iff.1 h
    obtain ⟨rfl, rfl⟩ := List.cons.inj (Option.some.inj h)
    exact ⟨accessor, others, rfl, hfirst, hrest⟩

end AssignTarget

namespace Environment

variable {env : Environment} {root v : Value} {steps : List AssignStep}

/-- The index of an array by a number that is not negative. -/
theorem index_array {items : List Value} {n : Int64} (hn : 0 ≤ n.toInt) :
    (Value.array items).index (.int n) = (items[n.toInt.toNat]?).getD .null := by
  have hint : (Value.int n).int? = some n := rfl
  simp only [Value.index, Value.place?, hint, Option.filter_some, decide_eq_true hn, if_true, Option.map_some, Option.bind_some]

/-- A walk comes to what is found at its steps. The induction is on the place, whose last value may be anything. -/
theorem gives_walk (env : Environment) (s : Session) (hroot : root.hasExpression = false) (hat : root.At steps v)
    {accessors : List (Accessor Expression)} (haccessors : accessors.mapM AssignTarget.step? = some steps) :
    Gives (fun n => ofEval (walk (env.resolve n) (env.evalArgument n) accessors root)) s v s := by
  induction hat generalizing accessors with
  | here =>
    obtain rfl := AssignTarget.eq_nil_of_steps haccessors
    exact gives_resolve_self env s hroot
  | @key name steps fields v inner ih =>
    obtain ⟨accessor, others, rfl, haccessor, hothers⟩ := AssignTarget.exists_of_steps haccessors
    have hinner := ih (Value.hasExpression_field (Value.hasExpression_object.1 hroot) name) hothers
    simp only [walk, ofEval_bind]
    refine (gives_resolve_self env s hroot).bind ?_
    simp only [Value.isNull, Bool.false_eq_true, if_false]
    rcases AssignTarget.step?_eq_key haccessor with rfl | rfl
    · exact hinner
    · simp only [ofEval_bind]
      exact (gives_evalArgument_literal env s _).bind hinner
  | @index i steps items item v found inner ih =>
    obtain ⟨accessor, others, rfl, haccessor, hothers⟩ := AssignTarget.exists_of_steps haccessors
    have hinner := ih (Value.hasExpression_array.1 hroot item (List.mem_of_getElem? found)) hothers
    obtain ⟨n, rfl, hn, rfl⟩ := AssignTarget.step?_eq_index haccessor
    simp only [walk, ofEval_bind]
    refine (gives_resolve_self env s hroot).bind ?_
    simp only [Value.isNull, Bool.false_eq_true, if_false, ofEval_bind]
    refine (gives_evalArgument_literal env s _).bind ?_
    rw [Value.ofLiteral, index_array hn, found]
    exact hinner

/-! ## Evaluating a path -/

/-- A value can take the first step to a place inside it. -/
theorem stepProblem?_eq_none {accessor : Accessor Expression} {step : AssignStep}
    (haccessor : AssignTarget.step? accessor = some step) (hat : root.At (step :: steps) v) :
    Binder.stepProblem? root.kind accessor = none := by
  cases hat with
  | key inner => rfl
  | index found inner =>
    obtain ⟨n, rfl, -, -⟩ := AssignTarget.step?_eq_index haccessor
    rfl

/-- The steps of a place are compiled for a value that has the place. -/
theorem compile_eq (expression : String) {rest : List Char} {accessors : List (Accessor Expression)}
    (hrest : parseSteps rest = .ok accessors) (haccessors : accessors.mapM AssignTarget.step? = some steps)
    (hat : root.At steps v) : Binder.compile root.kind expression (String.ofList rest) = .ok (.walk accessors) := by
  unfold Binder.compile
  rw [String.toList_ofList, hrest]
  cases accessors with
  | nil => rfl
  | cons accessor others =>
    simp only
    cases steps with
    | nil => cases AssignTarget.eq_nil_of_steps haccessors
    | cons step steps =>
      obtain ⟨accessor', others', heq, haccessor, -⟩ := AssignTarget.exists_of_steps haccessors
      obtain ⟨rfl, rfl⟩ := List.cons.inj heq
      rw [stepProblem?_eq_none haccessor hat]

end Environment

namespace AssignTarget

/-- The text of a target without the blanks around it. -/
def path (text : String) : String :=
  String.ofList (Text.trim text.toList)

/-- A target is the head and the steps of its text. -/
theorem parse_eq_ok {text : String} {target : AssignTarget} (h : parse text = .ok target) :
    ∃ rest accessors, splitBinding (path text).toList = (target.head.toList, rest) ∧ parseSteps rest = .ok accessors ∧
      accessors.mapM step? = some target.steps := by
  unfold parse at h
  simp only at h
  split at h
  · cases h
  · split at h
    · cases h
    · rename_i accessors haccessors
      split at h
      · rename_i steps hsteps
        obtain rfl := Except.ok.inj h
        refine ⟨_, accessors, ?_, haccessors, hsteps⟩
        rw [path, String.toList_ofList, String.toList_ofList]
      · cases h

end AssignTarget

end PageTemplates
