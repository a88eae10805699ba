import PageTemplates.Proofs.Evaluation.Caches
import PageTemplates.Proofs.Rendering.Layers

/-!
# Assignments

`assignTo` parses its target, takes the value to change out of the locals, changes it, and stores it. The value of a target
without steps is only stored. Main statements: what each part does (`run_takeRoot_local`, `run_assign_steps`,
`run_assignTo_of_some`), and a failing assignment leaves every local as it was but the one that it took out, which is lost
(`failed_assignTo`).
-/

namespace PageTemplates

open Emit

namespace Emit

variable {σ α β : Type}

/-- What comes after a computation and only gives a value changes nothing. -/
theorem state_bind_pure (x : Emit σ α) (f : α → β) (s : σ) : ((x >>= fun a => pure (f a)).run s).state = (x.run s).state := by
  cases h : (x.run s).outcome with
  | error fault => rw [Emit.Stable.run_bind_error h]
  | ok a =>
    rw [Emit.Stable.run_bind_ok h]
    rfl

end Emit

/-- Looking a name up changes nothing but what filters remember. -/
theorem Environment.state_lookup (env : Environment) (name : String) (s : Session) :
    ∃ cells, ((ofEval (env.lookup name)).run s).state = { s with engine := { s.engine with cells } } := by
  cases hbound : env.bound? s.scope name with
  | some v =>
    rw [run_lookup_of_bound hbound]
    exact ⟨s.engine.cells, rfl⟩
  | none =>
    rw [run_lookup_of_unbound hbound, callNullary]
    cases hd : env.findFilterOfKind name 0 .value with
    | none => exact ⟨s.engine.cells, rfl⟩
    | some d =>
      cases hb : d.body with
      | context run | block run =>
        simp only [hb]
        exact ⟨s.engine.cells, rfl⟩
      | value run =>
        simp only [hb, ofEval_bind, ofEval_inFilter, ofEval_pure, state_bind_pure]
        exact ⟨s.engine.cells, congrArg Emission.state (run_ofExcept (run env.site.surroundings .null []) s)⟩
      | remembering memory run =>
        simp only [hb, ofEval_bind, ofEval_inFilter, ofEval_pure, state_bind_pure]
        have hrun := congrArg Emission.state (run_callRemembering memory run .null [] s)
        cases hr : run ((Table.get? s.engine.cells memory).getD .null) .null [] with
        | error e =>
          rw [hr] at hrun
          exact ⟨s.engine.cells, hrun⟩
        | ok result =>
          rw [hr] at hrun
          exact ⟨_, hrun⟩

namespace Scoping

variable {env : Environment} {binding : String → Eval (Option Value)} {access : ScopeAccess} {target : AssignTarget}
  {s : Session} {v : Value} {args : List Value}

/-! ## Taking the value to change -/

/-- A local is taken out. -/
theorem run_takeRoot_local {head : String} {root : Value} (h : Table.get? s.scope.locals head = some root) :
    (ofEval (takeRoot access head)).run s = { output := [], outcome := .ok root, state := s.inside (·.removeLocal head) } := by
  simp only [takeRoot, ofEval_bind]
  rw [Emit.Stable.run_bind_ok (x := ofEval Eval.scope) (a := s.scope) rfl]
  simp only [h]
  rfl

/-- A name that is no local is looked up. -/
theorem run_takeRoot_of_none {head : String} (h : Table.get? s.scope.locals head = none) :
    (ofEval (takeRoot access head)).run s =
      (ofEval (access.lookup head) >>= fun found => pure (found.getD .null)).run s := by
  simp only [takeRoot, ofEval_bind]
  rw [Emit.Stable.run_bind_ok (x := ofEval Eval.scope) (a := s.scope) rfl]
  simp only [h, ofEval_bind]
  rfl

/-- Taking a value out changes the scope only if it is that of a local. -/
theorem scope_takeRoot (access : ScopeAccess) (hlookup : access.lookup = env.lookup) (head : String) (s : Session) :
    ((ofEval (takeRoot access head)).run s).state.scope =
      if Table.contains s.scope.locals head then s.scope.removeLocal head else s.scope := by
  unfold Table.contains
  cases h : Table.get? s.scope.locals head with
  | some root =>
    rw [run_takeRoot_local h]
    rfl
  | none =>
    obtain ⟨cells, hstate⟩ := env.state_lookup head s
    rw [run_takeRoot_of_none h, state_bind_pure, hlookup, hstate]
    rfl

/-! ## Assigning -/

/-- A value without a place in it is stored. -/
theorem run_assign_plain (h : target.steps = []) :
    (ofEval (assign access target v)).run s =
      { output := [], outcome := .ok .ignore, state := s.inside (·.setLocal target.head v) } := by
  unfold assign
  rw [if_pos (by simp [h])]
  rfl

/-- What comes of the value that was taken out: it is changed and stored, unless it cannot be changed. -/
def store (target : AssignTarget) (v : Value) (taken : Emission Session Value) : Emission Session FilterOutput :=
  match taken.outcome with
  | .error fault => { output := [], outcome := .error fault, state := taken.state }
  | .ok root =>
    match target.assign root v with
    | .error e => { output := [], outcome := .error (.error e), state := taken.state }
    | .ok changed => { output := [], outcome := .ok .ignore, state := taken.state.inside (·.setLocal target.head changed) }

/-- A value is taken out, changed and stored. -/
theorem run_assign_steps (h : target.steps ≠ []) :
    (ofEval (assign access target v)).run s = store target v ((ofEval (takeRoot access target.head)).run s) := by
  unfold assign store
  rw [if_neg (by simpa using h), ofEval_bind]
  cases htaken : ((ofEval (takeRoot access target.head)).run s).outcome with
  | error fault =>
    rw [Emit.Stable.run_bind_error htaken]
    rfl
  | ok root =>
    rw [Emit.Stable.run_bind_ok htaken]
    cases hassign : target.assign root v with
    | error e => simp only [hassign]; rfl
    | ok changed => simp only [hassign]; rfl

/-! ## The filter -/

/-- What `assignTo` does in an environment. -/
def runAssignTo (env : Environment) (binding : String → Eval (Option Value)) (v : Value) (args : List Value) (s : Session) :
    Emission Session FilterOutput :=
  (ofEval (assignTo { lookup := env.lookup, evaluateBinding := binding } v args)).run s

/-- With caches that tell the truth, the text of a target is parsed. -/
theorem run_parsed_target (hs : s.engine.Truthful) (text : String) :
    ∃ t, (ofEval (parsed .assignTarget text (AssignTarget.parse text))).run s =
        { output := [], outcome := (AssignTarget.parse text).mapError .error, state := t } ∧
      t.scope = s.scope ∧ t.engine.Truthful := by
  obtain ⟨hanswer, hlater⟩ := hs.getOrBuild .assignTarget text
  have hrun := run_parsed .assignTarget text (AssignTarget.parse text) s
  rw [show (s.engine.cache.getOrBuild .assignTarget text (AssignTarget.parse text)).1 = AssignTarget.parse text from hanswer]
    at hrun
  exact ⟨_, hrun, rfl, hlater⟩

/-- The target that the arguments of an assignment name. -/
def target? (args : List Value) : Option AssignTarget :=
  (args.head?.bind Value.text?).bind fun text => (AssignTarget.parse text).toOption

theorem target?_eq_some_iff :
    target? args = some target ↔
      ∃ text, args.head?.bind Value.text? = some text ∧ AssignTarget.parse text = .ok target := by
  unfold target?
  rw [Option.bind_eq_some_iff]
  refine exists_congr fun text => and_congr_right fun _ => ?_
  cases AssignTarget.parse text <;> simp [Except.toOption]

/-- Without a target an assignment fails, and the scope stays as it was. -/
theorem run_assignTo_of_none (env : Environment) (binding : String → Eval (Option Value)) (v : Value)
    (hs : s.engine.Truthful) (h : target? args = none) :
    ∃ e t, runAssignTo env binding v args s = { output := [], outcome := .error (.error e), state := t } ∧
      t.scope = s.scope := by
  unfold runAssignTo assignTo
  cases htext : args.head?.bind Value.text? with
  | none => exact ⟨_, s, rfl, rfl⟩
  | some text =>
    obtain ⟨t, hparsed, hscope, -⟩ := run_parsed_target hs text
    cases hparse : AssignTarget.parse text with
    | ok target =>
      rw [target?_eq_some_iff.2 ⟨text, htext, hparse⟩] at h
      cases h
    | error e =>
      refine ⟨e, t, ?_, hscope⟩
      have houtcome : ((ofEval (parsed .assignTarget text (AssignTarget.parse text))).run s).outcome = .error (.error e) := by
        rw [hparsed, hparse]
        rfl
      simp only [ofEval_bind]
      rw [Emit.Stable.run_bind_error houtcome, hparsed]

/-- With a target an assignment is that to the target. -/
theorem run_assignTo_of_some (env : Environment) (binding : String → Eval (Option Value)) (v : Value)
    (hs : s.engine.Truthful) (h : target? args = some target) :
    ∃ t, runAssignTo env binding v args s =
        (ofEval (assign { lookup := env.lookup, evaluateBinding := binding } target v)).run t ∧
      t.scope = s.scope ∧ t.engine.Truthful := by
  obtain ⟨text, htext, hparse⟩ := target?_eq_some_iff.1 h
  obtain ⟨t, hparsed, hscope, ht⟩ := run_parsed_target hs text
  refine ⟨t, ?_, hscope, ht⟩
  have houtcome : ((ofEval (parsed .assignTarget text (AssignTarget.parse text))).run s).outcome = .ok target := by
    rw [hparsed, hparse]
    rfl
  unfold runAssignTo assignTo
  simp only [htext, ofEval_bind]
  rw [Emit.Stable.run_bind_ok houtcome, hparsed]
  rfl

/-! ## Failures -/

/-- The local that an assignment takes out to change its value: the head of a target with steps, if that is a local. -/
def takenLocal? (s : Scope) (args : List Value) : Option String :=
  match target? args with
  | some target => if !target.steps.isEmpty && Table.contains s.locals target.head then some target.head else none
  | none => none

/-- An assignment that fails leaves what it took out. -/
theorem state_store_of_error {taken : Emission Session Value} {fault : Fault}
    (h : (store target v taken).outcome = .error fault) : (store target v taken).state = taken.state := by
  unfold store at h ⊢
  cases houtcome : taken.outcome with
  | error fault => rfl
  | ok root =>
    rw [houtcome] at h
    cases hassign : target.assign root v with
    | error e => simp only [hassign]
    | ok changed =>
      simp only [hassign] at h
      cases h

/-- A failing assignment leaves the scope as it was without the local that it took out. -/
theorem scope_of_failed (hs : s.engine.Truthful) {fault : Fault}
    (hfailed : (runAssignTo env binding v args s).outcome = .error fault) :
    (runAssignTo env binding v args s).state.scope =
      match takenLocal? s.scope args with
      | some head => s.scope.removeLocal head
      | none => s.scope := by
  unfold takenLocal?
  cases htarget : target? args with
  | none =>
    obtain ⟨e, t, hrun, hscope⟩ := run_assignTo_of_none env binding v hs htarget
    rw [hrun]
    exact hscope
  | some target =>
    obtain ⟨t, hrun, hscope, -⟩ := run_assignTo_of_some env binding v hs htarget
    rw [hrun] at hfailed ⊢
    by_cases hsteps : target.steps = []
    · rw [run_assign_plain hsteps] at hfailed
      cases hfailed
    · rw [run_assign_steps hsteps] at hfailed ⊢
      have htaken := scope_takeRoot { lookup := env.lookup, evaluateBinding := binding } rfl target.head t
      rw [hscope] at htaken
      rw [state_store_of_error hfailed, htaken]
      simp only [List.isEmpty_eq_false_iff.2 hsteps, Bool.not_false, Bool.true_and]
      by_cases hlocal : Table.contains s.scope.locals target.head = true
      · rw [if_pos hlocal, if_pos hlocal]
      · rw [if_neg hlocal, if_neg hlocal]

/-- **Failing assignments.** An assignment that fails leaves every local as it was but the one that it took out to change its
value, and that one is lost: an index may be missing at any step of the target. Nothing changes if the target cannot be parsed,
or if its head is no local. -/
theorem failed_assignTo (env : Environment) (binding : String → Eval (Option Value)) (hs : s.engine.Truthful) (v : Value)
    (args : List Value) {fault : Fault} (hfailed : (runAssignTo env binding v args s).outcome = .error fault) :
    let after := (runAssignTo env binding v args s).state.scope
    (∀ name, takenLocal? s.scope args ≠ some name → Table.get? after.locals name = Table.get? s.scope.locals name) ∧
      (takenLocal? s.scope args = none → after = s.scope) ∧
      ∀ head, takenLocal? s.scope args = some head → after = s.scope.removeLocal head := by
  intro after
  have hscope : after = _ := scope_of_failed hs hfailed
  cases htaken : takenLocal? s.scope args with
  | none =>
    rw [htaken] at hscope
    rw [hscope]
    exact ⟨fun _ _ => rfl, fun _ => rfl, nofun⟩
  | some head =>
    rw [htaken] at hscope
    rw [hscope]
    refine ⟨fun name hname => ?_, nofun, fun head' hhead => ?_⟩
    · have hne : name ≠ head := fun h => hname (congrArg some h.symm)
      exact Table.get?_erase_of_ne s.scope.locals hne
    · obtain rfl : head = head' := Option.some.inj hhead
      rfl

end Scoping

/-- A session with two locals. -/
def localsSession : Session where
  engine := Engine.over (.memory {})
  scope :=
    { Site.pageScope titledPage none with
      locals := [("arr", .array [.int 1, .int 2]), ("total", .object [("net", .int 5)])] }

/-- An assignment to an item that the array does not have. -/
def missingItem : Emission Session FilterOutput :=
  Scoping.runAssignTo { site := plainSite } (fun _ => pure none) (.int 8) [.string "arr[2]"] localsSession

theorem outcome_missingItem :
    missingItem.outcome = .error (.error (.invalidArgument "index 2 is out of range for 'arr'")) := by
  have herror : missingItem.error? = some (.invalidArgument "index 2 is out of range for 'arr'") := by cbv
  rw [Emission.error?_eq_some.1 herror]

/-- The other local stays as it was. -/
theorem other_local_kept :
    (localsSession.engine.Truthful ∧
      missingItem.outcome = .error (.error (.invalidArgument "index 2 is out of range for 'arr'"))) ∧
    Table.get? missingItem.state.scope.locals "total" = some (.object [("net", .int 5)]) := by
  obtain ⟨hkept, -, -⟩ := Scoping.failed_assignTo { site := plainSite } (fun _ => pure none) (truthful_over _) (.int 8)
    [.string "arr[2]"] outcome_missingItem
  have htaken : Scoping.takenLocal? localsSession.scope [.string "arr[2]"] = some "arr" := by cbv
  have hother : Scoping.takenLocal? localsSession.scope [.string "arr[2]"] ≠ some "total" := by
    rw [htaken]
    decide
  refine ⟨⟨truthful_over _, outcome_missingItem⟩, ?_⟩
  rw [missingItem, hkept "total" hother]
  rfl

/-- The array itself is lost. -/
theorem local_lost_by_failure :
    missingItem.outcome = .error (.error (.invalidArgument "index 2 is out of range for 'arr'")) ∧
      Table.get? localsSession.scope.locals "arr" = some (.array [.int 1, .int 2]) ∧
      Table.get? missingItem.state.scope.locals "arr" = none := by
  have hlost : (Table.get? missingItem.state.scope.locals "arr").isNone = true := by cbv
  exact ⟨outcome_missingItem, rfl, Option.isNone_iff_eq_none.1 hlost⟩

end PageTemplates
