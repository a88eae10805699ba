import PageTemplates.Proofs.Evaluation.Places
import PageTemplates.Proofs.Filters.Provenance
import PageTemplates.Proofs.Rendering.Assignments

/-!
# Reading what was assigned

The text of a target is also a path. Main statements: a path gives what is found at its steps in the value of its head
(`gives_evaluateBinding`), so what was assigned is read back (`assigned_is_read`). Assigning a member keeps the other members of
an object, but not those of a lazy value (`siblings_after_assignTo`).
-/

namespace PageTemplates

open Emit

namespace Environment

variable {env : Environment} {root v : Value}

/-- With caches that tell the truth, the part of a path after its head is compiled. -/
theorem gives_binder (hcompiler : env.site.compiler = Binder.compile) {s : Session} (hs : s.engine.Truthful) {kind : ValueKind}
    {expression rest : String} {b : Binder} (h : Binder.compile kind expression rest = .ok b) :
    ∃ t, Gives (fun _ => ofEval (env.binder kind expression rest)) s b t := by
  obtain ⟨hanswer, -⟩ := hs.getOrCompile kind expression rest
  have hrun := run_binder env kind expression rest s
  rw [hcompiler, hanswer, h] at hrun
  exact ⟨_, .of_run (congrArg Emission.outcome hrun) rfl⟩

/-- **Paths.** A path gives what is found at its steps in the value of its head. -/
theorem gives_evaluateBinding (hcompiler : env.site.compiler = Binder.compile) {text : String} {target : AssignTarget}
    (hparse : AssignTarget.parse text = .ok target) {s t : Session} {given : Value}
    (hbound : env.bound? s.scope target.head = some given) (hresolve : Gives (fun n => ofEval (env.resolve n given)) s root t)
    (ht : t.engine.Truthful) (hat : root.At target.steps v) :
    ∃ u, Gives (fun n => ofEval (env.evaluateBinding n (AssignTarget.path text))) s (some v) u := by
  obtain ⟨rest, accessors, hsplit, hrest, haccessors⟩ := AssignTarget.parse_eq_ok hparse
  have hroot : root.hasExpression = false := hresolve.returns fun n => returns_resolve n given
  have hlookup : Gives (fun _ => ofEval (env.lookup (String.ofList target.head.toList))) s (some given) s := by
    have hrun := run_lookup_of_bound hbound
    rw [String.ofList_toList]
    exact .of_run (congrArg Emission.outcome hrun) (congrArg Emission.state hrun)
  suffices h : ∃ u, Gives (fun n => ofEval (env.evaluateBinding (n + 1) (AssignTarget.path text))) s (some v) u from
    h.imp fun _ => .of_succ rfl
  simp only [evaluateBinding, hsplit, ofEval_bind]
  refine hlookup.exists_bind ?_
  simp only [ofEval_bind]
  refine hresolve.exists_bind ?_
  by_cases hdone : (rest.isEmpty || root.isNull) = true
  · -- Nothing is left to do, and there are no steps.
    have hv : root = v := by
      rcases Bool.or_eq_true_iff.1 hdone with hempty | hnull
      · obtain rfl := List.isEmpty_iff.1 hempty
        obtain rfl : [] = accessors := Except.ok.inj hrest
        obtain hnone : [] = target.steps := Option.some.inj haccessors
        rw [← hnone] at hat
        exact hat.eq_of_nil
      · exact hat.eq_of_isNull hnull
    subst hv
    simp only [hdone, if_true]
    exact ⟨t, .of_run rfl rfl⟩
  · simp only [if_neg hdone, ofEval_bind]
    obtain ⟨u, hbinder⟩ := gives_binder hcompiler ht (compile_eq (AssignTarget.path text) hrest haccessors hat)
    refine hbinder.exists_bind ⟨u, ?_⟩
    simp only [ofEval_bind]
    exact (gives_walk env u hroot hat haccessors).bind (.of_run rfl rfl)

end Environment

/-! ## Values of names -/

theorem Emit.run_bind_congr {σ α β : Type} {x y : Emit σ α} {f : α → Emit σ β} {s : σ} (h : x.run s = y.run s) :
    (x >>= f).run s = (y >>= f).run s := by
  change (Emit.bind x f).run s = (Emit.bind y f).run s
  simp only [Emit.bind, h]

namespace BuiltIn

/-- The only built-in value filter without arguments is `now`. -/
theorem name_of_arity_zero : ∀ d ∈ valueFilters, d.arity = 0 → d.name = "now" := by
  decide

end BuiltIn

/-- An environment with the usual compiler of paths, whose filters are built-in ones. -/
structure Environment.Usual (env : Environment) : Prop where
  compiler : env.site.compiler = Binder.compile
  filter : ∀ name arity kind d, env.findFilterOfKind name arity kind = some d → d ∈ BuiltIn.filters

/-- The value filters of such an environment are the built-in ones. -/
theorem Environment.Usual.valueFilter {env : Environment} (h : env.Usual) {name : String} {arity : Nat} {d : FilterDef}
    (hd : env.findFilterOfKind name arity .value = some d) : d ∈ BuiltIn.valueFilters := by
  have hkind : d.kind = .value := (answers_of_findFilterOfKind hd).1
  rcases List.mem_append.1 (h.filter name arity .value d hd) with hmem | hmem
  · rcases List.mem_append.1 hmem with hmem | hmem
    · exact hmem
    · rw [Scoping.kind_of_mem hmem] at hkind
      cases hkind
  · rw [Blocks.kind_of_mem hmem] at hkind
    cases hkind

theorem Environment.Usual.standard {env : Environment} (h : env.Usual) : env.Standard := by
  refine ⟨h.compiler, fun name arity kind d hd => ?_⟩
  rcases List.mem_append.1 (h.filter name arity kind d hd) with hmem | hmem
  · exact (List.mem_append.1 hmem).imp (BuiltIn.kind_of_mem_valueFilters d) Or.inl
  · exact Or.inr (Or.inr hmem)

theorem Environment.Usual.of_defs {env : Environment} (hcompiler : env.site.compiler = Binder.compile)
    (hown : ∀ d ∈ env.filters.defs, d ∈ BuiltIn.filters) (hsite : ∀ d ∈ env.site.filters.defs, d ∈ BuiltIn.filters) :
    env.Usual := by
  refine ⟨hcompiler, fun name arity kind d hd => ?_⟩
  rcases find?_of_findFilterOfKind hd with hd | hd
  · exact hown d (List.mem_of_find?_eq_some hd)
  · exact hsite d (List.mem_of_find?_eq_some hd)

/-- A site with nothing of its own has the built-in filters. -/
theorem usual_plainSite (args : Table Value) : ({ site := plainSite, args } : Environment).Usual :=
  .of_defs rfl nofun fun _ hd => (List.mem_append.1 (mem_of_mem_ofList hd)).elim (absurd · List.not_mem_nil) id

namespace Environment

variable {env : Environment} {s : Session} {v : Value} {name : String}

/-- No value that a scope, a render or a site binds to a name is or holds an expression. -/
structure NoExpressions (env : Environment) (s : Scope) : Prop where
  locals : ∀ entry ∈ s.locals, entry.2.hasExpression = false
  args : ∀ entry ∈ env.args, entry.2.hasExpression = false
  siteArgs : ∀ entry ∈ env.site.args, entry.2.hasExpression = false

theorem NoExpressions.bound? {scope : Scope} (h : env.NoExpressions scope) (hbound : env.bound? scope name = some v) :
    v.hasExpression = false := by
  simp only [Environment.bound?, Option.orElse_eq_or, Option.or_eq_some_iff] at hbound
  rcases hbound with hlocal | ⟨-, harg | ⟨-, hpage | ⟨-, hsite⟩⟩⟩
  · exact h.locals _ (Table.mem_of_get? hlocal)
  · exact h.args _ (Table.mem_of_get? harg)
  · -- The arguments of pages are texts.
    obtain ⟨text, -, rfl⟩ := Option.map_eq_some_iff.1 hpage
    rfl
  · exact h.siteArgs _ (Table.mem_of_get? hsite)

/-- A local just set is what its name means. -/
theorem bound?_setLocal (scope : Scope) : env.bound? (scope.setLocal name v) name = some v := by
  simp [Environment.bound?, Scope.setLocal, Table.get?_insert]

/-- A name that is no local is looked for elsewhere. -/
theorem get?_locals_of_unbound {scope : Scope} (h : env.bound? scope name = none) : Table.get? scope.locals name = none := by
  cases hlocal : Table.get? scope.locals name with
  | none => rfl
  | some w =>
    rw [Environment.bound?, hlocal] at h
    cases h

/-- The built-in value filters that need no arguments give values without expressions. -/
theorem returns_callNullary (henv : env.Usual) (name : String) :
    Returns (fun found : Option Value => (found.getD .null).hasExpression = false) (ofEval (env.callNullary name)) := by
  unfold callNullary
  cases hd : env.findFilterOfKind name 0 .value with
  | none => exact .pure rfl
  | some d =>
    have hmem := henv.valueFilter hd
    have hnow := BuiltIn.name_of_arity_zero d hmem (answers_of_findFilterOfKind hd).2.2
    obtain ⟨run, hrun, hmakes⟩ := BuiltIn.makes_valueFilters hmem (by rw [hnow]; decide) (by rw [hnow]; decide)
    simp only [hrun, ofEval_bind, ofEval_inFilter]
    refine Returns.bind (P := fun w : Value => w.hasExpression = false) (.inFilter name (.ofExceptEval fun w hw => ?_))
      fun w hw => .pure hw
    refine (hmakes _ _ _ w hw).hasExpression_eq_false fun source hsource => ?_
    obtain rfl := List.mem_singleton.1 hsource
    rfl

end Environment

namespace Scoping

variable {env : Environment} {access : ScopeAccess} {binding : String → Eval (Option Value)} {s : Session} {v root : Value}
  {args : List Value} {head : String}

/-- What is taken out is the value of the name. -/
theorem run_takeRoot_of_bound (access : ScopeAccess) (hlookup : access.lookup = env.lookup) (h : env.bound? s.scope head = some root) :
    ∃ t, (ofEval (takeRoot access head)).run s = { output := [], outcome := .ok root, state := t } ∧ t.engine = s.engine := by
  cases hlocal : Table.get? s.scope.locals head with
  | some w =>
    rw [Environment.bound?, hlocal] at h
    obtain rfl : w = root := Option.some.inj h
    exact ⟨_, run_takeRoot_local hlocal, rfl⟩
  | none =>
    have hrun := Environment.run_lookup_of_bound h
    refine ⟨s, ?_, rfl⟩
    rw [run_takeRoot_of_none hlocal, hlookup, Emit.Stable.run_bind_ok (congrArg Emission.outcome hrun), hrun]
    rfl

/-- Taking a value out leaves caches that tell the truth. -/
theorem truthful_takeRoot (hlookup : access.lookup = env.lookup) (hs : s.engine.Truthful) (head : String) :
    ((ofEval (takeRoot access head)).run s).state.engine.Truthful := by
  cases hlocal : Table.get? s.scope.locals head with
  | some w =>
    rw [run_takeRoot_local hlocal]
    exact hs
  | none =>
    obtain ⟨cells, hstate⟩ := env.state_lookup head s
    rw [run_takeRoot_of_none hlocal, state_bind_pure, hlookup, hstate]
    exact hs.of_caches rfl rfl

/-- Where nothing has an expression, what is taken out has none. -/
theorem hasExpression_takeRoot (henv : env.Usual) (hlookup : access.lookup = env.lookup) (hscope : env.NoExpressions s.scope)
    (h : ((ofEval (takeRoot access head)).run s).outcome = .ok root) : root.hasExpression = false := by
  cases hbound : env.bound? s.scope head with
  | some w =>
    obtain ⟨t, hrun, -⟩ := run_takeRoot_of_bound access hlookup hbound
    rw [hrun] at h
    obtain rfl : w = root := Except.ok.inj h
    exact hscope.bound? hbound
  | none =>
    have hreturns : Returns (fun w : Value => w.hasExpression = false)
        (ofEval (env.callNullary head) >>= fun found => pure (found.getD .null)) :=
      (Environment.returns_callNullary henv head).bind fun found hfound => .pure hfound
    refine hreturns s root ?_
    rw [← h, run_takeRoot_of_none (Environment.get?_locals_of_unbound hbound), hlookup,
      run_bind_congr (Environment.run_lookup_of_unbound hbound)]

/-- A stored value is one that was taken out and changed. -/
theorem store_eq_of_ok {target : AssignTarget} {taken : Emission Session Value} {output : FilterOutput}
    (h : (store target v taken).outcome = .ok output) :
    ∃ root changed, taken.outcome = .ok root ∧ target.assign root v = .ok changed ∧
      (store target v taken).state = taken.state.inside (·.setLocal target.head changed) := by
  unfold store at h ⊢
  cases houtcome : taken.outcome with
  | error fault =>
    rw [houtcome] at h
    cases h
  | ok root =>
    rw [houtcome] at h
    cases hassign : target.assign root v with
    | error e =>
      simp only [hassign] at h
      cases h
    | ok changed => exact ⟨root, changed, rfl, hassign, by simp only [hassign]⟩

/-- An assignment that succeeds sets the local of its target to a value in which the place of the target holds what was
assigned. -/
theorem stored_of_ok (henv : env.Usual) (hs : s.engine.Truthful) (hscope : env.NoExpressions s.scope)
    (hv : v.hasExpression = false) {output : FilterOutput} (hok : (runAssignTo env binding v args s).outcome = .ok output) :
    ∃ (target : AssignTarget) (t : Session) (stored : Value), target? args = some target ∧
      (runAssignTo env binding v args s).state = t.inside (·.setLocal target.head stored) ∧ t.engine.Truthful ∧
      stored.hasExpression = false ∧ stored.At target.steps v := by
  cases htarget : target? args with
  | none =>
    obtain ⟨e, t, hrun, -⟩ := run_assignTo_of_none env binding v hs htarget
    rw [hrun] at hok
    cases hok
  | some target =>
    obtain ⟨t, hrun, hsame, ht⟩ := run_assignTo_of_some env binding v hs htarget
    rw [hrun] at hok ⊢
    by_cases hsteps : target.steps = []
    · refine ⟨target, t, v, rfl, ?_, ht, hv, ?_⟩
      · rw [run_assign_plain hsteps]
      · rw [hsteps]
        exact .here
    · rw [run_assign_steps hsteps] at hok ⊢
      obtain ⟨root, changed, hroot, hassign, hstate⟩ := store_eq_of_ok hok
      rw [← hsame] at hscope
      have hevaluated := hasExpression_takeRoot henv rfl hscope hroot
      exact ⟨target, _, changed, rfl, hstate, truthful_takeRoot rfl ht target.head,
        AssignTarget.hasExpression_of_assignAt hevaluated hv hassign, AssignTarget.at_of_assignAt hassign⟩

/-- **Assign, then read.** Where no value that a name can mean has an expression, with the usual compiler of paths and the
built-in filters, a value without expressions that was assigned to a target is what the text of the target gives as a path,
whatever the head of the target meant before. -/
theorem assigned_is_read (henv : env.Usual) (hs : s.engine.Truthful) (hscope : env.NoExpressions s.scope)
    (hv : v.hasExpression = false) {text : String} (hargs : args.head?.bind Value.text? = some text) {output : FilterOutput}
    (hok : (runAssignTo env binding v args s).outcome = .ok output) :
    ∃ t, Gives (fun n => ofEval (env.evaluateBinding n (AssignTarget.path text))) (runAssignTo env binding v args s).state
      (some v) t := by
  obtain ⟨target, t, stored, htarget, hstate, ht, hstored, hat⟩ := stored_of_ok henv hs hscope hv hok
  obtain ⟨text', htext, hparse⟩ := target?_eq_some_iff.1 htarget
  obtain rfl : text' = text := Option.some.inj (htext.symm.trans hargs)
  rw [hstate]
  exact Environment.gives_evaluateBinding henv.compiler hparse (Environment.bound?_setLocal t.scope)
    (Environment.gives_resolve_self env _ hstored) ht hat

end Scoping

/-- An assignment to a member of a member that a local does not have. -/
def grossSum : Emission Session FilterOutput :=
  Scoping.runAssignTo { site := plainSite } (fun _ => pure none) (.int 7) [.string " total['gross'].sum "] localsSession

/-- The path gives what was assigned. -/
theorem gross_sum_read :
    (({ site := plainSite } : Environment).Usual ∧ localsSession.engine.Truthful ∧
      ({ site := plainSite } : Environment).NoExpressions localsSession.scope ∧ (Value.int 7).hasExpression = false ∧
      grossSum.outcome = .ok .ignore) ∧
    ∃ t, Gives (fun n => ofEval (({ site := plainSite } : Environment).evaluateBinding n "total['gross'].sum")) grossSum.state
      (some (.int 7)) t := by
  have husual : ({ site := plainSite } : Environment).Usual := usual_plainSite []
  have hscope : ({ site := plainSite } : Environment).NoExpressions localsSession.scope :=
    ⟨List.forall_mem_cons.2 ⟨rfl, List.forall_mem_singleton.2 rfl⟩, nofun, nofun⟩
  have hok : grossSum.outcome = .ok .ignore := by cbv
  have hpath : AssignTarget.path " total['gross'].sum " = "total['gross'].sum" := rfl
  have htext : ([.string " total['gross'].sum "] : List Value).head?.bind Value.text? = some " total['gross'].sum " := rfl
  have hread := Scoping.assigned_is_read husual (truthful_over _) hscope (v := .int 7) rfl htext hok
  rw [hpath] at hread
  exact ⟨⟨husual, truthful_over _, hscope, rfl, hok⟩, hread⟩

/-! ## Other members -/

namespace Environment

variable {env : Environment}

theorem returns_resolve_fields (fuel : Nat) (fields : Table Value) :
    Returns (fun given : Table Value => ∀ name, ((Table.get? fields name).getD .null).hasExpression = false →
        (Table.get? given name).getD .null = (Table.get? fields name).getD .null)
      (fields.mapM fun field => ofEval (env.resolve fuel field.2) >>= fun v => pure (field.1, v)) := by
  induction fields with
  | nil => exact .pure fun _ _ => rfl
  | cons field fields ih =>
    have hfirst : Returns (fun w : Value => field.2.hasExpression = false → w = field.2) (ofEval (env.resolve fuel field.2)) :=
      fun s w hw hplain => returns_resolve_self fuel hplain s w hw
    rw [List.mapM_cons, bind_assoc]
    refine hfirst.bind fun w hw => ?_
    rw [pure_bind]
    refine ih.bind fun given hgiven => .pure fun name hplain => ?_
    rw [Table.get?_cons] at hplain ⊢
    rw [Table.get?_cons]
    by_cases hname : name = field.1
    · rw [if_pos hname] at hplain ⊢
      rw [if_pos hname, hw hplain]
    · rw [if_neg hname] at hplain ⊢
      rw [if_neg hname]
      exact hgiven name hplain

/-- Resolving an object leaves the fields without expressions. -/
theorem returns_resolve_object (fuel : Nat) (fields : Table Value) :
    Returns (fun w : Value => ∃ given, w = .object given ∧ ∀ name,
        ((Table.get? fields name).getD .null).hasExpression = false →
          (Table.get? given name).getD .null = (Table.get? fields name).getD .null)
      (ofEval (env.resolve fuel (.object fields))) := by
  cases fuel with
  | zero => exact .throwFault _
  | succ fuel =>
    rw [Environment.resolve]
    cases hfields : (Value.object fields).hasExpression with
    | false => exact .pure ⟨fields, rfl, fun _ _ => rfl⟩
    | true =>
      simp only [Bool.not_true, Bool.false_eq_true, if_false, ofEval_bind, ofEval_attempt, ofEval_resume]
      refine .after fun _ => Returns.bind (.attempt ?_) fun outcome houtcome => .after fun _ => .resume houtcome
      cases fuel with
      | zero => exact .throwFault _
      | succ fuel =>
        simp only [Environment.resolveNested, ofEval_bind, ofEval_mapM]
        exact (returns_resolve_fields fuel fields).bind fun given hgiven => .pure ⟨given, rfl, hgiven⟩

end Environment

namespace Scoping

variable {env : Environment} {s : Session} {given : Value} {args : List Value} {head name : String}

/-- A member is assigned to the object that the head means, and to an empty one if it means no object. A lazy value is none: it
is not evaluated. -/
theorem run_assignTo_member (binding : String → Eval (Option Value)) (v : Value) (hs : s.engine.Truthful)
    (htarget : target? args = some { head, steps := [.key name] }) (hbound : env.bound? s.scope head = some given) :
    ∃ t : Session, runAssignTo env binding v args s =
        { output := [], outcome := .ok .ignore
          state := t.inside (·.setLocal head (.object (Table.insert (given.fields?.getD []) name v))) } ∧
      t.engine.Truthful := by
  obtain ⟨t, hrun, hscope, ht⟩ := run_assignTo_of_some env binding v hs htarget
  obtain ⟨u, htaken, hengine⟩ :=
    run_takeRoot_of_bound { lookup := env.lookup, evaluateBinding := binding } rfl (hscope ▸ hbound)
  refine ⟨u, ?_, hengine ▸ ht⟩
  rw [hrun, run_assign_steps (by simp), htaken]
  rfl

/-- **Siblings.** The head of a target with one member means an object without expressions or a lazy value that is evaluated to
an object. Assigning to the target succeeds. If the head can be evaluated then, as it can be after a value without expressions
was assigned, the other members of an object are what they were. Those of a lazy value are lost: it is not evaluated before the
assignment but replaced, so they are null. -/
theorem siblings_after_assignTo (binding : String → Eval (Option Value)) (v : Value) (henv : env.Ordinary)
    (hs : s.engine.Truthful) (htarget : target? args = some { head, steps := [.key name] })
    (hbound : env.bound? s.scope head = some given) (hgiven : given.hasExpression = false ∨ ∃ e, given = .expression e)
    {fields : Table Value} {t : Session} (hobject : Gives (fun n => ofEval (env.resolve n given)) s (.object fields) t) :
    let after := (runAssignTo env binding v args s).state
    (runAssignTo env binding v args s).outcome = .ok .ignore ∧
      ∃ stored, env.bound? after.scope head = some stored ∧
        (v.hasExpression = false → Gives (fun n => ofEval (env.resolve n stored)) after stored after) ∧
        ∀ root u, Gives (fun n => ofEval (env.resolve n stored)) after root u →
          ∀ path other, AssignTarget.parse path = .ok { head, steps := [.key other] } → other ≠ name →
            (∃ t, Gives (fun n => ofEval (env.evaluateBinding n (AssignTarget.path path))) s
              (some ((Table.get? fields other).getD .null)) t) ∧
            ∃ t, Gives (fun n => ofEval (env.evaluateBinding n (AssignTarget.path path))) after
              (some (if given.hasExpression then .null else (Table.get? fields other).getD .null)) t := by
  obtain ⟨t', hrun, ht'⟩ := run_assignTo_member binding v hs htarget hbound
  rw [hrun]
  -- What the fields were, and what is stored over them.
  have hold : (∀ field ∈ given.fields?.getD [], field.2.hasExpression = false) ∧
      ∀ other, (Table.get? (given.fields?.getD []) other).getD .null =
        if given.hasExpression then .null else (Table.get? fields other).getD .null := by
    rcases hgiven with hplain | ⟨e, rfl⟩
    · obtain rfl : Value.object fields = given := hobject.returns fun n => Environment.returns_resolve_self n hplain
      rw [hplain]
      exact ⟨Value.hasExpression_object.1 hplain, fun _ => rfl⟩
    · exact ⟨nofun, fun _ => rfl⟩
  have hsteady : ∀ n value, Emit.Steady Engine.Truthful (ofEval (env.resolve n value)) := fun n =>
    (Environment.steadyAt henv.settling_truthful.maintains n).resolve
  refine ⟨rfl, _, Environment.bound?_setLocal t'.scope, fun hv => ?_, fun root u hroot path other hpath hother => ⟨?_, ?_⟩⟩
  · exact Environment.gives_resolve_self env _ (Value.hasExpression_insert hold.1 hv name)
  · exact Environment.gives_evaluateBinding henv.compiler hpath hbound hobject ((hobject.steady (hsteady · given)).engine hs)
      (.key .here)
  · obtain ⟨now, rfl, hnow⟩ := hroot.returns fun n => Environment.returns_resolve_object n _
    have hkept := hnow other
    rw [Table.get?_insert, if_neg hother] at hkept
    have hfield := hkept (Value.hasExpression_field hold.1 other)
    rw [hold.2 other] at hfield
    refine Environment.gives_evaluateBinding henv.compiler hpath (Environment.bound?_setLocal t'.scope) hroot
      ((hroot.steady (hsteady · _)).engine ht') (.key ?_)
    rw [hfield]
    exact .here

end Scoping

/-- A render in which one name means an object and another one the same object as a lazy value. -/
def visitorEnvironment : Environment where
  site := plainSite
  args :=
    [("visitor", .object [("name", .string "Ada"), ("age", .int 36)]),
     ("user", .expression (.object [("name", .literal (.string "Ada")), ("age", .literal (.int 36))]))]

/-- An assignment to a member of one of them. -/
def birthday (target : String) : Emission Session FilterOutput :=
  Scoping.runAssignTo visitorEnvironment (fun _ => pure none) (.int 37) [.string target] localsSession

/-- The object keeps its other member. -/
theorem name_of_visitor_kept :
    (visitorEnvironment.Ordinary ∧ localsSession.engine.Truthful ∧
      Scoping.target? [.string "visitor.age"] = some { head := "visitor", steps := [.key "age"] } ∧
      visitorEnvironment.bound? localsSession.scope "visitor" = some (.object [("name", .string "Ada"), ("age", .int 36)]) ∧
      AssignTarget.parse "visitor.name" = .ok { head := "visitor", steps := [.key "name"] }) ∧
    ∃ t, Gives (fun n => ofEval (visitorEnvironment.evaluateBinding n "visitor.name")) (birthday "visitor.age").state
      (some (.string "Ada")) t := by
  have henv : visitorEnvironment.Ordinary := (usual_plainSite visitorEnvironment.args).standard.ordinary
  have htarget : Scoping.target? [.string "visitor.age"] = some { head := "visitor", steps := [.key "age"] } := by cbv
  have hbound : visitorEnvironment.bound? localsSession.scope "visitor" =
      some (.object [("name", .string "Ada"), ("age", .int 36)]) := by cbv
  have hpath : AssignTarget.parse "visitor.name" = .ok { head := "visitor", steps := [.key "name"] } := rfl
  have htext : AssignTarget.path "visitor.name" = "visitor.name" := rfl
  obtain ⟨-, stored, -, hself, hsiblings⟩ := Scoping.siblings_after_assignTo (fun _ => pure none) (.int 37)
    henv (truthful_over _) htarget hbound (.inl rfl) (Environment.gives_resolve_self _ _ rfl)
  obtain ⟨-, hafter⟩ := hsiblings stored _ (hself rfl) "visitor.name" "name" hpath (by decide)
  rw [htext] at hafter
  exact ⟨⟨henv, truthful_over _, htarget, hbound, hpath⟩, hafter⟩

/-- The lazy value loses it. -/
theorem name_of_user_lost :
    ((ofEval (visitorEnvironment.evaluateBinding 9 "user.name")).run localsSession).outcome = .ok (some (.string "Ada")) ∧
      (birthday "user.age").outcome = .ok .ignore ∧
      ((ofEval (visitorEnvironment.evaluateBinding 9 "user.name")).run (birthday "user.age").state).outcome =
        .ok (some .null) :=
  ⟨by cbv, by cbv, by cbv⟩

end PageTemplates
