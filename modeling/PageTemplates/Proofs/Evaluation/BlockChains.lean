import PageTemplates.Proofs.Evaluation.NestedCalls

/-!
# Stages after a block filter

The output of a block filter is kept in a buffer that the stages after it change one by one. Main statements: a stage that takes
one buffer to another is followed by the stages after it (`run_writeChain_cons`), so a chain of them leads from the output of the
block filter to what is written (`run_writeChain_eq_ok_iff`). If a transformer comes last, a chain writes all of that or
nothing, and a chain that comes to a stage that is neither a block filter nor a transformer fails and writes nothing
(`evaluatePipeline_chain`).
-/

namespace PageTemplates

namespace Emit

variable {σ α β : Type}

/-! ## Runs -/

/-- What comes after a part that wrote nothing and gave a value is all that is left of a run. -/
theorem run_bind_of_ok {x : Emit σ α} {f : α → Emit σ β} {s t : σ} {a : α}
    (h : x.run s = { output := [], outcome := .ok a, state := t }) : (x >>= f).run s = (f a).run t := by
  rw [Stable.run_bind_ok (a := a) (by rw [h]), h]
  rfl

/-- Nothing comes after a part that failed. -/
theorem run_bind_of_error {x : Emit σ α} {f : α → Emit σ β} {s t : σ} {output : Bytes} {fault : Fault}
    (h : x.run s = { output, outcome := .error fault, state := t }) :
    (x >>= f).run s = { output, outcome := .error fault, state := t } := by
  rw [Stable.run_bind_error (congrArg Emission.outcome h), h]

/-- A run of two parts that gave a value is one run after the other. -/
theorem exists_of_run_bind {x : Emit σ α} {f : α → Emit σ β} {s u : σ} {output : Bytes} {b : β}
    (h : (x >>= f).run s = { output, outcome := .ok b, state := u }) :
    ∃ first a t second, x.run s = { output := first, outcome := .ok a, state := t } ∧
      (f a).run t = { output := second, outcome := .ok b, state := u } ∧ output = first ++ second := by
  obtain ⟨first, outcome, t, hx⟩ : ∃ o r t, x.run s = { output := o, outcome := r, state := t } := ⟨_, _, _, rfl⟩
  cases outcome with
  | error fault =>
    rw [run_bind_of_error hx] at h
    simp at h
  | ok a =>
    rw [Stable.run_bind_ok (a := a) (by rw [hx]), hx] at h
    simp only [Emission.mk.injEq] at h
    obtain ⟨rfl, houtcome, rfl⟩ := h
    exact ⟨first, a, t, ((f a).run t).output, hx, by rw [← houtcome], rfl⟩

theorem run_inFilter_eq_ok_iff {name : String} {x : Emit σ α} {s t : σ} {output : Bytes} {a : α} :
    (inFilter name x).run s = { output, outcome := .ok a, state := t } ↔
      x.run s = { output, outcome := .ok a, state := t } := by
  simp only [inFilter]
  obtain ⟨first, outcome, u⟩ := x.run s
  cases outcome with
  | error fault => constructor <;> intro h <;> cases congrArg Emission.outcome h
  | ok b => exact Iff.rfl

theorem run_capture_eq_ok_iff {x : Emit σ α} {s t : σ} {output buffer : Bytes} {a : α} :
    (capture x).run s = { output, outcome := .ok (a, buffer), state := t } ↔
      output = [] ∧ x.run s = { output := buffer, outcome := .ok a, state := t } := by
  simp only [capture]
  obtain ⟨first, outcome, u⟩ := x.run s
  cases outcome with
  | error fault => simp [Except.map]
  | ok b =>
    simp only [Except.map, Emission.mk.injEq, Except.ok.injEq, Prod.mk.injEq]
    constructor
    · rintro ⟨rfl, ⟨rfl, rfl⟩, rfl⟩
      exact ⟨rfl, rfl, rfl, rfl⟩
    · rintro ⟨rfl, rfl, rfl, rfl⟩
      exact ⟨rfl, ⟨rfl, rfl⟩, rfl⟩

/-! ## Failures that write nothing -/

/-- A computation that writes nothing. -/
def Silent (x : Emit σ α) : Prop :=
  ∀ s, (x.run s).output = []

/-- A computation that writes nothing if it fails. -/
def AllOrNothing (x : Emit σ α) : Prop :=
  ∀ s fault, (x.run s).outcome = .error fault → (x.run s).output = []

theorem silent_ofEval (x : Eval α) : Silent (ofEval x) :=
  fun _ => rfl

theorem silent_ofExcept (r : Except TemplateError α) : Silent (ofExcept r : Emit σ α) := by
  cases r <;> exact fun _ => rfl

theorem silent_capture (x : Emit σ α) : Silent (capture x) :=
  fun _ => rfl

theorem Silent.allOrNothing {x : Emit σ α} (h : Silent x) : AllOrNothing x :=
  fun s _ _ => h s

theorem allOrNothing_write (bytes : Bytes) : AllOrNothing (write bytes : Emit σ Unit) :=
  fun _ _ h => nomatch h

/-- What a silent part is followed by decides. -/
theorem Silent.bind {x : Emit σ α} {f : α → Emit σ β} (hx : Silent x) (hf : ∀ a, AllOrNothing (f a)) :
    AllOrNothing (x >>= f) := by
  intro s fault h
  cases houtcome : (x.run s).outcome with
  | error e =>
    rw [Stable.run_bind_error houtcome]
    exact hx s
  | ok a =>
    rw [Stable.run_bind_ok houtcome] at h ⊢
    simp only [hx s, List.nil_append]
    exact hf a _ fault h

end Emit

namespace Environment

variable {env : Environment} {fuel : Nat} {access : BlockAccess}

/-! ## Kinds of stages -/

/-- A stage has no block filter of its name and number of values. -/
def NoBlockFilter (env : Environment) (stage : Stage) : Prop :=
  env.findFilterOfKind stage.name stage.arity .block = none

/-- A stage names nothing that output can go through. -/
def Unknown (env : Environment) (stage : Stage) : Prop :=
  env.NoBlockFilter stage ∧ Table.get? env.transformers stage.name = none ∧
    Table.get? env.site.transformers stage.name = none

theorem blockFilter?_eq_some_iff {stage : Stage} {run : BlockAccess → Value → List Value → Emit Session Unit} :
    env.blockFilter? stage = some run ↔
      ∃ d, env.findFilterOfKind stage.name stage.arity .block = some d ∧ d.body = .block run := by
  unfold blockFilter?
  constructor
  · intro h
    split at h
    · rename_i name arity params unknown run' hd
      obtain rfl := Option.some.inj h
      exact ⟨_, hd, rfl⟩
    · simp at h
  · rintro ⟨⟨name, arity, params, unknown, body⟩, hd, rfl⟩
    rw [hd]

theorem blockFilter?_eq_none_iff {stage : Stage} : env.blockFilter? stage = none ↔ env.NoBlockFilter stage := by
  constructor
  · intro h
    cases hd : env.findFilterOfKind stage.name stage.arity .block with
    | none => exact hd
    | some d =>
      have hkind : d.body.kind = .block := (answers_of_findFilterOfKind hd).1
      cases hbody : d.body with
      | block run => exact absurd (h.symm.trans (blockFilter?_eq_some_iff.2 ⟨d, hd, hbody⟩)) nofun
      | value run => simp [hbody, FilterBody.kind] at hkind
      | remembering memory run => simp [hbody, FilterBody.kind] at hkind
      | context run => simp [hbody, FilterBody.kind] at hkind
  · intro h
    unfold blockFilter?
    rw [show env.findFilterOfKind stage.name stage.arity .block = none from h]

theorem transformer?_eq (name : String) :
    env.transformer? name = (Table.get? env.transformers name).or (Table.get? env.site.transformers name) := by
  unfold transformer?
  cases Table.get? env.transformers name <;> rfl

/-! ## One stage -/

/-- The block filter of a stage, called with a value in a session, writes a buffer and leaves another session. -/
def BlockWrites (env : Environment) (fuel : Nat) (access : BlockAccess) (stage : Stage)
    (run : BlockAccess → Value → List Value → Emit Session Unit) (v : Value) (s : Session) (buffer : Bytes) (t : Session) :
    Prop :=
  ∃ args u, (env.stageArgs fuel stage).run s = { output := [], outcome := .ok args, state := u } ∧
    (run access v args).run u = { output := buffer, outcome := .ok (), state := t }

/-- A stage takes one buffer to the next: a block filter gets the buffer as its value and writes the next one, and any other
stage is the transformer of its name, that of the render before that of the site. -/
inductive PassesStage (env : Environment) (fuel : Nat) (access : BlockAccess) (stage : Stage) :
    Bytes → Session → Bytes → Session → Prop where
  | block {buffer next d run text s t} (found : env.findFilterOfKind stage.name stage.arity .block = some d)
      (body : d.body = .block run) (decoded : Utf8.decode buffer = .ok text)
      (writes : env.BlockWrites fuel access stage run (.string text) s next t) :
      PassesStage env fuel access stage buffer s next t
  | transformer {buffer next transform s} (other : env.NoBlockFilter stage)
      (found : (Table.get? env.transformers stage.name).or (Table.get? env.site.transformers stage.name) = some transform)
      (transformed : transform buffer = .ok next) :
      PassesStage env fuel access stage buffer s next s

/-- Stages take one buffer to another, one after the other. -/
inductive Passes (env : Environment) (fuel : Nat) (access : BlockAccess) :
    Bytes → Session → List Stage → Bytes → Session → Prop where
  | done {buffer s} : Passes env fuel access buffer s [] buffer s
  | stage {buffer next result stage stages s t u} (step : env.PassesStage fuel access stage buffer s next t)
      (more : Passes env fuel access next t stages result u) :
      Passes env fuel access buffer s (stage :: stages) result u

/-- A block filter that writes a buffer is followed by the stages after it, if there are any. -/
theorem run_passOn {stage : Stage} {run : BlockAccess → Value → List Value → Emit Session Unit} {v : Value} {buffer : Bytes}
    {s t : Session} (h : env.BlockWrites fuel access stage run v s buffer t) (stages : List Stage) :
    (env.stageArgs fuel stage >>= fun args =>
        env.passOn fuel access (Emit.inFilter stage.name (run access v args)) stages).run s =
      (env.writeChain fuel access buffer stages).run t := by
  obtain ⟨args, u, hargs, hrun⟩ := h
  have hwrite : (Emit.inFilter stage.name (run access v args)).run u = { output := buffer, outcome := .ok (), state := t } :=
    Emit.run_inFilter_eq_ok_iff.2 hrun
  rw [Emit.run_bind_of_ok hargs, passOn]
  cases stages with
  | nil => exact hwrite
  | cons next stages =>
    have hcapture : (Emit.capture (Emit.inFilter stage.name (run access v args))).run u =
        { output := [], outcome := .ok ((), buffer), state := t } := Emit.run_capture_eq_ok_iff.2 ⟨rfl, hwrite⟩
    simp only [List.isEmpty_cons, if_false, Bool.false_eq_true]
    rw [Emit.run_bind_of_ok hcapture]

/-- If what a block filter is followed by comes to an end, the block filter wrote a buffer for it. -/
theorem exists_of_run_passOn {stage : Stage} {run : BlockAccess → Value → List Value → Emit Session Unit} {v : Value}
    {output : Bytes} {s u : Session} {stages : List Stage}
    (h : (env.stageArgs fuel stage >>= fun args =>
        env.passOn fuel access (Emit.inFilter stage.name (run access v args)) stages).run s =
      { output, outcome := .ok (), state := u }) :
    ∃ buffer t, env.BlockWrites fuel access stage run v s buffer t ∧
      (env.writeChain fuel access buffer stages).run t = { output, outcome := .ok (), state := u } := by
  obtain ⟨o, args, s', o', hargs, hpass, rfl⟩ := Emit.exists_of_run_bind h
  obtain rfl : o = [] := by
    have := Emit.silent_ofEval (stage.args.mapM (env.evalArgument fuel)) s
    rw [show Emit.ofEval (stage.args.mapM (env.evalArgument fuel)) = env.stageArgs fuel stage from rfl, hargs] at this
    exact this
  cases stages with
  | nil =>
    have hrun := Emit.run_inFilter_eq_ok_iff.1 hpass
    exact ⟨o', u, ⟨args, s', hargs, hrun⟩, rfl⟩
  | cons next stages =>
    obtain ⟨o₁, ⟨⟨⟩, buffer⟩, t, o₂, hcapture, hchain, rfl⟩ := Emit.exists_of_run_bind hpass
    obtain ⟨rfl, hwrite⟩ := Emit.run_capture_eq_ok_iff.1 hcapture
    exact ⟨buffer, t, ⟨args, s', hargs, Emit.run_inFilter_eq_ok_iff.1 hwrite⟩, hchain⟩

theorem run_ofExcept_ok {α : Type} (a : α) (s : Session) :
    (Emit.ofExcept (.ok a) : Emit Session α).run s = { output := [], outcome := .ok a, state := s } := rfl

/-- A stage that takes a buffer to the next is followed by the stages after it. -/
theorem run_writeChain_cons {stage : Stage} {buffer next : Bytes} {s t : Session}
    (h : env.PassesStage fuel access stage buffer s next t) (stages : List Stage) :
    (env.writeChain fuel access buffer (stage :: stages)).run s = (env.writeChain fuel access next stages).run t := by
  cases h with
  | @block _ d run text _ _ found body decoded writes =>
    rw [writeChain_block env fuel access (blockFilter?_eq_some_iff.2 ⟨d, found, body⟩), decoded]
    exact (Emit.run_bind_of_ok (run_ofExcept_ok text s)).trans (run_passOn writes stages)
  | @transformer _ transform _ other found transformed =>
    rw [writeChain_transformer env fuel access (blockFilter?_eq_none_iff.2 other), transformer?_eq, found]
    simp only [transformed]
    exact Emit.run_bind_of_ok (run_ofExcept_ok next s)

/-- If a chain comes to an end, its first stage takes the buffer to one with which the rest comes to that end. -/
theorem exists_of_run_writeChain_cons {stage : Stage} {stages : List Stage} {buffer output : Bytes} {s u : Session}
    (h : (env.writeChain fuel access buffer (stage :: stages)).run s = { output, outcome := .ok (), state := u }) :
    ∃ next t, env.PassesStage fuel access stage buffer s next t ∧
      (env.writeChain fuel access next stages).run t = { output, outcome := .ok (), state := u } := by
  cases hblock : env.blockFilter? stage with
  | some run =>
    obtain ⟨d, hd, hbody⟩ := blockFilter?_eq_some_iff.1 hblock
    rw [writeChain_block env fuel access hblock] at h
    cases hdecode : Utf8.decode buffer with
    | error fault =>
      rw [hdecode] at h
      cases h
    | ok text =>
      rw [hdecode] at h
      have hrun := (Emit.run_bind_of_ok (run_ofExcept_ok text s)).symm.trans h
      obtain ⟨next, t, hwrites, hchain⟩ := exists_of_run_passOn hrun
      exact ⟨next, t, .block hd hbody hdecode hwrites, hchain⟩
  | none =>
    have hother := blockFilter?_eq_none_iff.1 hblock
    rw [writeChain_transformer env fuel access hblock, transformer?_eq] at h
    split at h
    · rename_i transform hfound
      cases htransform : transform buffer with
      | error e =>
        rw [htransform] at h
        cases h
      | ok next =>
        rw [htransform] at h
        have hrun := (Emit.run_bind_of_ok (run_ofExcept_ok next s)).symm.trans h
        exact ⟨next, s, .transformer hother hfound htransform, hrun⟩
    · cases h

/-- A stage that names nothing ends a chain. -/
theorem run_writeChain_unknown {stage : Stage} (h : env.Unknown stage) (stages : List Stage) (buffer : Bytes) (s : Session) :
    (env.writeChain fuel access buffer (stage :: stages)).run s =
      { output := [], outcome := .error (.error (.transformerNotFound stage.name)), state := s } := by
  rw [writeChain_transformer env fuel access (blockFilter?_eq_none_iff.2 h.1), transformer?_eq, h.2.1, h.2.2]
  rfl

/-! ## The chain -/

/-- A part of a chain that takes a buffer to another is followed by the rest of the chain. -/
theorem run_writeChain_append {before : List Stage} {buffer next : Bytes} {s t : Session}
    (h : env.Passes fuel access buffer s before next t) (rest : List Stage) :
    (env.writeChain fuel access buffer (before ++ rest)).run s = (env.writeChain fuel access next rest).run t := by
  induction h with
  | done => rfl
  | stage step more ih => exact (run_writeChain_cons step _).trans ih

/-- A chain writes what its stages take the buffer to, and comes to no end in any other way. -/
theorem run_writeChain_eq_ok_iff {stages : List Stage} {buffer output : Bytes} {s u : Session} :
    (env.writeChain fuel access buffer stages).run s = { output, outcome := .ok (), state := u } ↔
      env.Passes fuel access buffer s stages output u := by
  constructor
  · intro h
    induction stages generalizing buffer s with
    | nil =>
      obtain ⟨rfl, -, rfl⟩ := Emission.mk.inj h
      exact .done
    | cons stage stages ih =>
      obtain ⟨next, t, hstep, hchain⟩ := exists_of_run_writeChain_cons h
      exact .stage hstep (ih hchain)
  · intro h
    have hrun := run_writeChain_append h []
    rw [List.append_nil] at hrun
    exact hrun

/-- What a block filter is followed by writes nothing on failure, if that holds of the chain and there is one. -/
theorem allOrNothing_passOn (writing : Emit Session Unit) {stages : List Stage} (hne : stages ≠ [])
    (h : ∀ buffer, Emit.AllOrNothing (env.writeChain fuel access buffer stages)) :
    Emit.AllOrNothing (env.passOn fuel access writing stages) := by
  have hempty : stages.isEmpty = false := by simpa using hne
  simp only [passOn, hempty, if_false, Bool.false_eq_true]
  exact (Emit.silent_capture writing).bind fun next => h next.2

/-- A chain writes nothing on failure, unless its last stage is a block filter. -/
theorem allOrNothing_writeChain {stages : List Stage} (hlast : ∀ last ∈ stages.getLast?, env.NoBlockFilter last)
    (buffer : Bytes) : Emit.AllOrNothing (env.writeChain fuel access buffer stages) := by
  induction stages generalizing buffer with
  | nil => exact Emit.allOrNothing_write buffer
  | cons stage stages ih =>
    have hrest : ∀ last ∈ stages.getLast?, env.NoBlockFilter last := by
      intro last hmem
      exact hlast last (by rw [List.getLast?_cons, Option.mem_def.1 hmem]; rfl)
    cases hblock : env.blockFilter? stage with
    | some run =>
      have hne : stages ≠ [] := by
        rintro rfl
        have hnone := blockFilter?_eq_none_iff.2 (hlast stage rfl)
        exact nomatch hblock.symm.trans hnone
      rw [writeChain_block env fuel access hblock]
      refine (Emit.silent_ofExcept _).bind fun text => (Emit.silent_ofEval _).bind fun args => ?_
      exact allOrNothing_passOn _ hne (ih hrest)
    | none =>
      rw [writeChain_transformer env fuel access hblock]
      split
      · exact (Emit.silent_ofExcept _).bind fun next => ih hrest next
      · exact Emit.Silent.allOrNothing fun _ => rfl

/-! ## Pipelines that come to a block filter -/

/-- A pipeline comes to its later stages with a value: it has one, and the stages before them take it to this one. -/
def ComesToStages (env : Environment) (fuel : Nat) (access : BlockAccess) (initial : Expression)
    (calls : List (FilterCall Expression)) (s : Session) (later : List Stage) (v : Value) (t : Session) : Prop :=
  ∃ first before base u, env.start? initial calls = some (first, before ++ later) ∧
    (env.entryValue fuel first (before ++ later)).run s = { output := [], outcome := .ok (some base), state := u } ∧
    (env.runStages fuel access 0 before base).run u = { output := [], outcome := .ok (.value v), state := t }

/-- Stages that give a value are followed by the stages after them. -/
theorem run_runStages_append {before : List Stage} {position : Nat} {v w : Value} {s t : Session}
    (h : (env.runStages fuel access position before v).run s = { output := [], outcome := .ok (.value w), state := t })
    (later : List Stage) :
    (env.runStages fuel access position (before ++ later) v).run s =
      (env.runStages fuel access (position + before.length) later w).run t := by
  induction before generalizing position v s with
  | nil =>
    obtain ⟨-, hw, rfl⟩ := Emission.mk.inj h
    obtain rfl : v = w := Outcome.value.inj (Except.ok.inj hw)
    rfl
  | cons stage before ih =>
    by_cases hblock : env.IsBlock stage
    · -- A block filter leaves no value.
      obtain ⟨d, run, hd, hrun⟩ := hblock
      rw [runStages_block env fuel access hd hrun, ← bind_assoc] at h
      obtain ⟨_, _, _, _, -, hwritten, -⟩ := Emit.exists_of_run_bind h
      cases hwritten
    · rw [runStages_cons env fuel access hblock] at h
      obtain ⟨o, outcome, s', o', hstage, hmore, houtput⟩ := Emit.exists_of_run_bind h
      obtain ⟨rfl, rfl⟩ := List.append_eq_nil_iff.1 houtput.symm
      rw [List.cons_append, runStages_cons env fuel access hblock, Emit.run_bind_of_ok hstage]
      cases outcome with
      | value w' =>
        have hrest := ih hmore
        simp only [hrest, List.length_cons, Nat.add_assoc, Nat.add_comm 1]
      | ignored => cases hmore
      | unhandled => cases hmore
      | written => cases hmore

/-- A pipeline goes on with the stages that it comes to. -/
theorem run_evaluatePipeline_of_comesToStages {initial : Expression} {calls : List (FilterCall Expression)} {later : List Stage}
    {v : Value} {s t : Session} (h : env.ComesToStages fuel access initial calls s later v t) :
    ∃ position, (env.evaluatePipeline fuel access initial calls).run s = (env.runStages fuel access position later v).run t := by
  obtain ⟨first, before, base, u, hstart, hbase, hbefore⟩ := h
  refine ⟨0 + before.length, ?_⟩
  rw [evaluatePipeline_eq, hstart]
  exact (Emit.run_bind_of_ok hbase).trans (run_runStages_append hbefore later)

/-- The block filter of a stage writes a buffer that stages take to another one. -/
def Chained (env : Environment) (fuel : Nat) (access : BlockAccess) (stage : Stage)
    (run : BlockAccess → Value → List Value → Emit Session Unit) (v : Value) (s : Session) (stages : List Stage)
    (output : Bytes) (u : Session) : Prop :=
  ∃ buffer t, env.BlockWrites fuel access stage run v s buffer t ∧ env.Passes fuel access buffer t stages output u

variable {initial : Expression} {calls : List (FilterCall Expression)} {stage : Stage} {rest : List Stage} {v : Value}
  {s t : Session} {d : FilterDef} {run : BlockAccess → Value → List Value → Emit Session Unit}

/-- A pipeline that comes to a block filter is the block filter and what it is followed by. -/
theorem run_evaluatePipeline_block (h : env.ComesToStages fuel access initial calls s (stage :: rest) v t)
    (hd : env.findFilter stage.name stage.arity = some d) (hrun : d.body = .block run) :
    (env.evaluatePipeline fuel access initial calls).run s =
      ((env.stageArgs fuel stage >>= fun args =>
          env.passOn fuel access (Emit.inFilter stage.name (run access v args)) rest) >>= fun _ =>
        pure Outcome.written).run t := by
  obtain ⟨position, hpipeline⟩ := run_evaluatePipeline_of_comesToStages h
  rw [hpipeline, runStages_block env fuel access hd hrun, bind_assoc]

/-- A pipeline that comes to a block filter with stages after it, the last of which is no block filter, writes what those stages
take the block filter's output to, or fails and writes nothing. Wherever the output comes to a stage that is neither a block
filter nor a transformer, the pipeline fails with that stage's name and writes nothing. -/
theorem evaluatePipeline_chain (h : env.ComesToStages fuel access initial calls s (stage :: rest) v t)
    (hd : env.findFilter stage.name stage.arity = some d) (hrun : d.body = .block run) :
    ((∃ last, rest.getLast? = some last ∧ env.NoBlockFilter last) →
      (∃ output u, env.Chained fuel access stage run v t rest output u ∧
        (env.evaluatePipeline fuel access initial calls).run s = { output, outcome := .ok .written, state := u }) ∨
      (∃ fault u, (¬∃ output u, env.Chained fuel access stage run v t rest output u) ∧
        (env.evaluatePipeline fuel access initial calls).run s = { output := [], outcome := .error fault, state := u })) ∧
    ∀ before unknown after buffer u, rest = before ++ unknown :: after → env.Unknown unknown →
      env.Chained fuel access stage run v t before buffer u →
        (env.evaluatePipeline fuel access initial calls).run s =
          { output := [], outcome := .error (.error (.transformerNotFound unknown.name)), state := u } := by
  rw [run_evaluatePipeline_block h hd hrun]
  refine ⟨?_, ?_⟩
  · rintro ⟨last, hlast, hother⟩
    have hne : rest ≠ [] := by
      rintro rfl
      simp at hlast
    have hchain : ∀ buffer, Emit.AllOrNothing (env.writeChain fuel access buffer rest) := by
      refine allOrNothing_writeChain fun last' hmem => ?_
      obtain rfl : last = last' := Option.some.inj (hlast.symm.trans hmem)
      exact hother
    have hall : Emit.AllOrNothing (env.stageArgs fuel stage >>= fun args =>
        env.passOn fuel access (Emit.inFilter stage.name (run access v args)) rest) :=
      (Emit.silent_ofEval _).bind fun args => allOrNothing_passOn _ hne hchain
    obtain ⟨output, outcome, u, hparts⟩ : ∃ o r u, (env.stageArgs fuel stage >>= fun args =>
        env.passOn fuel access (Emit.inFilter stage.name (run access v args)) rest).run t =
          { output := o, outcome := r, state := u } := ⟨_, _, _, rfl⟩
    cases outcome with
    | ok value =>
      obtain ⟨buffer, r, hwrites, hpasses⟩ := exists_of_run_passOn hparts
      refine Or.inl ⟨output, u, ⟨buffer, r, hwrites, run_writeChain_eq_ok_iff.1 hpasses⟩, ?_⟩
      rw [Emit.Stable.run_bind_ok (a := ()) (by rw [hparts]), hparts]
      exact congrArg (Emission.mk · _ _) (List.append_nil output)
    | error fault =>
      have hoff : output = [] := by
        have := hall t fault (by rw [hparts])
        rwa [hparts] at this
      subst hoff
      refine Or.inr ⟨fault, u, ?_, Emit.run_bind_of_error hparts⟩
      rintro ⟨output, u', buffer, r, hwrites, hpasses⟩
      rw [run_passOn hwrites, run_writeChain_eq_ok_iff.2 hpasses] at hparts
      cases hparts
  · rintro before unknown after buffer u rfl hunknown ⟨written, r, hwrites, hpasses⟩
    have hchain : (env.stageArgs fuel stage >>= fun args =>
        env.passOn fuel access (Emit.inFilter stage.name (run access v args)) (before ++ unknown :: after)).run t =
          { output := [], outcome := .error (.error (.transformerNotFound unknown.name)), state := u } := by
      rw [run_passOn hwrites, run_writeChain_append hpasses, run_writeChain_unknown hunknown]
    exact Emit.run_bind_of_error hchain

/-- An environment with the block filters and the built-in transformers. -/
def blocksEnvironment : Environment where
  site := { Site.build with filters := { defs := Blocks.filters } }

/-- A list that is written by an inline template, put into parentheses by another one, and then taken through transformers. -/
def listedCalls (transformers : List String) : List (FilterCall Expression) :=
  { name := "select", args := [.string " \x7bit\x7d"] } :: { name := "select", args := [.string "(\x7bit\x7d) "] } ::
    transformers.map fun name => { name, args := [] }

/-- The stages after the first inline template. -/
def listedRest (transformers : List String) : List Stage :=
  ((listedCalls transformers).map Stage.ofCall).tail

/-- The pipeline of the list, run. -/
def listed (transformers : List String) : Emission Session Outcome :=
  (blocksEnvironment.evaluatePipeline 20 (blocksEnvironment.access 20) (.array [.literal (.int 1), .literal (.int 2)])
    (listedCalls transformers)).run emptyPageSession

theorem comesToStages_listed (transformers : List String) :
    blocksEnvironment.ComesToStages 20 (blocksEnvironment.access 20) (.array [.literal (.int 1), .literal (.int 2)])
      (listedCalls transformers) emptyPageSession
      (Stage.ofCall { name := "select", args := [.string " \x7bit\x7d"] } :: listedRest transformers)
      (.array [.int 1, .int 2]) emptyPageSession :=
  ⟨some _, [], .array [.int 1, .int 2], emptyPageSession, rfl, rfl, rfl⟩

/-- The second template puts its parentheses around what the first one wrote, and only the blank behind them is trimmed. With a
stage behind that is no transformer, nothing is written. -/
theorem evaluatePipeline_chain_listed :
    blocksEnvironment.findFilter "select" 2 = some { name := "select", arity := 2, body := .block Blocks.select } ∧
      (∃ last, (listedRest ["trim"]).getLast? = some last ∧ blocksEnvironment.NoBlockFilter last) ∧
      (∃ u, listed ["trim"] = { output := Utf8.encode "( 1 2)", outcome := .ok .written, state := u }) ∧
      ∃ u, listed ["trim", "shorten", "htmlencode"] =
        { output := [], outcome := .error (.error (.transformerNotFound "shorten")), state := u } := by
  have hd : blocksEnvironment.findFilter "select" 2 = some { name := "select", arity := 2, body := .block Blocks.select } :=
    rfl
  have hlast : ∃ last, (listedRest ["trim"]).getLast? = some last ∧ blocksEnvironment.NoBlockFilter last := ⟨_, rfl, rfl⟩
  have hunknown : blocksEnvironment.Unknown (Stage.ofCall { name := "shorten", args := [] }) := ⟨rfl, rfl, rfl⟩
  have hok : (listed ["trim"]).outcome.isOk = true := by decide +kernel
  have hwritten : (listed ["trim"]).output = Utf8.encode "( 1 2)" := by decide +kernel
  rcases (evaluatePipeline_chain (comesToStages_listed ["trim"]) hd rfl).1 hlast with ⟨output, u, hchained, hall⟩ | ⟨fault, u, -, hnone⟩
  · have houtput : output = Utf8.encode "( 1 2)" := (congrArg Emission.output hall).symm.trans hwritten
    refine ⟨hd, hlast, ⟨u, houtput ▸ hall⟩, u, ?_⟩
    exact (evaluatePipeline_chain (comesToStages_listed ["trim", "shorten", "htmlencode"]) hd rfl).2 (listedRest ["trim"])
      (Stage.ofCall { name := "shorten", args := [] }) [Stage.ofCall { name := "htmlencode", args := [] }] output u rfl hunknown
      hchained
  · have hfault : (listed ["trim"]).outcome = .error fault := congrArg Emission.outcome hnone
    rw [hfault] at hok
    cases hok

end Environment

end PageTemplates
