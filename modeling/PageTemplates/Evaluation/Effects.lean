import PageTemplates.Scope
import PageTemplates.Transformer

/-!
# Evaluating and writing

`Eval` is a computation on a session that gives a value or fails. `Emit` also writes output, which stays written when the
computation fails later. Both can run out of the bound on how deep computations may nest. Main statements: `Emit` is a lawful
monad, so what is written is the concatenation of what its parts write.
-/

namespace PageTemplates

/-- Why a computation gives no value: an error, or the bound on nesting. -/
inductive Fault where
  | error (e : TemplateError)
  | exhausted
  deriving DecidableEq, Inhabited

/-- The fault of an error inside a filter. Running out of the bound is no error of the filter. -/
def Fault.inFilter (name : String) : Fault → Fault
  | .error e => .error (.filter name e)
  | .exhausted => .exhausted

/-- A computation on a session. The changes made before a failure stay. -/
abbrev Eval (α : Type) := ExceptT Fault (StateM Session) α

namespace Eval

/-- Fails with an error. -/
def fail {α : Type} (e : TemplateError) : Eval α :=
  throw (.error e)

/-- The value of an outcome. -/
def ofExcept {α : Type} : Except TemplateError α → Eval α
  | .ok a => pure a
  | .error e => fail e

/-- The outcome of a computation as a value. -/
def attempt {α : Type} (x : Eval α) : Eval (Except Fault α) :=
  ExceptT.lift x.run

/-- The value of an outcome that was kept. -/
def resume {α : Type} : Except Fault α → Eval α
  | .ok a => pure a
  | .error f => throw f

/-- A computation whose errors are those of a filter. -/
def inFilter {α : Type} (name : String) (x : Eval α) : Eval α := do
  match ← attempt x with
  | .ok a => pure a
  | .error f => throw (f.inFilter name)

/-- The scope. -/
def scope : Eval Scope := do
  return (← get).scope

/-- Changes the scope. -/
def modifyScope (f : Scope → Scope) : Eval Unit :=
  modify fun s => { s with scope := f s.scope }

/-- An action on the state of the site. -/
def ofLoad {α : Type} (x : Load α) : Eval α := do
  let s ← get
  let (outcome, engine) := x.run.run s.engine
  set { s with engine }
  ofExcept outcome

end Eval

/-- What a writing computation leaves: its output, its outcome and the state. -/
structure Emission (σ α : Type) where
  output : Bytes
  outcome : Except Fault α
  state : σ

/-- A computation on a state that writes output. -/
@[ext]
structure Emit (σ α : Type) where
  run : σ → Emission σ α

namespace Emit

variable {σ α β : Type}

/-- The computation that only gives a value. -/
protected def pure (a : α) : Emit σ α where
  run s := { output := [], outcome := .ok a, state := s }

/-- One computation after another. The second does not run when the first fails. -/
protected def bind (x : Emit σ α) (f : α → Emit σ β) : Emit σ β where
  run s :=
    let first := x.run s
    match first.outcome with
    | .ok a =>
      let second := (f a).run first.state
      { second with output := first.output ++ second.output }
    | .error fault => { output := first.output, outcome := .error fault, state := first.state }

instance : Monad (Emit σ) where
  pure := Emit.pure
  bind := Emit.bind

/-- Writes bytes. -/
def write (bytes : Bytes) : Emit σ Unit where
  run s := { output := bytes, outcome := .ok (), state := s }

/-- Writes a text. -/
def writeText (text : String) : Emit σ Unit :=
  write (Utf8.encode text)

/-- Fails. -/
def throwFault (fault : Fault) : Emit σ α where
  run s := { output := [], outcome := .error fault, state := s }

/-- Fails with an error. -/
def fail (e : TemplateError) : Emit σ α :=
  throwFault (.error e)

/-- The value of an outcome. -/
def ofExcept : Except TemplateError α → Emit σ α
  | .ok a => pure a
  | .error e => fail e

/-- The value of an outcome that was kept. -/
def resume : Except Fault α → Emit σ α
  | .ok a => pure a
  | .error f => throwFault f

/-- The outcome of a computation as a value. Its output is written. -/
def attempt (x : Emit σ α) : Emit σ (Except Fault α) where
  run s :=
    let e := x.run s
    { output := e.output, outcome := .ok e.outcome, state := e.state }

/-- The value and the output of a computation; nothing is written, not even if it fails. -/
def capture (x : Emit σ α) : Emit σ (α × Bytes) where
  run s :=
    let e := x.run s
    { output := [], outcome := e.outcome.map fun a => (a, e.output), state := e.state }

/-- A computation whose errors are those of a filter. -/
def inFilter (name : String) (x : Emit σ α) : Emit σ α where
  run s :=
    let e := x.run s
    { e with outcome := e.outcome.mapError (Fault.inFilter name) }

/-- A computation that writes nothing. -/
def ofEval (x : Eval α) : Emit Session α where
  run s :=
    let (outcome, state) := x.run.run s
    { output := [], outcome, state }

/-- An action on the state of the site. -/
def ofLoad (x : Load α) : Emit Engine α where
  run e :=
    let (outcome, state) := x.run.run e
    { output := [], outcome := outcome.mapError .error, state }

/-- A computation in another scope. The scope is as before when it ends, however it ends. -/
def withScope (scope : Scope) (x : Emit Session α) : Emit Session α where
  run s :=
    let e := x.run { s with scope }
    { e with state := { e.state with scope := s.scope } }

/-- A computation in a scope of its own. -/
def inScope (scope : Scope) (x : Emit Session α) : Emit Engine α where
  run engine :=
    let e := x.run { engine, scope }
    { e with state := e.state.engine }

theorem map_id (x : Emit σ α) : (x.bind fun a => Emit.pure a) = x := by
  ext s : 2
  simp only [Emit.bind, Emit.pure]
  rcases x.run s with ⟨output, _ | _, state⟩ <;> simp

theorem bind_assoc' {γ : Type} (x : Emit σ α) (f : α → Emit σ β) (g : β → Emit σ γ) :
    (x.bind f).bind g = x.bind fun a => (f a).bind g := by
  ext s : 2
  simp only [Emit.bind]
  rcases x.run s with ⟨output, fault | a, state⟩
  · rfl
  · simp only
    rcases (f a).run state with ⟨_, _ | _, _⟩ <;> simp

instance : LawfulMonad (Emit σ) :=
  LawfulMonad.mk' (Emit σ) map_id (fun _ _ => rfl) bind_assoc'

end Emit

end PageTemplates
