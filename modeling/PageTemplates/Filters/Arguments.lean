import PageTemplates.Error
import PageTemplates.Settings
import PageTemplates.Value.Display
import PageTemplates.Value.Number

/-!
# Arguments of filters

A value filter turns the piped value and the arguments into a value or fails. These readers take an argument by its place and
name the filter in the error when the argument is missing or of the wrong kind.
-/

namespace PageTemplates

/-- A filter that turns a value and arguments into a value. -/
abbrev ValueFilter := Surroundings → Value → List Value → Except TemplateError Value

/-- The text of a value that must be a text. -/
def Value.requireText (v : Value) : Except TemplateError String :=
  match v.text? with
  | some s => .ok s
  | none => .error (.invalidArgument ("expected a string, found " ++ v.kind.name))

namespace Argument

/-- The argument at a place, which must be a text. -/
def text (filter : String) (args : List Value) (place : Nat) : Except TemplateError String :=
  match args[place]?.bind Value.text? with
  | some s => .ok s
  | none => .error (.invalidArgument (filter ++ " expects a string argument"))

/-- The argument at a place, which must count as an integer that is not negative. -/
def count (filter : String) (args : List Value) (place : Nat) : Except TemplateError Nat :=
  match (args[place]?.bind Value.int?).filter (0 ≤ ·.toInt) with
  | some n => .ok n.toInt.toNat
  | none => .error (.invalidArgument (filter ++ " expects a non-negative integer argument"))

/-- The text of the argument at a place, empty when there is none. -/
def display (args : List Value) (place : Nat) : String :=
  match args[place]? with
  | some v => v.display
  | none => ""

end Argument

end PageTemplates
