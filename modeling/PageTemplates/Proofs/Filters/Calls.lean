import PageTemplates.Binding
import PageTemplates.Filters.BuiltIn

/-!
# Calls of the built-in value filters

A built-in value filter is called by its name and the number of its arguments (`BuiltIn.call?`). An argument that counts
something may be any value that means a place in a sequence (`Argument.count_of_place`).
-/

namespace PageTemplates

/-- What the built-in value filter of a name gives for a value and arguments; none if there is no such filter. -/
def BuiltIn.call? (surroundings : Surroundings) (name : String) (v : Value) (args : List Value) :
    Option (Except TemplateError Value) :=
  match valueFilters.find? (·.answers .value name (args.length + 1)) with
  | some { body := .value run, .. } => some (run surroundings v args)
  | _ => none

namespace Argument

variable {filter : String} {args : List Value} {arg : Value} {i n : Nat}

/-- An argument counts as the place that it means in a sequence. -/
theorem count_of_place (harg : args[i]? = some arg) (h : arg.place? = some n) : count filter args i = .ok n := by
  obtain ⟨m, hm, rfl⟩ := Option.map_eq_some_iff.1 h
  simp only [count, harg, Option.bind_some, hm]

theorem text_of_text? {s : String} (harg : args[i]? = some arg) (h : arg.text? = some s) : text filter args i = .ok s := by
  simp only [text, harg, Option.bind_some, h]

end Argument

end PageTemplates
