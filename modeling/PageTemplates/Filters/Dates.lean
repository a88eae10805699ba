import PageTemplates.Dates.Pattern
import PageTemplates.Filters.Arguments

/-!
# Date filters

A value is a date if it is an integer, which counts the seconds since the start of 1970, or the text of a moment.
-/

namespace PageTemplates.Dates

/-- The pattern for dates without one. -/
def defaultPattern : String := "%Y-%m-%d"

/-- The moment of a value. -/
def moment? : Value → Option Moment
  | .int seconds => Moment.ofSeconds? seconds.toInt
  | v => v.text?.bind Moment.ofText?

/-- The text of a value as a date by a pattern; null stays null. -/
def format (v : Value) (pattern : String) : Except TemplateError Value :=
  match v with
  | .null => .ok .null
  | v =>
    match moment? v with
    | none => .error (.invalidArgument ("'" ++ v.display ++ "' is not a date"))
    | some m =>
      match Pattern.format? pattern m with
      | some s => .ok (.string s)
      | none => .error (.invalidArgument ("invalid date format '" ++ pattern ++ "'"))

/-- The text of the current time. -/
def now : ValueFilter := fun surroundings _ _ =>
  .ok (.string surroundings.now)

/-- The value as a day. -/
def formatDefault : ValueFilter := fun _ v _ =>
  format v defaultPattern

/-- The value by the pattern that the argument gives. -/
def formatBy : ValueFilter := fun _ v args => do
  let pattern ← Argument.text "dateFormat" args 0
  format v pattern

end PageTemplates.Dates
