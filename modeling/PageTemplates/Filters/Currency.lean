import PageTemplates.Culture
import PageTemplates.Filters.Arguments

/-!
# Currency filters

Amounts of money in the culture of the site or in a culture named by the argument.
-/

namespace PageTemplates.Currency

/-- The text of a value as an amount of money in the named culture; null stays null. -/
def format (v : Value) (culture : String) : Except TemplateError Value :=
  match v with
  | .null => .ok .null
  | v =>
    match v.float?, Culture.find? culture with
    | none, _ => .error (.invalidArgument ("currency expects a number, got " ++ v.kind.name))
    | _, none => .error (.invalidArgument ("unknown culture '" ++ culture ++ "'"))
    | some amount, some c => .ok (.string (c.formatCurrency amount))

/-- The value in the culture of the site. -/
def ofSite : ValueFilter := fun surroundings v _ =>
  format v surroundings.settings.culture

/-- The value in the culture that the argument names. -/
def ofCulture : ValueFilter := fun _ v args => do
  let culture ← Argument.text "currency" args 0
  format v culture

end PageTemplates.Currency
