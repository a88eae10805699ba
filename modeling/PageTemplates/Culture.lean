import PageTemplates.Decimal.Layout
import PageTemplates.Text.Blank

/-!
# Cultures

How amounts of money are written in a culture: the symbol and its place, the separators, and the number of decimals. Only a
handful of cultures are known.
-/

namespace PageTemplates

/-- The currency conventions of a culture. The symbol stands before the amount, or after it and a spacing. -/
structure Culture where
  name : String
  symbol : String
  spacing : Option String := none
  groupSeparator : String := ","
  decimalSeparator : String := "."
  decimals : Nat := 2
  deriving DecidableEq, Inhabited

namespace Culture

/-- The known cultures. -/
def all : List Culture :=
  [{ name := "en-US", symbol := "$" },
   { name := "en-GB", symbol := "£" },
   { name := "fr-FR", symbol := "€", spacing := some "\u00a0", groupSeparator := "\u202f", decimalSeparator := "," },
   { name := "de-DE", symbol := "€", spacing := some "\u00a0", groupSeparator := ".", decimalSeparator := "," },
   { name := "ja-JP", symbol := "¥", decimals := 0 }]

/-- The name of a culture in the form by which names are compared: trimmed, with dashes, and in lower case. -/
def foldName (name : String) : List Char :=
  (Text.trim name.toList).map fun c => if c = '_' then '-' else c.toLower

/-- The culture with the given name, in any letter case and with dashes or underscores. -/
def find? (name : String) : Option Culture :=
  all.find? fun c => foldName c.name == foldName name

/-- The digits in groups of three, counted from the right, with a separator between the groups. -/
def groupDigits (separator : List Char) : List Char → List Char
  | [] => []
  | [d] => [d]
  | d :: ds => if ds.length % 3 = 0 then d :: separator ++ groupDigits separator ds else d :: groupDigits separator ds

/-- The text of an amount of money. An amount that rounds to zero has no sign. -/
def formatCurrency (c : Culture) (amount : Float) : String :=
  let fixed := Decimal.fixed c.decimals amount.abs
  let whole := fixed.takeWhile (· != '.')
  let number := String.ofList (groupDigits c.groupSeparator.toList whole) ++
    match fixed.dropWhile (· != '.') with
    | [] => ""
    | _ :: fraction => c.decimalSeparator ++ String.ofList fraction
  let sign := if amount < 0.0 && fixed.any (fun d => d.isDigit && d != '0') then "-" else ""
  match c.spacing with
  | none => sign ++ c.symbol ++ number
  | some spacing => sign ++ number ++ spacing ++ c.symbol

end Culture

end PageTemplates
