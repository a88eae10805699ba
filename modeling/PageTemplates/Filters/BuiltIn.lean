import PageTemplates.Filters.Arithmetic
import PageTemplates.Filters.Blocks
import PageTemplates.Filters.Collections
import PageTemplates.Filters.Currency
import PageTemplates.Filters.Dates
import PageTemplates.Filters.Logic
import PageTemplates.Filters.Texts

/-!
# The built-in filters

Every site has these filters, after its own.
-/

namespace PageTemplates.BuiltIn

/-- A value filter. -/
def value (name : String) (arity : Nat) (run : ValueFilter) (params : List String := []) : FilterDef where
  name
  arity
  params
  body := .value run

/-- A value filter that accepts unknown values. -/
def ofUnknown (name : String) (arity : Nat) (run : ValueFilter) : FilterDef :=
  { value name arity run with acceptsUnknown := true }

/-- The filters on numbers. -/
def arithmetic : List FilterDef :=
  [value "add" 2 (Arithmetic.binary "add" Arithmetic.addition),
   value "subtract" 2 (Arithmetic.binary "subtract" Arithmetic.subtraction),
   value "multiply" 2 (Arithmetic.binary "multiply" Arithmetic.multiplication),
   value "divide" 2 Arithmetic.divideFilter,
   value "mod" 2 Arithmetic.moduloFilter,
   value "incr" 1 (Arithmetic.withOne "incr" Arithmetic.addition),
   value "decr" 1 (Arithmetic.withOne "decr" Arithmetic.subtraction)]

/-- The filters on texts. -/
def texts : List FilterDef :=
  [value "upper" 1 (Texts.mapping Text.upper),
   value "lower" 1 (Texts.mapping Text.lower),
   value "titleCase" 1 (Texts.mapping Text.titleCase),
   value "trim" 1 (Texts.mapping Text.trim),
   value "generateSlug" 1 (Texts.mapping Text.slug),
   value "append" 2 Texts.append ["suffix"],
   value "prepend" 2 Texts.prepend ["prefix"],
   value "replace" 3 Texts.replace ["from", "to"],
   value "substring" 2 Texts.substringFrom ["start"],
   value "substring" 3 Texts.substring ["start", "length"],
   value "padLeft" 2 (Texts.pad "padLeft" .left) ["width"],
   value "padLeft" 3 (Texts.pad "padLeft" .left) ["width", "fill"],
   value "padRight" 2 (Texts.pad "padRight" .right) ["width"],
   value "padRight" 3 (Texts.pad "padRight" .right) ["width", "fill"],
   value "htmlEncode" 1 Texts.htmlEncode,
   value "raw" 1 Texts.raw,
   value "json" 1 Texts.json,
   value "split" 2 Texts.split ["separator"],
   value "join" 1 Texts.joinCommas,
   value "join" 2 Texts.join ["separator"]]

/-- The filters on arrays and objects. -/
def collections : List FilterDef :=
  [value "length" 1 Collections.length,
   value "first" 1 (Collections.pure Collections.first),
   value "last" 1 (Collections.pure Collections.last),
   value "reverse" 1 (Collections.pure Collections.reverse),
   value "take" 2 Collections.take,
   value "skip" 2 Collections.skip,
   value "keys" 1 (Collections.pure Collections.keys),
   value "values" 1 (Collections.pure Collections.values)]

/-- The filters on null and truth. -/
def logic : List FilterDef :=
  [ofUnknown "default" 2 Logic.default,
   ofUnknown "isNull" 1 Logic.isNull,
   value "equals" 2 Logic.equals,
   value "not" 1 Logic.not]

/-- The filters on dates and amounts of money. -/
def datesAndMoney : List FilterDef :=
  [value "now" 0 Dates.now,
   value "dateFormat" 1 Dates.formatDefault,
   value "dateFormat" 2 Dates.formatBy,
   value "currency" 1 Currency.ofSite,
   value "currency" 2 Currency.ofCulture]

/-- The value filters. -/
def valueFilters : List FilterDef :=
  arithmetic ++ texts ++ collections ++ logic ++ datesAndMoney

/-- All filters, in order. -/
def filters : List FilterDef :=
  valueFilters ++ Scoping.filters ++ Blocks.filters

end PageTemplates.BuiltIn
