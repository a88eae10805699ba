import PageTemplates.Filters.BuiltIn
import PageTemplates.Pages

/-!
# Sites

What is registered with a site and never changes: its settings, formats, filters, transformers and arguments. The built-in ones
come after those of the host, so that these win.
-/

namespace PageTemplates

/-- The registrations of a site. -/
structure Site extends PageRules where
  filters : FilterRegistry
  /-- Transformers that can follow a block filter, by their names. -/
  transformers : Table Transformer
  /-- Arguments that every page can see. -/
  args : Table Value := []
  compiler : BindingCompiler := Binder.compile
  /-- What is written for an expression that has no value; its source if not given. -/
  unhandled : Option (Variable → String) := none
  /-- The text of the current time. -/
  now : String := ""

namespace Site

/-- The built-in formats. -/
def builtInFormats : List PageFormat :=
  [PageFormat.html, PageFormat.markdown]

/-- The built-in transformers. -/
def builtInTransformers : List (String × Transformer) :=
  [("htmlencode", Transformer.htmlEncode), ("trim", Transformer.trim)]

/-- The site with the given settings, formats, filters and transformers, and the built-in ones after them. -/
def build (settings : Settings := {}) (formats : List PageFormat := []) (filters : List FilterDef := [])
    (transformers : List (String × Transformer) := []) : Site where
  settings
  formats := PageFormat.distinct (formats ++ builtInFormats)
  filters := FilterRegistry.ofList (filters ++ BuiltIn.filters)
  transformers := (transformers ++ builtInTransformers).foldl
    (fun t (name, transformer) => if Table.contains t name then t else Table.insert t name transformer) []

/-- What value filters know. -/
def surroundings (site : Site) : Surroundings where
  settings := site.settings
  now := site.now

/-- The site's transformer of a name; none before the registrations are closed. -/
def transformer? (site : Site) (e : Engine) (name : String) : Option Transformer :=
  if e.initialized then Table.get? site.transformers name else none

/-- What is written for an expression that has no value. -/
def unhandledText (site : Site) (v : Variable) : String :=
  match site.unhandled with
  | some text => text v
  | none => v.source

end Site

end PageTemplates
