import PageTemplates.Settings
import PageTemplates.Yaml.Reader

/-!
# Reading settings

Settings are a YAML mapping. A key that is missing has its default, and keys of other meaning are skipped. Texts take any scalar
as it is written; switches and numbers take only plain scalars of their form.
-/

namespace PageTemplates.Settings

/-- The settings with one of them set from its node; those of an unknown name stay as they are. -/
def set? (s : Settings) (name : String) (node : Yaml) : Option Settings :=
  match name with
  | "debug_mode" => node.bool?.map fun b => { s with debugMode := b }
  | "check_for_modified_pages" => node.bool?.map fun b => { s with checkForModifiedPages := b }
  | "check_for_modified_pages_after_secs" =>
    node.optionalNat64?.map fun n => { s with checkIntervalSeconds := n }
  | "default_layout_page" => node.text?.map fun t => { s with defaultLayoutPage := t }
  | "index_page" => node.text?.map fun t => { s with indexPage := t }
  | "temp_dir" => node.text?.map fun t => { s with tempDirectory := t }
  | "culture" => node.text?.map fun t => { s with culture := t }
  | "max_partial_depth" => node.nat64?.map fun n => { s with maxPartialDepth := n }
  | "max_nested_evaluation_depth" => node.nat64?.map fun n => { s with maxNestedEvaluationDepth := n }
  | _ => some s

/-- The names of the settings. -/
def names : List String :=
  ["debug_mode", "check_for_modified_pages", "check_for_modified_pages_after_secs", "default_layout_page", "index_page",
   "temp_dir", "culture", "max_partial_depth", "max_nested_evaluation_depth"]

/-- The settings with all entries of a mapping of a document set. A setting may be given only once. -/
def setAll? (document : Yaml) (s : Settings) (given : List String) : List (Yaml × Yaml) → Option Settings
  | [] => some s
  | (key, node) :: entries => do
    let name ← (document.resolve key).text?
    if names.contains name && given.contains name then none
    else setAll? document (← s.set? name (document.resolve node)) (name :: given) entries

/-- The settings that a document gives: those of its mapping, and the defaults if it is empty. -/
def ofYaml? (document : Yaml) : Option Settings :=
  match document.content with
  | .mapping entries => setAll? document {} [] entries
  | .scalar _ .plain [] => some {}
  | _ => none

/-- The settings that a text gives; none if it is no YAML or a setting has the wrong form. -/
def parse? (text : String) : Option Settings := do
  match ← Yaml.parse? text with
  | some document => ofYaml? document
  | none => return {}

end PageTemplates.Settings
