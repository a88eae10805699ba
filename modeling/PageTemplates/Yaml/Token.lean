import PageTemplates.Yaml.Basic

/-!
# YAML tokens

What a document is made of: its directives and markers, the beginnings and ends of collections, the marks between their nodes, and
what nodes consist of. The beginnings and ends of block collections are not written; the scanner finds them by the indentation.
-/

namespace PageTemplates.Yaml

/-- A token of a document. -/
inductive Token where
  | versionDirective (major minor : Nat)
  /-- What a handle in front of tags stands for. -/
  | tagDirective (handle expansion : String)
  | documentStart
  | documentEnd
  | blockSequenceStart
  | blockMappingStart
  | blockEnd
  | flowSequenceStart
  | flowSequenceEnd
  | flowMappingStart
  | flowMappingEnd
  | blockEntry
  | flowEntry
  | key
  | value
  | alias (name : String)
  | anchor (name : String)
  | tag (handle suffix : String)
  | scalar (style : ScalarStyle) (text : List Char)
  deriving DecidableEq, Inhabited

end PageTemplates.Yaml
