import PageTemplates.Syntax.ParseError

/-!
# Errors

Why a page could not be loaded or rendered. An error raised by a filter is wrapped with the filter's name, so the outermost
error says where a failure happened and the innermost, its cause, says why.
-/

namespace PageTemplates

/-- Things that have to be prepared before their first use. -/
inductive Component where
  | site
  | render
  | page
  deriving DecidableEq, Inhabited

/-- The name of a component in messages. -/
def Component.name : Component → String
  | .site => "TemplateContext"
  | .render => "PageResult"
  | .page => "TemplatePage"

/-- Why a file could not be read. -/
inductive FileError where
  | missing (path : String)
  | outsideRoot (path : String)
  | notFound
  | notADirectory
  | isADirectory
  | nameTooLong
  | invalidName
  deriving DecidableEq, Inhabited

/-- The text of a file error. -/
def FileError.message : FileError → String
  | .missing path => "no such file: " ++ path
  | .outsideRoot path => "path escapes root: " ++ path
  | .notFound => "No such file or directory (os error 2)"
  | .notADirectory => "Not a directory (os error 20)"
  | .isADirectory => "Is a directory (os error 21)"
  | .nameTooLong => "File name too long (os error 36)"
  | .invalidName => "file name contained an unexpected NUL byte"

/-- The reasons why the engine gives up. -/
inductive TemplateError where
  | notInitialized (component : Component)
  | pageNotFound (path : String)
  | noPageFormat (path : String)
  | filterNotFound (name : String) (position : Nat) (suggestions : List String)
  | transformerNotFound (name : String)
  | binding (expression member message : String)
  | filter (name : String) (source : TemplateError)
  | invalidArgument (message : String)
  | notSupported (message : String)
  | recursivePartial (name : String) (depth : Nat)
  | transform (message : String)
  | cancelled
  | parse (text : String) (source : ParseError)
  | file (source : FileError)
  | utf8 (path : String)
  deriving DecidableEq, Inhabited

namespace TemplateError

/-- The hint that ends a message about a missing filter. -/
def didYouMean (suggestions : List String) : String :=
  if suggestions.isEmpty then "" else " (did you mean: " ++ ", ".intercalate suggestions ++ "?)"

/-- The sentence that reports an error. -/
def message : TemplateError → String
  | .notInitialized component => component.name ++ " used before init()"
  | .pageNotFound path => "page not found: " ++ path
  | .noPageFormat path => "no page format registered for '" ++ path ++ "'"
  | .filterNotFound name position suggestions =>
    "filter '" ++ name ++ "' not found at position " ++ toString position ++ didYouMean suggestions
  | .transformerNotFound name => "filter transformer '" ++ name ++ "' not found"
  | .binding expression member message => "cannot bind '" ++ member ++ "' in '" ++ expression ++ "': " ++ message
  | .filter name source => "filter '" ++ name ++ "' failed: " ++ source.message
  | .invalidArgument message => "invalid argument: " ++ message
  | .notSupported message => "not supported: " ++ message
  | .recursivePartial name depth =>
    "partial '" ++ name ++ "' exceeded the maximum nesting depth of " ++ toString depth
  | .transform message => "transform failed: " ++ message
  | .cancelled => "render cancelled"
  | .parse text source => "cannot parse '" ++ text ++ "': " ++ source.message
  | .file source => "I/O error: " ++ source.message
  | .utf8 path => "invalid UTF-8 in '" ++ path ++ "'"

/-- The error inside all wrappings by filters. -/
def cause : TemplateError → TemplateError
  | .filter _ source => source.cause
  | e => e

/-- Whether the cause is an operation that is not supported. -/
def isNotSupported : TemplateError → Bool
  | .notSupported _ => true
  | .filter _ source => source.isNotSupported
  | _ => false

/-- Whether a page format may write something in place of the failed expression: only failures of a value count, those of
filters and bindings, and of these not the ones that are not supported. -/
def isRecoverable : TemplateError → Bool
  | .filter _ source => !source.isNotSupported
  | .binding _ _ _ => true
  | _ => false

end TemplateError

end PageTemplates
