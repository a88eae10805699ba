import PageTemplates.Error
import PageTemplates.Settings
import PageTemplates.Text.Blank
import PageTemplates.Text.Html
import PageTemplates.Value.Display

/-!
# Page formats

A page format goes with a file extension. It says how front matter is marked, how values are written, which layout a page gets,
and what stands in place of an expression that failed.
-/

namespace PageTemplates

/-- A page format. -/
structure PageFormat where
  extension : String
  contentType : String
  argsPrefix : String
  argsSuffix : String
  /-- The text that a value is written as. -/
  encode : Value → String
  /-- The layout of a page, from its arguments and the name of the default layout. -/
  layoutName : Table String → String → Option String
  /-- The value that is written in place of an expression that failed with a recoverable error. -/
  fallback : Settings → TemplateError → Option Value

namespace PageFormat

/-- The layout that the argument `layout` names: none for the word `none`, and the default layout without the argument. -/
def namedLayout (args : Table String) (defaultLayout : String) : Option String :=
  match (Table.get? args "layout").map Text.trimmed with
  | none => some defaultLayout
  | some name => if name = "none" then none else if name.isEmpty then some defaultLayout else some name

/-- The format that has only what every format needs: dashes mark its front matter, and errors have no fallback. -/
def basic (extension contentType : String) (encode : Value → String) : PageFormat where
  extension
  contentType
  argsPrefix := "---"
  argsSuffix := "---"
  encode
  layoutName := namedLayout
  fallback := fun _ _ => none

/-- The HTML text of a value; raw text as it is. -/
def encodeHtml : Value → String
  | .raw s => s
  | v => Text.escapeHtml v.display

/-- The error report that debug mode writes into a page. -/
def errorReport (e : TemplateError) : Value :=
  .raw ("<pre class=\"pagewright-error\">" ++ Text.escapeHtml e.message ++ "</pre>")

/-- HTML pages: front matter is a comment, and debug mode writes errors into the page. -/
def html : PageFormat where
  extension := "html"
  contentType := "text/html"
  argsPrefix := "<!--"
  argsSuffix := "-->"
  encode := encodeHtml
  layoutName := namedLayout
  fallback := fun settings e => if settings.debugMode then some (errorReport e) else none

/-- Markdown pages: values are written as they are. -/
def markdown : PageFormat :=
  basic "md" "text/markdown" Value.display

/-- Extensions are the same whatever the case of their ASCII letters. -/
def sameExtension (a b : String) : Bool :=
  a.toList.map Char.toLower == b.toList.map Char.toLower

/-- Whether a format has the given extension. -/
def handles (f : PageFormat) (extension : String) : Bool :=
  sameExtension f.extension extension

/-- The formats without those whose extension an earlier one has. -/
def distinct (formats : List PageFormat) : List PageFormat :=
  formats.foldl (fun kept f => if kept.any (·.handles f.extension) then kept else kept ++ [f]) []

end PageFormat

end PageTemplates
