import PageTemplates.Files.Memory
import PageTemplates.Format
import PageTemplates.Syntax.Fragment
import PageTemplates.Syntax.FrontMatter

/-!
# Pages

A page is a source file in the role it was asked for. Its content is what was read from the file at one point in time, and it is
replaced as a whole when the file changes.
-/

namespace PageTemplates

/-- The roles of pages. -/
inductive PageKind where
  /-- Asked for by its path; it gets a layout. -/
  | page
  /-- Found as the layout of another page; it gets no layout itself. -/
  | layout
  /-- Made from a text for one use. -/
  | oneTime
  deriving DecidableEq, Inhabited

/-- What tells pages apart: the role, and the path of the file without its extension. -/
structure PageId where
  kind : PageKind
  key : String
  deriving DecidableEq, Inhabited

/-- What was read from a page's file: its arguments, its fragments, and the layout that was found for it. -/
structure PageContent where
  path : String
  args : Table String
  fragments : List Fragment
  layout : Option PageId
  stamp : Int
  deriving Inhabited

/-- A page with its content, once it was loaded, and the time of its last check for changes. -/
structure Page where
  id : PageId
  path : String
  format : PageFormat
  content : Option PageContent := none
  lastChecked : Option Int := none

namespace Page

/-- Whether the page was loaded. -/
def isLoaded (p : Page) : Bool :=
  p.content.isSome

/-- The arguments of the page; none before it was loaded. -/
def args (p : Page) : Table String :=
  match p.content with
  | some content => content.args
  | none => []

end Page

/-- The arguments and fragments that a page format reads from a source, which may start with a byte order mark. -/
def PageFormat.parseSource (f : PageFormat) (source : String) : Table String × List Fragment :=
  let cs := match source.toList with
    | '\ufeff' :: cs => cs
    | cs => cs
  let matter := FrontMatter.parse cs f.argsPrefix.toList f.argsSuffix.toList
  (Table.ofList matter.args, parseTemplate matter.body)

end PageTemplates
