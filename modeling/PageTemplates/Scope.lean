import PageTemplates.Engine

/-!
# Scopes

What an expression can see while a page is written: the locals that filters set, the page being written, the page that was asked
for, and the layout around it. A partial is written in a child scope, which starts with a copy of the locals.
-/

namespace PageTemplates

/-- The scope of a page being written. -/
structure Scope where
  locals : Table Value := []
  /-- How many partials the page is nested in. -/
  depth : Nat := 0
  /-- How many expression values are being evaluated inside one another. -/
  nesting : Nat := 0
  /-- The page being written. -/
  page : PageContent
  /-- The page that the render is for. -/
  rootPage : PageContent
  layout : Option PageContent := none
  /-- Whether the page being written is the layout. -/
  inLayout : Bool := false
  /-- How the values of the page being written are encoded. -/
  format : PageFormat

namespace Scope

/-- The pages whose arguments count, in order: the page being written, the page that the render is for, and the layout. While
the layout is written, the page comes before it. -/
def pageLayers (s : Scope) : List PageContent :=
  if s.inLayout then s.rootPage :: s.layout.toList else s.page :: s.rootPage :: s.layout.toList

/-- The argument of a name on the first page that has it. -/
def pageArg? (s : Scope) (name : String) : Option Value :=
  (s.pageLayers.findSome? fun page => Table.get? page.args name).map .string

/-- The scope of a partial inside this one. -/
def child (s : Scope) (page : PageContent) (format : PageFormat) : Scope where
  locals := s.locals
  depth := s.depth + 1
  page
  rootPage := s.rootPage
  format

/-- The scope with a local set. -/
def setLocal (s : Scope) (name : String) (value : Value) : Scope :=
  { s with locals := Table.insert s.locals name value }

/-- The scope without a local. -/
def removeLocal (s : Scope) (name : String) : Scope :=
  { s with locals := Table.erase s.locals name }

/-- The scope with a local as it was before, which may be none. -/
def restoreLocal (s : Scope) (name : String) (saved : Option Value) : Scope :=
  match saved with
  | some value => s.setLocal name value
  | none => s.removeLocal name

end Scope

/-- The state of an evaluation: that of the site and the scope. -/
structure Session where
  engine : Engine
  scope : Scope

end PageTemplates
