import PageTemplates.Assignment
import PageTemplates.Binding
import PageTemplates.Files.Store
import PageTemplates.Page
import PageTemplates.TypedCache

/-!
# The state of a site

Everything that outlives a render: the files, the pages loaded from them, the caches of parsed texts, and the memory of filters
that count. Loading a page reads and changes this state and may fail.
-/

namespace PageTemplates

/-- The types of parsed texts that are cached. -/
inductive CachedText where
  | assignTarget
  | inlineTemplate
  deriving DecidableEq, Inhabited

/-- What a text of each type parses to. -/
abbrev CachedText.Parsed : CachedText → Type
  | .assignTarget => AssignTarget
  | .inlineTemplate => List Fragment

/-- The state of a site. -/
structure Engine where
  /-- Whether the registrations of the site are closed. -/
  initialized : Bool := false
  files : FileStore := .memory {}
  /-- The files of one-time pages. -/
  tempFiles : MemoryFiles := {}
  /-- Pages and layouts that were asked for. -/
  pages : Table Page PageId := []
  oneTimePages : Table Page PageId := []
  nextTempId : Nat := 0
  binders : BinderCache := {}
  cache : TypedCache CachedText CachedText.Parsed := {}
  /-- What filters remember from call to call. -/
  cells : Table Value := []
  /-- The reading of the clock, in milliseconds. -/
  clock : Int := 0

/-- An action on the state of a site that may fail. The changes made before a failure stay. -/
abbrev Load (α : Type) := ExceptT TemplateError (StateM Engine) α

namespace Engine

/-- The page with the given identity, if there is one. -/
def page? (e : Engine) (id : PageId) : Option Page :=
  match id.kind with
  | .oneTime => Table.get? e.oneTimePages id
  | _ => Table.get? e.pages id

/-- The state with a page in the place of the one with its identity. -/
def putPage (e : Engine) (p : Page) : Engine :=
  match p.id.kind with
  | .oneTime => { e with oneTimePages := Table.insert e.oneTimePages p.id p }
  | _ => { e with pages := Table.insert e.pages p.id p }

/-- The file source of the pages of a role. -/
def filesFor (e : Engine) (kind : PageKind) : FileStore :=
  match kind with
  | .oneTime => .memory e.tempFiles
  | _ => e.files

/-- The state with a file written: with the given stamp, else by the clock. -/
def writeFile (e : Engine) (path : String) (bytes : Bytes) (stamp : Option Int) : Engine :=
  match stamp with
  | some stamp => { e with files := e.files.writeAt path bytes stamp }
  | none => { e with files := e.files.write path bytes e.clock }

/-- The state without a file, and whether the file was there. -/
def removeFile (e : Engine) (path : String) : Bool × Engine :=
  ((e.files.file? path).isSome, { e with files := e.files.remove path })

/-- The content of a page, once it was loaded. -/
def content? (e : Engine) (id : PageId) : Option PageContent :=
  (e.page? id).bind (·.content)

end Engine

namespace Load

/-- The result of an action as a value, whether it failed or not. -/
def attempt {α : Type} (action : Load α) : Load (Except TemplateError α) :=
  ExceptT.lift action.run

/-- The result of a file operation. -/
def ofFile {α : Type} : Except FileError α → Load α
  | .ok a => pure a
  | .error e => throw (.file e)

/-- Fails until the registrations of the site are closed. -/
def requireInitialized : Load Unit := do
  if !(← get).initialized then throw (.notInitialized .site)

end Load

end PageTemplates
