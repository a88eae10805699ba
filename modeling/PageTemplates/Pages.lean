import PageTemplates.Engine

/-!
# Loading pages

From a path to a loaded page. A path without a known extension is tried with the extension of every format in turn, a directory
path stands for its index page, and the layout of a page is looked for in its directory and then in the directories above.
-/

namespace PageTemplates

/-- What turns paths into pages: the settings and the page formats of a site, in order of precedence. -/
structure PageRules where
  settings : Settings
  formats : List PageFormat

namespace PageRules

/-- The format of an extension, which may be given with points before it. -/
def formatFor? (rules : PageRules) (extension : String) : Option PageFormat :=
  rules.formats.find? (·.handles (String.ofList (Path.trimStartOf '.' extension.toList)))

/-- The key of a normal path, and its extension if that is the extension of a format. A directory path has the key of its index
page. -/
def pageKey (rules : PageRules) (path : String) : String × Option String :=
  if path.isEmpty || path.toList.getLast? = some '/' then (Path.join path rules.settings.indexPage, none)
  else
    match Path.extension? path with
    | some extension =>
      if rules.formats.any (·.handles extension) then (Path.stripExtension path, some extension) else (path, none)
    | none => (path, none)

/-- A list with the first element that passes a test moved to the front. -/
def moveFirst {α : Type} (test : α → Bool) : List α → List α
  | [] => []
  | a :: as =>
    if test a then a :: as
    else match moveFirst test as with
      | b :: bs => if test b then b :: a :: bs else a :: b :: bs
      | [] => [a]

/-- The formats in order, with the one of the preferred extension first. -/
def orderedFormats (rules : PageRules) (preferred : Option String) : List PageFormat :=
  match preferred with
  | some extension => moveFirst (·.handles extension) rules.formats
  | none => rules.formats

/-- The file name of a key with the extension of a format. -/
def fileName (key : String) (f : PageFormat) : String :=
  key ++ "." ++ f.extension

/-- The first format with a file for a key. -/
def probe (key : String) : List PageFormat → Load (Option PageFormat)
  | [] => return none
  | f :: formats => do
    match ← Load.ofFile ((← get).files.info? (fileName key f)) with
    | some _ => return some f
    | none => probe key formats

/-- Registers a page that is not loaded yet. -/
def register (kind : PageKind) (key : String) (f : PageFormat) : Load PageId := do
  let id : PageId := { kind, key }
  modify (·.putPage { id, path := fileName key f, format := f })
  return id

/-- The layout of a name in the first of the given directories that has one. A page is no layout of itself. -/
def findLayoutIn (rules : PageRules) (pageKey name : String) : List String → Load (Option PageId)
  | [] => return none
  | directory :: directories => do
    let key := Path.join directory name
    if key = pageKey then rules.findLayoutIn pageKey name directories
    else if ((← get).page? { kind := .layout, key }).isSome then return some { kind := .layout, key }
    else
      match ← probe key rules.formats with
      | some f => return some (← register .layout key f)
      | none => rules.findLayoutIn pageKey name directories

/-- The layout of a name for the page with a key, which is registered but not loaded. -/
def findLayout (rules : PageRules) (pageKey name : String) : Load (Option PageId) := do
  Load.requireInitialized
  rules.findLayoutIn pageKey (Path.stripExtension (Path.normalize name)) (Path.ancestors pageKey)

/-- Whether a loaded page has to be checked for changes now; if so, the check is noted. Without an interval every access checks.
-/
def dueForCheck (rules : PageRules) (p : Page) : Load Bool := do
  if !rules.settings.checksFreshness then return false
  match rules.settings.checkIntervalSeconds with
  | none => return true
  | some seconds =>
    let now := (← get).clock
    match p.lastChecked with
    | some at_ =>
      if now - at_ < seconds * 1000 then return false
    | none => pure ()
    modify (·.putPage { p with lastChecked := some now })
    return true

/-- Reads the file of a page, unless its content has the stamp of the file already. -/
def load (rules : PageRules) (p : Page) : Load PageContent := do
  let files := (← get).filesFor p.id.kind
  match ← Load.ofFile (files.info? p.path) with
  | none => throw (.pageNotFound p.path)
  | some info =>
    match p.content.filter (·.stamp = info.stamp) with
    | some content => return content
    | none =>
      let bytes ← Load.ofFile (files.read p.path)
      match Utf8.decode? bytes with
      | none => throw (.utf8 p.path)
      | some source =>
        let (args, fragments) := p.format.parseSource source
        let layout ← match p.id.kind, p.format.layoutName args rules.settings.defaultLayoutPage with
          | .page, some name => rules.findLayout p.id.key name
          | _, _ => pure none
        let content : PageContent := { path := p.path, args, fragments, layout, stamp := info.stamp }
        modify fun e => e.putPage { (e.page? p.id).getD p with content := some content }
        return content

/-- The content of a page: loaded if it never was, and loaded again if a check is due and the file changed. A file that has
disappeared keeps its last content. -/
def refresh (rules : PageRules) (id : PageId) : Load PageContent := do
  match (← get).page? id with
  | none => throw (.notInitialized .page)
  | some p =>
    match p.content with
    | none => rules.load p
    | some content =>
      if ← rules.dueForCheck p then
        match ← Load.ofFile (((← get).filesFor p.id.kind).info? p.path) with
        | some info => if info.stamp = content.stamp then return content else rules.load p
        | none => return content
      else return content

/-- The content of a page, once it and its layout are loaded. -/
def initPage (rules : PageRules) (id : PageId) : Load PageContent := do
  let content ← rules.refresh id
  match content.layout with
  | some layout => discard (rules.refresh layout)
  | none => pure ()
  return content

/-- The loaded page of a path; none if no format has a file for it. -/
def getPage (rules : PageRules) (path : String) : Load (Option PageId) := do
  Load.requireInitialized
  let (key, extension) := rules.pageKey (Path.normalize path)
  let id : PageId := { kind := .page, key }
  if ((← get).page? id).isSome then
    discard (rules.initPage id)
    return some id
  else
    match ← probe key (rules.orderedFormats extension) with
    | none => return none
    | some f =>
      let id ← register .page key f
      discard (rules.initPage id)
      return some id

/-- The loaded page of a path, which must exist. -/
def requirePage (rules : PageRules) (path : String) : Load PageId := do
  match ← rules.getPage path with
  | some id => return id
  | none => throw (.pageNotFound path)

/-- The loaded layout of a loaded page: the one of the given name, else the one that the page's format picks. -/
def resolveLayout (rules : PageRules) (id : PageId) (name : Option String) : Load (Option PageId) := do
  match (← get).page? id with
  | none => throw (.notInitialized .page)
  | some p =>
    match p.content with
    | none => throw (.notInitialized .page)
    | some content =>
      match name.orElse fun _ => p.format.layoutName content.args rules.settings.defaultLayoutPage with
      | none => return none
      | some name =>
        match ← rules.findLayout id.key name with
        | none => return none
        | some layout =>
          discard (rules.refresh layout)
          return some layout

/-- The format of a one-time page: that of the given extension, else the first one. -/
def oneTimeFormat (rules : PageRules) (extension : Option String) : Except TemplateError PageFormat :=
  match extension with
  | some extension =>
    match rules.formatFor? extension with
    | some f => .ok f
    | none => .error (.noPageFormat ("*." ++ String.ofList (Path.trimStartOf '.' extension.toList)))
  | none =>
    match rules.formats with
    | f :: _ => .ok f
    | [] => .error (.noPageFormat "one-time page")

/-- A loaded page made from a text. Its file is there only while the page is loaded. -/
def oneTimePage (rules : PageRules) (contents : String) (extension : Option String) : Load PageId := do
  Load.requireInitialized
  let f ← liftExcept (rules.oneTimeFormat extension)
  let number := (← get).nextTempId
  let path := Path.join (Path.normalize rules.settings.tempDirectory) (fileName (toString number) f)
  let id : PageId := { kind := .oneTime, key := Path.stripExtension path }
  modify fun e =>
    { (e.putPage { id, path, format := f }) with
      nextTempId := number + 1
      tempFiles := e.tempFiles.write path (Utf8.encode contents) e.clock }
  let loaded ← Load.attempt (rules.initPage id)
  modify fun e => { e with tempFiles := e.tempFiles.remove path }
  discard (liftExcept loaded)
  return id
where
  /-- An outcome as an action. -/
  liftExcept {α : Type} : Except TemplateError α → Load α
    | .ok a => pure a
    | .error e => throw e

end PageRules

end PageTemplates
