import PageTemplates.Evaluation.Fragments

/-!
# Renders

A render writes one page, and possibly a layout around it, with the data of one request. The layout marks the place of the page
by the expression `page`. The text of a render is kept, so a second one gives the same without evaluating anything.
-/

namespace PageTemplates

/-- Which layout a render puts its page in. -/
inductive LayoutSelection where
  /-- The one that was found when the page was loaded. -/
  | ofPage
  /-- A given page. -/
  | page (id : PageId)
  /-- The one of a name, looked for from the page's directory upwards. -/
  | named (name : String)
  | none
  deriving DecidableEq, Inhabited

/-- What a render writes: the page, the layout, the data, and what is added for this render only. -/
structure RenderPlan where
  page : PageId
  layout : LayoutSelection := .ofPage
  model : Option Value := none
  args : Table Value := []
  filters : List FilterDef := []
  /-- Transformers of the page's own output. -/
  pageTransformers : List Transformer := []
  /-- Transformers of the whole output. -/
  outputTransformers : List Transformer := []
  /-- Transformers that can follow a block filter, by their names. -/
  filterTransformers : Table Transformer := []
  /-- Notes for the host. -/
  options : Table String := []

namespace RenderPlan

/-- The arguments that the page sees: those given, the fields of the model over them, and the model itself. -/
def mergedArgs (plan : RenderPlan) : Table Value :=
  let fields := match plan.model with
    | some (.object fields) => fields
    | _ => []
  Table.insert (Table.insertAll plan.args fields) "model" (plan.model.getD .null)

/-- The environment of the render's evaluations. -/
def environment (plan : RenderPlan) (site : Site) : Environment where
  site
  args := plan.mergedArgs
  filters := FilterRegistry.ofList plan.filters
  transformers := plan.filterTransformers

end RenderPlan

/-- Whether an expression marks the place of the page in a layout. -/
def Variable.isPageHole (v : Variable) : Bool :=
  v.binding = some "page" && v.stages.isEmpty

/-- Something to be rendered: the format and the content of a page. -/
structure LoadedPage where
  format : PageFormat
  content : PageContent

namespace Site

/-- Closes the registrations. -/
def close : Load Unit :=
  modify fun e => { e with initialized := true }

/-- The format and the content of a page, which must be loaded. -/
def loadedPage (id : PageId) : Load LoadedPage := do
  match (← get).page? id with
  | some { content := some content, format, .. } => return { format, content }
  | _ => throw (.notInitialized .page)

/-- The layout that a plan selects for the content of its page. -/
def selectLayout (site : Site) (plan : RenderPlan) (content : PageContent) : Load (Option PageId) := do
  match plan.layout with
  | .none => return none
  | .ofPage => return content.layout
  | .page id => return some id
  | .named name =>
    match ← site.resolveLayout plan.page (some name) with
    | some id => return some id
    | none => throw (.pageNotFound name)

/-- The page of a plan and its layout, loaded. -/
def prepare (site : Site) (plan : RenderPlan) : Load (LoadedPage × Option LoadedPage) := do
  close
  let content ← site.initPage plan.page
  let page ← loadedPage plan.page
  match ← site.selectLayout plan content with
  | none => return (page, none)
  | some id =>
    discard (site.refresh id)
    return (page, some (← loadedPage id))

/-- Writes the fragments of the page, through its transformers if it has any. -/
def writePage (env : Environment) (plan : RenderPlan) (fuel : Nat) (content : PageContent) : Emit Session Unit := do
  if plan.pageTransformers.isEmpty then env.writeFragments fuel content.fragments
  else
    let (_, buffer) ← Emit.capture (env.writeFragments fuel content.fragments)
    Emit.write (← Emit.ofExcept (Transformer.applyAll plan.pageTransformers buffer))

/-- Writes the page in its place in the layout: the scope is that of the page meanwhile, and locals stay. -/
def writeHole (env : Environment) (plan : RenderPlan) (fuel : Nat) (page layout : LoadedPage) : Emit Session Unit := do
  Emit.ofEval (Eval.modifyScope fun s => { s with page := page.content, format := page.format, inLayout := false })
  let outcome ← Emit.attempt (writePage env plan fuel page.content)
  Emit.ofEval (Eval.modifyScope fun s => { s with page := layout.content, format := layout.format, inLayout := true })
  Emit.resume outcome

/-- Writes a fragment of the layout. -/
def writeLayoutFragment (env : Environment) (plan : RenderPlan) (fuel : Nat) (page layout : LoadedPage) :
    Fragment → Emit Session Unit
  | .text s => Emit.writeText s
  | .var v =>
    if v.isPageHole then writeHole env plan fuel page layout
    else env.writeVariable fuel (env.access fuel) v

/-- The scope in which the body of a page without a layout is written, and in which its expressions are evaluated. -/
def pageScope (page : LoadedPage) (layout : Option PageContent) : Scope where
  page := page.content
  rootPage := page.content
  layout
  format := page.format

/-- The scope in which a layout is written around a page. -/
def layoutScope (page layout : LoadedPage) : Scope where
  page := layout.content
  rootPage := page.content
  layout := some layout.content
  inLayout := true
  format := layout.format

/-- Writes the page, in the layout if there is one. -/
def writeBody (site : Site) (plan : RenderPlan) (fuel : Nat) (page : LoadedPage) (layout : Option LoadedPage) :
    Emit Engine Unit :=
  let env := plan.environment site
  match layout with
  | none => Emit.inScope (pageScope page none) (writePage env plan fuel page.content)
  | some layout =>
    Emit.inScope (layoutScope page layout) (layout.content.fragments.forM (writeLayoutFragment env plan fuel page layout))

/-- Writes a render. It can be cancelled until the first output. -/
def writeTo (site : Site) (plan : RenderPlan) (fuel : Nat) (cancelled : Bool := false) : Emit Engine Unit := do
  let (page, layout) ← Emit.ofLoad (site.prepare plan)
  if cancelled then Emit.fail .cancelled
  if plan.outputTransformers.isEmpty then site.writeBody plan fuel page layout
  else
    let (_, buffer) ← Emit.capture (site.writeBody plan fuel page layout)
    Emit.write (← Emit.ofExcept (Transformer.applyAll plan.outputTransformers buffer))

/-- The text of a render. -/
def renderText (site : Site) (plan : RenderPlan) (fuel : Nat) : Emit Engine String := do
  let (_, bytes) ← Emit.capture (site.writeTo plan fuel)
  match Utf8.decode? bytes with
  | some text => return text
  | none =>
    match (← Emit.ofLoad get).page? plan.page with
    | some p => Emit.fail (.utf8 p.path)
    | none => Emit.fail (.notInitialized .page)

/-- The text of a page. -/
def renderPage (site : Site) (fuel : Nat) (path : String) (args : Table Value) : Emit Engine String := do
  let page ← Emit.ofLoad (site.requirePage path)
  site.renderText { page, args } fuel

/-- The text of a template that is no page of the site. -/
def evaluateTemplate (site : Site) (fuel : Nat) (text : String) (args : Table Value) : Emit Engine String := do
  Emit.ofLoad close
  let page ← Emit.ofLoad (site.oneTimePage text none)
  site.renderText { page, layout := .none, args } fuel

end Site

/-- A render in use: its plan, whether it was started, and its text once there is one. -/
structure Render where
  plan : RenderPlan
  started : Bool := false
  text : Option String := none

namespace Render

/-- The same render for another page. -/
def forPage (r : Render) (page : PageId) : Render where
  plan := { r.plan with page }

/-- The render once it was started. -/
def start (r : Render) : Render :=
  { r with started := true }

/-- Closes the registrations and loads the page. -/
def init (site : Site) (r : Render) (e : Engine) : Except TemplateError PageContent × Render × Engine :=
  let (outcome, e) := ((do Site.close; site.initPage r.plan.page : Load PageContent).run).run e
  (outcome, r.start, e)

/-- Writes the render. -/
def writeTo (site : Site) (fuel : Nat) (cancelled : Bool) (r : Render) (e : Engine) : Emission Engine Unit × Render :=
  ((site.writeTo r.plan fuel cancelled).run e, r.start)

/-- The text of the render, which is kept once there is one. -/
def render (site : Site) (fuel : Nat) (r : Render) (e : Engine) : Except Fault String × Render × Engine :=
  match r.text with
  | some text => (.ok text, r, e)
  | none =>
    let result := (site.renderText r.plan fuel).run e
    (result.outcome, { r.start with text := result.outcome.toOption }, result.state)

/-- Whether the render was started and its page is loaded. -/
def isInitialized (e : Engine) (r : Render) : Bool :=
  r.started && (e.content? r.plan.page).isSome

/-- The value of a pipeline, as if it stood in the body of the page. Its output is dropped. -/
def evaluate (site : Site) (r : Render) (fuel : Nat) (text : String) : Emit Engine Value := do
  if !r.started then Emit.fail (.notInitialized .render)
  let page ← Emit.ofLoad (Site.loadedPage r.plan.page)
  match parsePipeline text.toList with
  | .error e => Emit.fail (.parse text e)
  | .ok pipeline =>
    let engine ← Emit.ofLoad get
    let env := r.plan.environment site
    let scope := Site.pageScope page (page.content.layout.bind engine.content?)
    let (outcome, _) ← Emit.capture
      (Emit.inScope scope (env.evaluatePipeline fuel (env.access fuel) pipeline.initial pipeline.stages))
    match outcome with
    | .value v => return v
    | _ => return .null

end Render

end PageTemplates
