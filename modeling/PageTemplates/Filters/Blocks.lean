import PageTemplates.Filters.Scoping
import PageTemplates.Text.Parts

/-!
# Block filters

`partial` writes another page, `selectPartial` writes one for every item, and `select` writes an inline template for every item.
The item and its place are the locals `it` and `index`.
-/

namespace PageTemplates.Blocks

/-- The items that a filter goes through: those of an array, nothing for null, and any other value by itself. -/
def itemsOf : Value → List Value
  | .array items => items
  | .null => []
  | v => [v]

/-- The value of the place of an item. -/
def placeValue (i : Nat) : Value :=
  .int (Int64.ofNat i)

/-- Does something for every item and its place. -/
def forItems (f : Value → Nat → Emit Session Unit) : Nat → List Value → Emit Session Unit
  | _, [] => pure ()
  | i, item :: items => do
    f item i
    forItems f (i + 1) items

/-- The locals that the argument of `partial` gives. -/
def partialLocals : List Value → Except TemplateError (Table Value)
  | [] => .ok []
  | .null :: _ => .ok []
  | .object fields :: _ => .ok fields
  | v :: _ => .error (.invalidArgument ("partial arguments must be an object, got " ++ v.kind.name))

/-- Writes the page that the value names, with the fields of the argument as locals. -/
def writePage (access : BlockAccess) (v : Value) (args : List Value) : Emit Session Unit := do
  match v.text? with
  | none => Emit.fail (.invalidArgument "partial expects a page name")
  | some name =>
    let locals ← Emit.ofExcept (partialLocals args)
    access.writePartial name locals

/-- Writes the page that the argument names for every item of the value. -/
def selectPartial (access : BlockAccess) (v : Value) (args : List Value) : Emit Session Unit := do
  let name ← Emit.ofExcept (Argument.text "selectPartial" args 0)
  forItems (fun item i => access.writePartial name [("it", item), ("index", placeValue i)]) 0 (itemsOf v)

/-- The template of an inline text: single braces stand for double ones, unless the text has double ones itself. -/
def expandBraces (text : List Char) : List Char :=
  if (splitOpen? text).isSome then text
  else text.flatMap fun c => if c = '\x7b' ∨ c = '\x7d' then [c, c] else [c]

/-- The fragments of an inline text. -/
def parseInline (text : String) : List Fragment :=
  parseTemplate (expandBraces text.toList)

/-- Writes the inline template that the argument holds for every item of the value. The locals for item and place are as before
when it ends. -/
def select (access : BlockAccess) (v : Value) (args : List Value) : Emit Session Unit := do
  let text ← Emit.ofExcept (Argument.text "select" args 0)
  let fragments ← Emit.ofEval (Scoping.parsed .inlineTemplate text (.ok (parseInline text)))
  let locals := (← Emit.ofEval Eval.scope).locals
  Emit.ofEval (Eval.modifyScope fun s => (s.removeLocal "it").removeLocal "index")
  let outcome ← Emit.attempt (forItems (fun item i => do
    Emit.ofEval (Eval.modifyScope fun s => (s.setLocal "it" item).setLocal "index" (placeValue i))
    access.writeFragments fragments) 0 (itemsOf v))
  Emit.ofEval (Eval.modifyScope fun s =>
    (s.restoreLocal "it" (Table.get? locals "it")).restoreLocal "index" (Table.get? locals "index"))
  Emit.resume outcome

/-- The block filters. -/
def filters : List FilterDef :=
  [{ name := "partial", arity := 1, body := .block writePage },
   { name := "partial", arity := 2, body := .block writePage },
   { name := "selectPartial", arity := 2, body := .block selectPartial },
   { name := "select", arity := 2, body := .block select }]

end PageTemplates.Blocks
