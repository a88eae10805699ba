import PageTemplates.Table
import PageTemplates.Yaml.Scanner

/-!
# Reading YAML

From the tokens of a document to its tree. Nodes with a name get numbers in the order in which they begin: the number of names
known at that moment, so a name that is given twice leaves its second number to the next name. Where a function's first argument
is a number, it bounds how deep the function calls itself.
-/

namespace PageTemplates.Yaml

/-- What is left to read, and the numbers of the names known so far. -/
structure Reader where
  tokens : List Token
  handles : Table String := []
  numbers : Table Nat := []
  deriving Inhabited

namespace Reader

/-- Without the next token. -/
def next (r : Reader) : Reader :=
  { r with tokens := r.tokens.drop 1 }

/-- Whether the next token is one of the given ones. -/
def sees (r : Reader) (ts : List Token) : Bool :=
  (r.tokens.head?.map ts.contains).getD false

/-- What is said about a node before its content. -/
structure Properties where
  name : Option String := none
  tag : Option String := none
  deriving DecidableEq, Inhabited

/-- The tag of a handle and a text; none if the document gives the handle no meaning. -/
def expand? (r : Reader) (handle suffix : String) : Option String :=
  if handle.isEmpty then some suffix else (Table.get? r.handles handle).map (· ++ suffix)

/-- The properties of a node, in either order. -/
def properties? (r : Reader) : Option (Properties × Reader) := do
  match r.tokens with
  | .anchor name :: .tag handle suffix :: _ =>
    return ({ name := some name, tag := some (← r.expand? handle suffix) }, r.next.next)
  | .tag handle suffix :: .anchor name :: _ =>
    return ({ name := some name, tag := some (← r.expand? handle suffix) }, r.next.next)
  | .anchor name :: _ => return ({ name := some name }, r.next)
  | .tag handle suffix :: _ => return ({ tag := some (← r.expand? handle suffix) }, r.next)
  | _ => return ({}, r)

/-- A node with its number, and the reader that knows its name. -/
def register (r : Reader) (name : Option String) : Reader × (Yaml → Yaml) :=
  match name with
  | some name => ({ r with numbers := Table.insert r.numbers name r.numbers.length }, .anchored r.numbers.length)
  | none => (r, id)

mutual

/-- A node. Block collections begin only where `inBlock` allows them, and block sequences that are not indented only where
`inMapping` does. A node with properties can lack a content. -/
def node? : Nat → Bool → Bool → Reader → Option (Yaml × Reader)
  | 0, _, _, _ => none
  | fuel + 1, inBlock, inMapping, r => do
    match r.tokens with
    | .alias name :: _ => return (.alias (← Table.get? r.numbers name), r.next)
    | _ =>
      let (q, r) ← r.properties?
      let (known, mark) := r.register q.name
      let items (found : Option (List Yaml × Reader)) := found.map fun (items, r) => (mark (.sequence items), r)
      let entries (found : Option (List (Yaml × Yaml) × Reader)) := found.map fun (entries, r) => (mark (.mapping entries), r)
      match r.tokens with
      | .scalar style text :: _ => return (mark (.scalar q.tag style text), known.next)
      | .flowSequenceStart :: _ => items (flowItems? fuel true known.next)
      | .flowMappingStart :: _ => entries (flowEntries? fuel true known.next)
      | .blockSequenceStart :: _ => if inBlock then items (blockItems? fuel known.next) else missing? q known mark
      | .blockMappingStart :: _ => if inBlock then entries (blockEntries? fuel known.next) else missing? q known mark
      | .blockEntry :: _ => if inMapping then items (plainItems? fuel known) else missing? q known mark
      | _ => missing? q known mark
where
  /-- The empty node that properties stand for. -/
  missing? (q : Properties) (r : Reader) (mark : Yaml → Yaml) : Option (Yaml × Reader) :=
    if q.name.isNone && q.tag.isNone then none else some (mark (.scalar q.tag .plain []), r)

/-- A node that is not written if one of the given tokens stands in its place, or nothing. -/
def nodeBefore? : Nat → List Token → Bool → Bool → Reader → Option (Yaml × Reader)
  | 0, _, _, _, _ => none
  | fuel + 1, ends, inBlock, inMapping, r =>
    if r.sees ends then some (empty, r) else node? fuel inBlock inMapping r

/-- The items of a block sequence up to its end. -/
def blockItems? : Nat → Reader → Option (List Yaml × Reader)
  | 0, _ => none
  | fuel + 1, r => do
    match r.tokens with
    | .blockEntry :: _ =>
      let (item, r) ← nodeBefore? fuel [.blockEntry, .blockEnd] true false r.next
      let (items, r) ← blockItems? fuel r
      return (item :: items, r)
    | .blockEnd :: _ => return ([], r.next)
    | _ => none

/-- The items of a block sequence that is not indented. -/
def plainItems? : Nat → Reader → Option (List Yaml × Reader)
  | 0, _ => none
  | fuel + 1, r => do
    match r.tokens with
    | .blockEntry :: _ =>
      let (item, r) ← nodeBefore? fuel [.blockEntry, .key, .value, .blockEnd] true false r.next
      let (items, r) ← plainItems? fuel r
      return (item :: items, r)
    | _ => return ([], r)

/-- The entries of a block mapping up to its end. -/
def blockEntries? : Nat → Reader → Option (List (Yaml × Yaml) × Reader)
  | 0, _ => none
  | fuel + 1, r => do
    match r.tokens with
    | .key :: _ =>
      let (key, r) ← nodeBefore? fuel [.key, .value, .blockEnd] true true r.next
      let (value, r) ←
        if r.sees [.value] then nodeBefore? fuel [.key, .value, .blockEnd] true true r.next else some (empty, r)
      let (entries, r) ← blockEntries? fuel r
      return ((key, value) :: entries, r)
    | .blockEnd :: _ => return ([], r.next)
    | _ => none

/-- The items of a flow sequence up to its end, after a comma unless they are the first. An item can be a single pair. The mark
of a pair swallows what stands in place of its key. -/
def flowItems? : Nat → Bool → Reader → Option (List Yaml × Reader)
  | 0, _, _ => none
  | fuel + 1, isFirst, r => do
    if r.sees [.flowSequenceEnd] then return ([], r.next)
    if !isFirst && !r.sees [.flowEntry] then none
    let r := if isFirst then r else r.next
    if r.sees [.flowSequenceEnd] then return ([], r.next)
    let (item, r) ←
      if r.sees [.key] then
        let r := r.next
        let (key, r) ←
          if r.sees [.value, .flowEntry, .flowSequenceEnd] then some (empty, r.next) else node? fuel false false r
        let (value, r) ←
          if r.sees [.value] then nodeBefore? fuel [.flowEntry, .flowSequenceEnd] false false r.next else some (empty, r)
        some (.mapping [(key, value)], r)
      else node? fuel false false r
    let (items, r) ← flowItems? fuel false r
    return (item :: items, r)

/-- The entries of a flow mapping up to its end, after a comma unless they are the first. A key without a mark has no value. -/
def flowEntries? : Nat → Bool → Reader → Option (List (Yaml × Yaml) × Reader)
  | 0, _, _ => none
  | fuel + 1, isFirst, r => do
    if r.sees [.flowMappingEnd] then return ([], r.next)
    if !isFirst && !r.sees [.flowEntry] then none
    let r := if isFirst then r else r.next
    if r.sees [.flowMappingEnd] then return ([], r.next)
    let (entry, r) ←
      if r.sees [.key] then
        let (key, r) ← nodeBefore? fuel [.value, .flowEntry, .flowMappingEnd] false false r.next
        let (value, r) ←
          if r.sees [.value] then nodeBefore? fuel [.flowEntry, .flowMappingEnd] false false r.next else some (empty, r)
        some ((key, value), r)
      else (node? fuel false false r).map fun (key, r) => ((key, empty), r)
    let (entries, r) ← flowEntries? fuel false r
    return (entry :: entries, r)

end

/-- The reader after the directives in front of a document, each of which may stand there once. -/
def directives? : Nat → Bool → Reader → Option Reader
  | 0, _, _ => none
  | fuel + 1, hasVersion, r =>
    match r.tokens with
    | .versionDirective major minor :: _ =>
      if hasVersion || major ≠ 1 || (minor ≠ 1 && minor ≠ 2) then none else directives? fuel true r.next
    | .tagDirective handle expansion :: _ =>
      if Table.contains r.handles handle then none
      else directives? fuel hasVersion { r.next with handles := Table.insert r.handles handle expansion }
    | _ => some r

/-- The reader with the handles that every document has. -/
def withStandardHandles (r : Reader) : Reader :=
  let add (t : Table String) (handle expansion : String) := if Table.contains t handle then t else Table.insert t handle expansion
  { r with handles := add (add r.handles "!" "!") "!!" (standardTag "") }

/-- The content of a document. One after a marker can be empty. -/
def content? (r : Reader) : Option (Yaml × Reader) := do
  let fuel := 4 * (r.tokens.length + 2)
  match r.tokens with
  | .versionDirective .. :: _ | .tagDirective .. :: _ | .documentStart :: _ =>
    let r := (← directives? fuel false r).withStandardHandles
    if !r.sees [.documentStart] then none
    let r := r.next
    match r.tokens with
    | [] | .versionDirective .. :: _ | .tagDirective .. :: _ | .documentStart :: _ | .documentEnd :: _ => return (empty, r)
    | _ => node? fuel true false r
  | _ => node? fuel true false r.withStandardHandles

end Reader

/-- The tree of a text with a single document; none in the first place if the text is none, in the second if it is empty. -/
def parse? (text : String) : Option (Option Yaml) := do
  let tokens ← scan? text
  if tokens.isEmpty then return none
  let (node, r) ← Reader.content? { tokens }
  if r.tokens.all (· == .documentEnd) then return some node else none

end PageTemplates.Yaml
