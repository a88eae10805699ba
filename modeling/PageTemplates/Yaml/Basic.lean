/-!
# YAML trees

The tree of a YAML document. A scalar is a text with its style; the style decides if it can be a number or a truth value. Nodes
that have a name are numbered, and an alias is the number of the node it repeats. Readers of typed values take the texts of
scalars apart here.
-/

namespace PageTemplates

/-- How a scalar is written. -/
inductive ScalarStyle where
  | plain
  | singleQuoted
  | doubleQuoted
  | literal
  | folded
  deriving DecidableEq, Inhabited

/-- The tree of a YAML document. No reader asks for the tag of a collection, so only scalars keep theirs. -/
inductive Yaml where
  | scalar (tag : Option String) (style : ScalarStyle) (text : List Char)
  | sequence (items : List Yaml)
  | mapping (entries : List (Yaml × Yaml))
  /-- A node that aliases repeat by its number. -/
  | anchored (number : Nat) (node : Yaml)
  /-- The node with a number. -/
  | alias (number : Nat)
  deriving Inhabited

namespace Yaml

/-- The node that is not written. -/
def empty : Yaml := .scalar none .plain []

/-- A node without its numbers. -/
def content : Yaml → Yaml
  | .anchored _ node => node.content
  | node => node

mutual

/-- The numbered nodes of a tree in the order in which they begin. -/
def anchors : Yaml → List (Nat × Yaml)
  | .scalar .. => []
  | .sequence items => itemAnchors items
  | .mapping entries => entryAnchors entries
  | .anchored number node => (number, node) :: anchors node
  | .alias _ => []

/-- The numbered nodes of the items of a sequence. -/
def itemAnchors : List Yaml → List (Nat × Yaml)
  | [] => []
  | item :: items => anchors item ++ itemAnchors items

/-- The numbered nodes of the entries of a mapping. -/
def entryAnchors : List (Yaml × Yaml) → List (Nat × Yaml)
  | [] => []
  | (key, value) :: entries => anchors key ++ (anchors value ++ entryAnchors entries)

end

/-- A node of a document as its readers see it: without its number, and for an alias the node it repeats, which is the last one
with the number. -/
def resolve (document : Yaml) (node : Yaml) : Yaml :=
  match node.content with
  | .alias number => ((document.anchors.reverse.lookup number).getD empty).content
  | node => node

/-- The tag that standard types have. -/
def standardTag (type : String) : String := "tag:yaml.org,2002:" ++ type

/-- The text of a scalar. -/
def text? : Yaml → Option String
  | .scalar _ _ text => some (String.ofList text)
  | _ => none

/-- The text of a scalar that may be read as a value of a standard type: a plain one, or a literal one whose tag names the type.
-/
def textOf? (type : String) : Yaml → Option (List Char)
  | .scalar tag style text =>
    if style = .plain || (style = .literal && tag = some (standardTag type)) then some text else none
  | _ => none

/-- The truth value of a scalar. -/
def bool? (node : Yaml) : Option Bool :=
  (node.textOf? "bool").bind fun text =>
    let word := String.ofList text
    if word = "true" || word = "True" || word = "TRUE" then some true
    else if word = "false" || word = "False" || word = "FALSE" then some false
    else none

/-- The value of a digit, whatever the base. -/
def digitValue (c : Char) : Nat :=
  if c.isDigit then c.toNat - 48
  else if 'a' ≤ c && c ≤ 'z' then c.toNat - 87
  else if 'A' ≤ c && c ≤ 'Z' then c.toNat - 55
  else 36

/-- The number that digits denote in a base, if it fits into 64 bits. A plus sign may stand before it. -/
def digits? (base : Nat) (cs : List Char) : Option Nat :=
  let ds := match cs with
    | '+' :: ds => ds
    | ds => ds
  let n := ds.foldl (fun n d => base * n + digitValue d) 0
  if !ds.isEmpty && ds.all (digitValue · < base) && n < Nat.pow 2 64 then some n else none

/-- Digits after a base mark. -/
def afterMark? (base : Nat) (cs : List Char) : Option Nat :=
  if cs.head? = some '+' then none else digits? base cs

/-- The number of a scalar, from zero up to what fits into 64 bits: decimal without needless zeros in front, or with the mark of
base sixteen, eight or two. -/
def nat64? (node : Yaml) : Option Nat :=
  (node.textOf? "int").bind fun text =>
    let unsigned := match text with
      | '+' :: cs => cs
      | cs => cs
    match unsigned with
    | '0' :: 'x' :: ds => afterMark? 16 ds
    | '0' :: 'o' :: ds => afterMark? 8 ds
    | '0' :: 'b' :: ds => afterMark? 2 ds
    | '0' :: _ :: _ => none
    | '+' :: _ => none
    | ds => digits? 10 ds

/-- Whether a text is a word for nothing. -/
def isNullWord (text : List Char) : Bool :=
  let word := String.ofList text
  word = "~" || word = "null" || word = "Null" || word = "NULL"

/-- The number of a scalar that may stand for nothing, as a plain one does that is empty or a word for it. One with a tag stands
for nothing only if the tag says so, and then has to be such a word. -/
def optionalNat64? (node : Yaml) : Option (Option Nat) :=
  match node with
  | .scalar tag .plain text =>
    if tag = some (standardTag "null") then if isNullWord text then some none else none
    else if tag.isNone && (text.isEmpty || isNullWord text) then some none
    else node.nat64?.map some
  | node => node.nat64?.map some

end Yaml

end PageTemplates
