import PageTemplates.Yaml.Place
import PageTemplates.Yaml.Token

/-!
# Names, tags and directives

The tokens that say something about a node or a whole document: the names that aliases use, tags, and the directives before a
document. A tag is a text after a handle, which says what to put before that text; escapes in it stand for bytes.
-/

namespace PageTemplates.Yaml

/-- A name after its mark. -/
def readName? (p : Place) : Option (String × Place) :=
  let name := (p.rest.drop 1).takeWhile isNameChar
  let after := p.skip (name.length + 1)
  let ends := startsBlank after.rest || (after.head?.map "?:,]\x7d%@\x60".toList.contains).getD false
  if name.isEmpty || !ends then none else some (String.ofList name, after)

/-- The characters that a tag can hold besides those of names and escapes. The last three can stand only between angle brackets
and in directives. -/
def isTagChar (inBrackets : Bool) (c : Char) : Bool :=
  isNameChar c || ";/?:@&=+$.!~*\x27()".toList.contains c || (inBrackets && ",[]".toList.contains c)

/-- The byte that an escape at the start of a text stands for. -/
def escapedByte? : List Char → Option Nat
  | '%' :: a :: b :: _ =>
    if digitValue a < 16 && digitValue b < 16 then some (16 * digitValue a + digitValue b) else none
  | _ => none

/-- How many bytes a character has that begins with a byte, and what the byte adds to its number. -/
def leadingByte? (b : Nat) : Option (Nat × Nat) :=
  if b < 0x80 then some (1, b)
  else if b < 0xC0 then none
  else if b < 0xE0 then some (2, b - 0xC0)
  else if b < 0xF0 then some (3, b - 0xE0)
  else if b < 0xF8 then some (4, b - 0xF0)
  else none

/-- The number of a character after its first byte, with what that byte adds, and the text after `n` more escapes. -/
def readTrailing? : Nat → Nat → List Char → Option (Nat × List Char)
  | 0, number, cs => some (number, cs)
  | n + 1, number, cs => do
    let b ← escapedByte? cs
    if 0x80 ≤ b && b < 0xC0 then readTrailing? n (64 * number + (b - 0x80)) (cs.drop 3) else none

/-- The characters of a tag at a place, and the place after them. -/
def readTagText? (inBrackets : Bool) : Nat → Place → Option (List Char × Place)
  | 0, _ => none
  | fuel + 1, p =>
    match p.rest with
    | [] => some ([], p)
    | c :: _ =>
      if c == '%' then do
        let (length, begun) ← leadingByte? (← escapedByte? p.rest)
        let (number, _) ← readTrailing? (length - 1) begun (p.rest.drop 3)
        let (more, done) ← readTagText? inBrackets fuel (p.skip (3 * length))
        return ((if number.isValidChar then Char.ofNat number else '\ufffd') :: more, done)
      else if isTagChar inBrackets c then do
        let (more, done) ← readTagText? inBrackets fuel (p.skip 1)
        return (c :: more, done)
      else some ([], p)

/-- The text of a tag. It ends at a character of number zero. -/
def tagText (cs : List Char) : String :=
  String.ofList (cs.takeWhile (· != '\x00'))

/-- The handle and the text of a tag, and the place after it. The tag of one exclamation mark is a text without handle. -/
def readTagParts? (p : Place) : Option (String × String × Place) := do
  if (p.rest.drop 1).head? == some '<' then
    let (text, after) ← readTagText? true p.rest.length (p.skip 2)
    if text.isEmpty || !after.startsWith '>' then none
    return ("", tagText text, after.skip 1)
  let word := (p.rest.drop 1).takeWhile isNameChar
  let after := p.skip (word.length + 1)
  if after.startsWith '!' then
    let (text, after) ← readTagText? false p.rest.length (after.skip 1)
    if text.isEmpty then none
    return (String.ofList ('!' :: word ++ ['!']), tagText text, after)
  let (text, after) ← readTagText? false p.rest.length after
  let suffix := tagText (word ++ text)
  if suffix.isEmpty then return ("", "!", after) else return ("!", suffix, after)

/-- A tag. A blank follows it, or a comma in a flow collection. -/
def readTag? (inFlow : Bool) (p : Place) : Option (Token × Place) := do
  let (handle, suffix, after) ← readTagParts? p
  if startsBlank after.rest || (inFlow && after.startsWith ',') then return (.tag handle suffix, after) else none

/-- A number of at most nine digits. -/
def readNumber? (p : Place) : Option (Nat × Place) :=
  let ds := p.rest.takeWhile (·.isDigit)
  if ds.isEmpty || ds.length > 9 then none else some (ds.foldl (fun n d => 10 * n + digitValue d) 0, p.skip ds.length)

/-- The numbers of a version. -/
def readVersion? (p : Place) : Option (Token × Place) := do
  let (major, after) ← readNumber? (p.skipWhile isSpace)
  if !after.startsWith '.' then none
  let (minor, after) ← readNumber? (after.skip 1)
  return (.versionDirective major minor, after)

/-- A handle and what it stands for. -/
def readHandle? (p : Place) : Option (Token × Place) := do
  let p := p.skipWhile isSpace
  let word := (p.rest.drop 1).takeWhile isNameChar
  let isClosed := (p.rest.drop (word.length + 1)).head? == some '!'
  if !p.startsWith '!' || (!isClosed && !word.isEmpty) then none
  let handle := '!' :: (if isClosed then word ++ ['!'] else word)
  let after := p.skip handle.length
  if !startsSpace after.rest then none
  let (text, after) ← readTagText? true (p.rest.length + 1) (after.skipWhile isSpace)
  if text.isEmpty || !startsBlank after.rest then none
  return (.tagDirective (String.ofList handle) (tagText text), after)

/-- A directive with the line break after it. -/
def readDirective? (p : Place) : Option (Token × Place) := do
  let name := (p.rest.drop 1).takeWhile isNameChar
  let after := p.skip (name.length + 1)
  if !startsBlank after.rest then none
  let (token, after) ←
    if name == "YAML".toList then readVersion? after
    else if name == "TAG".toList then readHandle? after
    else none
  return (token, ← after.endLine?)

end PageTemplates.Yaml
