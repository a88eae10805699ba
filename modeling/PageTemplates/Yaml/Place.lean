/-!
# Places in a YAML text

What the scanner knows about where it is, the classes of characters that structure a document, and the two ways of going on: over
characters of a line, and over a line break.
-/

namespace PageTemplates.Yaml

/-- A line break. -/
def isBreak (c : Char) : Bool :=
  c == '\n' || c == '\r' || c == '\u0085' || c == '\u2028' || c == '\u2029'

/-- A space or a tab. -/
def isSpace (c : Char) : Bool :=
  c == ' ' || c == '\t'

/-- Whether a text begins with a line break. -/
def startsBreak (cs : List Char) : Bool :=
  (cs.head?.map isBreak).getD false

/-- Whether a text begins with a space or a tab. -/
def startsSpace (cs : List Char) : Bool :=
  (cs.head?.map isSpace).getD false

/-- Whether a text begins with a space, a tab or a line break, or is empty. -/
def startsBlank (cs : List Char) : Bool :=
  cs.isEmpty || startsSpace cs || startsBreak cs

/-- The characters of names. -/
def isNameChar (c : Char) : Bool :=
  c.isAlphanum || c == '-' || c == '_'

/-- The characters that a document may hold. -/
def isAllowed (c : Char) : Bool :=
  let n := c.toNat
  n == 0x9 || n == 0xA || n == 0xD || (0x20 ≤ n && n ≤ 0x7E) || n == 0x85 || (0xA0 ≤ n && n ≤ 0xFFFD) || 0x10000 ≤ n

/-- A place in a text: how many bytes and line breaks stand before it, its column, and the text from there on. -/
structure Place where
  index : Nat := 0
  line : Nat := 0
  column : Nat := 0
  rest : List Char
  deriving DecidableEq, Inhabited

namespace Place

/-- The place after the first `n` characters, which hold no line break. -/
def skip (p : Place) (n : Nat) : Place :=
  let bytes := (p.rest.take n).foldr (fun c bytes => c.utf8Size + bytes) 0
  { p with index := p.index + bytes, column := p.column + n, rest := p.rest.drop n }

/-- The line break at a place, as a scalar keeps it, and the place after it. -/
def readBreak (p : Place) : List Char × Place :=
  let after (n : Nat) (rest : List Char) : Place := { index := p.index + n, line := p.line + 1, rest }
  match p.rest with
  | '\r' :: '\n' :: cs => (['\n'], after 2 cs)
  | c :: cs =>
    if c == '\u2028' || c == '\u2029' then ([c], after c.utf8Size cs)
    else if isBreak c then (['\n'], after c.utf8Size cs)
    else ([], p)
  | [] => ([], p)

/-- The place after the line break that stands here, if one does. -/
def skipBreak (p : Place) : Place := p.readBreak.2

/-- The place after the characters of a class that stand here. None of them is a line break. -/
def skipWhile (p : Place) (q : Char → Bool) : Place :=
  p.skip (p.rest.takeWhile q).length

/-- The first character. -/
def head? (p : Place) : Option Char := p.rest.head?

/-- Whether a character stands here. -/
def startsWith (p : Place) (c : Char) : Bool := p.rest.head? == some c

/-- Whether the line is the marker of a document's start or end with the given character. -/
def atMarker (p : Place) (c : Char) : Bool :=
  p.column == 0 && p.rest.take 3 == [c, c, c] && startsBlank (p.rest.drop 3)

/-- Whether the line is a document marker. -/
def atDocumentMarker (p : Place) : Bool :=
  p.atMarker '-' || p.atMarker '.'

/-- The place after the rest of a line that may hold spaces and a comment, and after its break; none if something else stands
there. -/
def endLine? (p : Place) : Option Place :=
  let p := p.skipWhile isSpace
  let p := if p.startsWith '#' then p.skipWhile (!isBreak ·) else p
  if p.rest.isEmpty || startsBreak p.rest then some p.skipBreak else none

end Place

end PageTemplates.Yaml
