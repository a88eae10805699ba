import PageTemplates.Yaml.Names
import PageTemplates.Yaml.Scalars

/-!
# Scanning YAML

From the text of a document to its tokens. Indentation opens and closes block collections. That a node is the key of a mapping
shows only at the colon after it: the scanner remembers where a key could have begun, and puts the tokens in front of it then.
-/

namespace PageTemplates.Yaml

/-- Where the key of a mapping could begin: at which token and at which place of the text. One that has to be a key stands at the
margin of a block mapping. -/
structure KeyStart where
  token : Nat
  index : Nat
  line : Nat
  column : Nat
  isRequired : Bool
  deriving DecidableEq, Inhabited

/-- What has been scanned. `margin` is one more than the column of the block collection around the place, and zero outside of
all; `margins` are those of the collections around it. `start?` is where a key could have begun in the innermost collection, and
`outerStarts` the same for the collections around each flow collection. -/
structure Scanner where
  place : Place
  tokens : Array Token := #[]
  margin : Nat := 0
  margins : List Nat := []
  start? : Option KeyStart := none
  outerStarts : List (Option KeyStart) := []
  mayStartKey : Bool := true
  deriving Inhabited

namespace Scanner

/-- Whether the place is inside a flow collection. -/
def inFlow (s : Scanner) : Bool := !s.outerStarts.isEmpty

/-- With one more token. -/
def push (s : Scanner) (t : Token) : Scanner :=
  { s with tokens := s.tokens.push t }

/-- With a token put before the one with a number. -/
def insert (s : Scanner) (number : Nat) (t : Token) : Scanner :=
  { s with tokens := s.tokens.insertIdxIfInBounds number t }

/-- Without the place where a key could have begun; none if it has to be one. -/
def dropStart? (s : Scanner) : Option Scanner :=
  match s.start? with
  | some key => if key.isRequired then none else some { s with start? := none }
  | none => some s

/-- With the place as one where a key could begin, if keys are allowed here. -/
def saveStart? (s : Scanner) : Option Scanner :=
  if s.mayStartKey then
    (s.dropStart?).map fun s =>
      { s with start? := some { token := s.tokens.size, index := s.place.index, line := s.place.line, column := s.place.column,
                                isRequired := !s.inFlow && s.margin == s.place.column + 1 } }
  else some s

/-- A start of a key that can still be one: on the same line and at most 1024 bytes before. -/
def keepStart? (p : Place) : Option KeyStart → Option (Option KeyStart)
  | some key =>
    if key.line < p.line || key.index + 1024 < p.index then if key.isRequired then none else some none else some (some key)
  | none => some none

/-- Without the starts of keys that can be none any more; none if one has to be. -/
def dropStale? (s : Scanner) : Option Scanner := do
  return { s with start? := ← keepStart? s.place s.start?, outerStarts := ← s.outerStarts.mapM (keepStart? s.place) }

/-- With the block collections closed whose margin is greater than the one given. -/
def closeTo (margin : Nat) : List Nat → Scanner → Scanner
  | [], s => s
  | outer :: margins, s =>
    if s.margin > margin then closeTo margin margins { s.push .blockEnd with margin := outer, margins } else s

/-- With the block collections closed that the place is too far to the left for. -/
def closeBlocks (s : Scanner) (margin : Nat) : Scanner :=
  if s.inFlow then s else closeTo margin s.margins s

/-- With a block collection opened at a column, if there is none yet: its first token goes where `insert` puts it. -/
def openBlock (s : Scanner) (column : Nat) (insert : Scanner → Scanner) : Scanner :=
  if s.inFlow || column < s.margin then s
  else { insert s with margin := column + 1, margins := s.margin :: s.margins }

/-- With the place after `n` characters and one more token. -/
def take (s : Scanner) (n : Nat) (t : Token) : Scanner :=
  { s.push t with place := s.place.skip n }

/-- The scanner at the next token: after blanks, comments and line breaks. A tab may stand before a token unless a key may begin
there. The first argument bounds the number of lines. -/
def seek : Nat → Scanner → Scanner
  | 0, s => s
  | fuel + 1, s =>
    let p := if s.place.column == 0 && s.place.startsWith '\ufeff' then s.place.skip 1 else s.place
    let p := p.skipWhile fun c => c == ' ' || ((s.inFlow || !s.mayStartKey) && c == '\t')
    let p := if p.startsWith '#' then p.skipWhile (!isBreak ·) else p
    if startsBreak p.rest then seek fuel { s with place := p.skipBreak, mayStartKey := !s.inFlow || s.mayStartKey }
    else { s with place := p }

/-- A directive or a document marker, which ends all block collections. -/
def readOutside? (s : Scanner) (read? : Place → Option (Token × Place)) : Option Scanner := do
  let s ← (s.closeBlocks 0).dropStart?
  let (t, after) ← read? s.place
  return { s.push t with place := after, mayStartKey := false }

/-- The beginning of a flow collection. -/
def openFlow? (s : Scanner) (t : Token) : Option Scanner :=
  (s.saveStart?).map fun s => { s.take 1 t with outerStarts := s.start? :: s.outerStarts, start? := none, mayStartKey := true }

/-- The end of a flow collection. -/
def closeFlow? (s : Scanner) (t : Token) : Option Scanner :=
  (s.dropStart?).map fun s =>
    match s.outerStarts with
    | [] => { s.take 1 t with mayStartKey := false }
    | outer :: outerStarts => { s.take 1 t with start? := outer, outerStarts, mayStartKey := false }

/-- A dash in front of the item of a block sequence. -/
def readEntry? (s : Scanner) : Option Scanner := do
  if !s.inFlow && !s.mayStartKey then none
  let s ← (s.openBlock s.place.column (·.push .blockSequenceStart)).dropStart?
  return { s.take 1 .blockEntry with mayStartKey := true }

/-- A mark in front of a key. -/
def readKey? (s : Scanner) : Option Scanner := do
  if !s.inFlow && !s.mayStartKey then none
  let s ← (s.openBlock s.place.column (·.push .blockMappingStart)).dropStart?
  return { s.take 1 .key with mayStartKey := !s.inFlow }

/-- A colon in front of a value. What has been scanned since the last start of a key is the key. -/
def readValue? (s : Scanner) : Option Scanner :=
  match s.start? with
  | some key =>
    let s := (s.insert key.token .key).openBlock key.column (·.insert key.token .blockMappingStart)
    some { s.take 1 .value with start? := none, mayStartKey := false }
  | none =>
    if !s.inFlow && !s.mayStartKey then none
    else
      let s := s.openBlock s.place.column (·.push .blockMappingStart)
      some { s.take 1 .value with mayStartKey := !s.inFlow }

/-- A token with which a node can begin, and so a key. -/
def readNodePart? (s : Scanner) (read? : Place → Option (Token × Place)) : Option Scanner := do
  let s ← s.saveStart?
  let (t, after) ← read? s.place
  return { s.push t with place := after, mayStartKey := false }

/-- A block scalar. -/
def readBlock? (s : Scanner) (style : ScalarStyle) : Option Scanner := do
  let s ← s.dropStart?
  let (text, after) ← Yaml.readBlock? (style == .folded) s.margin s.place
  return { s.push (.scalar style text) with place := after, mayStartKey := true }

/-- A plain scalar. A key may begin after it if it ends on a new line. -/
def readPlain? (s : Scanner) : Option Scanner := do
  let s ← s.saveStart?
  let (text, onNewLine, after) ← Yaml.readPlain? s.inFlow s.margin s.place
  return { s.push (.scalar .plain text) with place := after, mayStartKey := onNewLine }

/-- Whether a plain scalar can begin with a character before the given text. -/
def startsPlain (inFlow : Bool) (c : Char) (cs : List Char) : Bool :=
  if c == '-' then !startsSpace cs
  else if c == '?' || c == ':' then !inFlow && !startsBlank cs
  else !(isSpace c || isBreak c || isFlowMark c || "#&*!|>'\"%@\x60".toList.contains c)

/-- The scanner after the token that begins at its place with a character. -/
def readToken? (s : Scanner) (c : Char) (cs : List Char) : Option Scanner :=
  let blankAfter := startsBlank cs
  if s.place.column == 0 && c == '%' then s.readOutside? readDirective?
  else if s.place.atMarker '-' then s.readOutside? fun p => some (.documentStart, p.skip 3)
  else if s.place.atMarker '.' then s.readOutside? fun p => some (.documentEnd, p.skip 3)
  else if c == '[' then s.openFlow? .flowSequenceStart
  else if c == '\x7b' then s.openFlow? .flowMappingStart
  else if c == ']' then s.closeFlow? .flowSequenceEnd
  else if c == '\x7d' then s.closeFlow? .flowMappingEnd
  else if c == ',' then (s.dropStart?).map fun s => { s.take 1 .flowEntry with mayStartKey := true }
  else if c == '-' && blankAfter then s.readEntry?
  else if c == '?' && (s.inFlow || blankAfter) then s.readKey?
  else if c == ':' && (s.inFlow || blankAfter) then s.readValue?
  else if c == '*' then s.readNodePart? fun p => (readName? p).map fun (name, after) => (.alias name, after)
  else if c == '&' then s.readNodePart? fun p => (readName? p).map fun (name, after) => (.anchor name, after)
  else if c == '!' then s.readNodePart? (readTag? s.inFlow)
  else if c == '|' && !s.inFlow then s.readBlock? .literal
  else if c == '>' && !s.inFlow then s.readBlock? .folded
  else if c == '\x27' then
    s.readNodePart? fun p => (readQuoted? c p).map fun (text, after) => (.scalar .singleQuoted text, after)
  else if c == '"' then
    s.readNodePart? fun p => (readQuoted? c p).map fun (text, after) => (.scalar .doubleQuoted text, after)
  else if startsPlain s.inFlow c cs then s.readPlain?
  else none

/-- All tokens from the scanner's place to the end of the text. The first argument bounds their number. -/
def run? : Nat → Scanner → Option (Array Token)
  | 0, _ => none
  | fuel + 1, s => do
    let s ← (s.seek (s.place.rest.length + 1)).dropStale?
    let s := s.closeBlocks (s.place.column + 1)
    match s.place.rest with
    | [] => return (← (s.closeBlocks 0).dropStart?).tokens
    | c :: cs => run? fuel (← s.readToken? c cs)

end Scanner

/-- The tokens of a text; none if it has characters that no document may hold, or cannot be taken apart. -/
def scan? (text : String) : Option (List Token) :=
  let cs := text.toList
  if cs.all isAllowed then (Scanner.run? (cs.length + 1) { place := { rest := cs } }).map (·.toList) else none

end PageTemplates.Yaml
