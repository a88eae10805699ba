import PageTemplates.Syntax.StringLiteral
import PageTemplates.Yaml.Place

/-!
# YAML scalars

Reading plain, quoted and block scalars. A line break inside a scalar is folded: one break is a space, and of more breaks the
first is dropped. Where a function's first argument is a number, it bounds the number of characters or lines it reads.
-/

namespace PageTemplates.Yaml

/-- What stands between two words of a scalar: blanks on one line, or line breaks, the first and the further ones. -/
structure Gap where
  blanks : List Char := []
  onNewLine : Bool := false
  first : List Char := []
  further : List Char := []
  deriving DecidableEq, Inhabited

/-- What a gap comes to in the text of a scalar. Only a break of the common kinds is folded. -/
def Gap.text (g : Gap) : List Char :=
  if !g.onNewLine then g.blanks
  else if g.first = ['\n'] then if g.further.isEmpty then [' '] else g.further
  else g.first ++ g.further

/-- The gap at a place after a gap so far, and the place after it. Tabs to the left of the column `least` of a further line are
refused. -/
def readGap? (least : Nat) : Nat → Gap → Place → Option (Gap × Place)
  | 0, _, _ => none
  | fuel + 1, g, p =>
    match p.head? with
    | none => some (g, p)
    | some c =>
      if isSpace c then
        if g.onNewLine then
          if c == '\t' && p.column < least then none else readGap? least fuel g (p.skip 1)
        else readGap? least fuel { g with blanks := g.blanks ++ [c] } (p.skip 1)
      else if isBreak c then
        let (kept, next) := p.readBreak
        if g.onNewLine then readGap? least fuel { g with further := g.further ++ kept } next
        else readGap? least fuel { onNewLine := true, first := kept } next
      else some (g, p)

/-- The marks that structure flow collections. -/
def isFlowMark (c : Char) : Bool :=
  c == ',' || c == '[' || c == ']' || c == '\x7b' || c == '\x7d'

/-- The word of a plain scalar at the start of a text, up to a blank or what ends the scalar. In a flow collection, no mark of one
and no question mark may follow a colon. -/
def plainWord? (inFlow : Bool) : List Char → Option (List Char)
  | [] => some []
  | c :: cs =>
    if isSpace c || isBreak c then some []
    else if inFlow && c == ':' && (cs.head?.map fun d => isFlowMark d || d == '?').getD false then none
    else if (c == ':' && startsBlank cs) || (inFlow && isFlowMark c) then some []
    else (plainWord? inFlow cs).map (c :: ·)

/-- The rest of a plain scalar after a gap: its text, whether the place after it is on a new line, and that place. Further lines of
a scalar outside of flow collections are indented at least by `least`. -/
def readPlainFrom? (inFlow : Bool) (least : Nat) : Nat → Gap → Place → Option (List Char × Bool × Place)
  | 0, _, _ => none
  | fuel + 1, g, p => do
    if p.atDocumentMarker || p.startsWith '#' then return ([], g.onNewLine, p)
    let word ← plainWord? inFlow p.rest
    if word.isEmpty then return ([], g.onNewLine, p)
    let after := p.skip word.length
    if after.rest.isEmpty || !startsBlank after.rest then return (g.text ++ word, false, after)
    let (next, start) ← readGap? least (after.rest.length + 1) {} after
    if !inFlow && start.column < least then return (g.text ++ word, next.onNewLine, start)
    let (more, onNewLine, done) ← readPlainFrom? inFlow least fuel next start
    return (g.text ++ (word ++ more), onNewLine, done)

/-- A plain scalar: its text, whether the place after it is on a new line, and that place. -/
def readPlain? (inFlow : Bool) (least : Nat) (p : Place) : Option (List Char × Bool × Place) :=
  readPlainFrom? inFlow least (p.rest.length + 1) {} p

/-- What a character after a backslash stands for in a double-quoted scalar. -/
def escaped? (c : Char) : Option Char :=
  match c with
  | '0' => some '\x00'
  | 'a' => some '\x07'
  | 'b' => some '\x08'
  | 't' => some '\t'
  | '\t' => some '\t'
  | 'n' => some '\n'
  | 'v' => some '\x0b'
  | 'f' => some '\x0c'
  | 'r' => some '\r'
  | 'e' => some '\x1b'
  | ' ' => some ' '
  | '"' => some '"'
  | '/' => some '/'
  | '\\' => some '\\'
  | 'N' => some '\u0085'
  | '_' => some '\u00a0'
  | 'L' => some '\u2028'
  | 'P' => some '\u2029'
  | _ => none

/-- The number of hexadecimal digits after an escape. -/
def codeLength? (c : Char) : Option Nat :=
  match c with
  | 'x' => some 2
  | 'u' => some 4
  | 'U' => some 8
  | _ => none

/-- The character of an escape, and how many characters the escape takes after its backslash. -/
def readEscape? : List Char → Option (Char × Nat)
  | [] => none
  | c :: cs =>
    match escaped? c, codeLength? c with
    | some x, _ => some (x, 1)
    | none, some n =>
      if (cs.take n).length = n then
        ((StringLiteral.hexDigits? (cs.take n)).bind StringLiteral.scalar?).map fun x => (x, n + 1)
      else none
    | none, none => none

/-- The rest of a quoted scalar: its text and the place after the closing quote. A single quote stands for itself when doubled, and
a double quote and others after a backslash; a backslash before a line break drops it. -/
def readQuotedFrom? (quote : Char) : Nat → Place → Option (List Char × Place)
  | 0, _ => none
  | fuel + 1, p => do
    if p.atDocumentMarker then none
    match p.rest with
    | [] => none
    | c :: cs =>
      if c == '\x27' && quote == '\x27' && cs.head? == some '\x27' then
        let (more, done) ← readQuotedFrom? quote fuel (p.skip 2)
        return (c :: more, done)
      else if c == quote then return ([], p.skip 1)
      else if c == '\\' && quote == '"' then
        if startsBreak cs then
          let (g, next) ← readGap? 0 (cs.length + 1) { onNewLine := true } (p.skip 1).skipBreak
          let (more, done) ← readQuotedFrom? quote fuel next
          return (g.text ++ more, done)
        else
          let (x, length) ← readEscape? cs
          let (more, done) ← readQuotedFrom? quote fuel (p.skip (length + 1))
          return (x :: more, done)
      else if isSpace c || isBreak c then
        let (g, next) ← readGap? 0 (p.rest.length + 1) {} p
        let (more, done) ← readQuotedFrom? quote fuel next
        return (g.text ++ more, done)
      else
        let (more, done) ← readQuotedFrom? quote fuel (p.skip 1)
        return (c :: more, done)

/-- A quoted scalar. -/
def readQuoted? (quote : Char) (p : Place) : Option (List Char × Place) :=
  readQuotedFrom? quote (p.rest.length + 1) (p.skip 1)

/-- How the line breaks at the end of a block scalar are kept. -/
inductive Chomping where
  | clip
  | strip
  | keep
  deriving DecidableEq, Inhabited

/-- The indentation and chomping marks of a block scalar's header, in either order, and their number. -/
def readHeader : List Char → Option Nat × Chomping × Nat
  | '-' :: cs => (digit? cs, .strip, if (digit? cs).isSome then 2 else 1)
  | '+' :: cs => (digit? cs, .keep, if (digit? cs).isSome then 2 else 1)
  | cs =>
    match digit? cs with
    | none => (none, .clip, 0)
    | some n =>
      match cs.tail.head? with
      | some '-' => (some n, .strip, 2)
      | some '+' => (some n, .keep, 2)
      | _ => (some n, .clip, 1)
where
  /-- The digit at the start of a text. -/
  digit? (cs : List Char) : Option Nat :=
    match cs.head? with
    | some d => if d.isDigit then some (d.toNat - 48) else none
    | none => none

/-- The empty lines at a place inside a block scalar: their breaks, the largest column that one reaches, and the place after them
and after the indentation of the next line. The indentation is not known yet if it is zero; before it no tab may stand. -/
def readEmptyLines? (indent : Nat) : Nat → List Char → Nat → Place → Option (List Char × Nat × Place)
  | 0, _, _, _ => none
  | fuel + 1, breaks, largest, p =>
    let spaces := (p.rest.takeWhile (· == ' ')).length
    let p := p.skip (if indent = 0 then spaces else min spaces (indent - p.column))
    let largest := max largest p.column
    if (indent = 0 || p.column < indent) && p.startsWith '\t' then none
    else if startsBreak p.rest then
      let (kept, next) := p.readBreak
      readEmptyLines? indent fuel (breaks ++ kept) largest next
    else some (breaks, largest, p)

/-- What a block scalar has been read to: its text, the break after its last line, the breaks of the empty lines after it, and
whether its last line begins with a blank. -/
structure BlockText where
  text : List Char := []
  lineBreak : List Char := []
  emptyLines : List Char := []
  afterBlank : Bool := false
  deriving DecidableEq, Inhabited

/-- The text up to the start of one more line. The break before it is folded between two lines that begin without a blank. -/
def BlockText.joined (b : BlockText) (folds startsBlank : Bool) : List Char :=
  if folds && b.lineBreak = ['\n'] && !b.afterBlank && !startsBlank then
    b.text ++ (if b.emptyLines.isEmpty then [' '] else b.emptyLines)
  else b.text ++ (b.lineBreak ++ b.emptyLines)

/-- The lines of a block scalar with an indentation, after what has been read of it. -/
def readBlockLines? (folds : Bool) (indent : Nat) : Nat → BlockText → Place → Option (BlockText × Place)
  | 0, _, _ => none
  | fuel + 1, b, p => do
    if p.column ≠ indent || p.rest.isEmpty then return (b, p)
    let isBlank := startsSpace p.rest
    let line := p.rest.takeWhile (!isBreak ·)
    let (kept, next) := (p.skip line.length).readBreak
    let (breaks, _, next) ← readEmptyLines? indent (next.rest.length + 1) [] 0 next
    readBlockLines? folds indent fuel
      { text := b.joined folds isBlank ++ line, lineBreak := kept, emptyLines := breaks, afterBlank := isBlank } next

/-- A block scalar inside of nodes that are indented by less than `least`. -/
def readBlock? (folds : Bool) (least : Nat) (p : Place) : Option (List Char × Place) := do
  let (given, chomping, length) := readHeader p.rest.tail
  if given = some 0 then none
  let start ← (p.skip (1 + length)).endLine?
  let known := match given with
    | some n => if least = 0 then n else least - 1 + n
    | none => 0
  let (breaks, largest, first) ← readEmptyLines? known (start.rest.length + 1) [] 0 start
  let indent := if known = 0 then max 1 (max least largest) else known
  let (b, after) ← readBlockLines? folds indent (first.rest.length + 1) { emptyLines := breaks } first
  match chomping with
  | .strip => return (b.text, after)
  | .clip => return (b.text ++ b.lineBreak, after)
  | .keep => return (b.text ++ (b.lineBreak ++ b.emptyLines), after)

end PageTemplates.Yaml
