import PageTemplates.Decimal.Reader
import PageTemplates.Syntax.Cursor
import PageTemplates.Syntax.Expression
import PageTemplates.Syntax.StringLiteral

/-!
# Parsing expressions

The grammar:

    pipeline   := expression ( '|' stage )*
    stage      := name ( '(' items? ')' | ':' text )?
    expression := number | string | 'true' | 'false' | 'null' | array | object | call | path
    call       := name '(' items? ')'
    path       := name step*
    step       := '.' name | '[' expression ']'
    array      := '[' items? ']'
    object     := '{' ( entry ( ',' entry )* )? '}'
    entry      := ( name | string ) ( ':' expression )?
    items      := expression ( ',' expression )*

Blanks may stand around every expression and mark, but not inside a path or before the parenthesis of a call. An entry without
a value takes the binding of the same name. `parseExpression`, `parsePipeline` and `parseSteps` read a whole text.
-/

namespace PageTemplates

/-- A name starts with a letter, an underscore or a dollar sign. -/
def isNameStart (c : Char) : Bool :=
  c.isAlpha || c == '_' || c == '$'

/-- A name goes on with letters, digits, underscores and dollar signs. -/
def isNameChar (c : Char) : Bool :=
  c.isAlphanum || c == '_' || c == '$'

/-- The name at the cursor, if one starts there. -/
def parseName? (c : Cursor) : Option (String × Cursor) :=
  match c.peek? with
  | some x =>
    if isNameStart x then
      let (name, d) := c.span isNameChar
      some (String.ofList name, d)
    else
      none
  | none => none

/-- The string literal at the cursor, which stands at its opening quote. -/
def parseString (c : Cursor) : Except ParseError (String × Cursor) :=
  match c.rest with
  | [] => .error (.unterminatedString c.offset)
  | quote :: body =>
    match StringLiteral.read? quote .plain body with
    | none => .error (.unterminatedString c.offset)
    | some (text, after) => .ok (String.ofList text, c.skip (c.rest.length - after.length))

/-- The characters of a number after its sign. A point counts once and only before a digit; an exponent mark takes a sign with
it. The flag says whether a point or an exponent was seen. -/
def scanNumber : Bool → List Char → Bool × List Char
  | isFloat, [] => (isFloat, [])
  | isFloat, c :: cs =>
    let more (isFloat : Bool) := let (float, text) := scanNumber isFloat cs; (float, c :: text)
    if c.isDigit || c == '_' then more isFloat
    else if c = '.' then
      if !isFloat && (cs.head?.map Char.isDigit).getD false then more true else (isFloat, [])
    else if c = 'e' || c = 'E' then
      match cs with
      | s :: r =>
        if s = '+' || s = '-' then let (_, text) := scanNumber true r; (true, c :: s :: text)
        else more true
      | [] => (true, [c])
    else (isFloat, [])

/-- The number at the cursor, which stands at its sign, point or first digit. Underscores between the digits are dropped; an
integer that does not fit becomes a float. -/
def parseNumber (c : Cursor) : Except ParseError (Literal × Cursor) :=
  let sign := if c.peek? = some '-' then ['-'] else []
  let (isFloat, body) := scanNumber false (c.rest.drop sign.length)
  let text := sign ++ body
  let d := c.skip text.length
  let digits := text.filter (· != '_')
  let float := match Decimal.readFloat? digits with
    | some x => .ok (.float x, d)
    | none => .error (.invalidNumber (String.ofList text))
  if (d.peek?.map isNameChar).getD false then .error (d.unexpected .endOfNumber)
  else if isFloat then float
  else match Decimal.readInt64? digits with
    | some n => .ok (.int n, d)
    | none => float

/-- The constant that a name stands for, if it is one of the reserved words. -/
def reserved? (name : String) : Option Literal :=
  if name = "true" then some (.bool true)
  else if name = "false" then some (.bool false)
  else if name = "null" then some .null
  else none

mutual

/-- The expression at the cursor, after any blanks. The first argument bounds the nesting. -/
def parseExpressionAt : Nat → Cursor → Except ParseError (Expression × Cursor)
  | 0, c => .error (c.unexpected .expression)
  | fuel + 1, start =>
    let c := start.skipBlanks
    match c.rest with
    | [] => .error (.unexpectedEnd .expression)
    | x :: xs =>
      if isQuote x then do
        let (text, d) ← parseString c
        return (.literal (.string text), d)
      else if x.isDigit || ((x = '-' || x = '.') && (xs.head?.map Char.isDigit).getD false) then do
        let (number, d) ← parseNumber c
        return (.literal number, d)
      else if x = '[' then do
        let (items, d) ← parseItems fuel (c.skip 1) ']' .endOfArray
        return (.array items, d)
      else if x = '\x7b' then do
        let (entries, d) ← parseEntries fuel (c.skip 1)
        return (.object entries, d)
      else match parseName? c with
        | some (name, d) => parseNamed fuel c name d
        | none => .error (c.unexpected .expression)

/-- The expression that starts with a name: a call, a reserved word or a path. The first cursor stands before the name, the
second after it. -/
def parseNamed : Nat → Cursor → String → Cursor → Except ParseError (Expression × Cursor)
  | 0, _, _, c => .error (c.unexpected .expression)
  | fuel + 1, start, name, c =>
    if c.peek? = some '(' then do
      let (args, d) ← parseItems fuel (c.skip 1) ')' .endOfArguments
      return (.call { name, args }, d)
    else if c.peek? = some '.' ∨ c.peek? = some '[' ∨ reserved? name = none then do
      let (steps, d) ← parseStepsAt fuel c
      return (.binding { text := String.ofList (start.upTo d), head := name, steps }, d)
    else match reserved? name with
      | some literal => .ok (.literal literal, c)
      | none => .error (c.unexpected .expression)

/-- The steps of a path from the cursor on. -/
def parseStepsAt : Nat → Cursor → Except ParseError (List (Accessor Expression) × Cursor)
  | 0, c => .error (c.unexpected .step)
  | fuel + 1, c =>
    match c.rest with
    | '.' :: _ =>
      match parseName? (c.skip 1) with
      | some (name, d) => do
        let (steps, e) ← parseStepsAt fuel d
        return (.member name :: steps, e)
      | none => .error ((c.skip 1).unexpected .memberName)
    | '[' :: _ => do
      let (index, d) ← parseExpressionAt fuel (c.skip 1)
      let e ← d.expect ']' .closingBracket
      let (steps, f) ← parseStepsAt fuel e
      return (.index index :: steps, f)
    | _ => .ok ([], c)

/-- Expressions between commas up to the closing mark, which may come at once. -/
def parseItems : Nat → Cursor → Char → Expectation → Except ParseError (List Expression × Cursor)
  | 0, c, _, expected => .error (c.unexpected expected)
  | fuel + 1, c, close, expected =>
    match c.eat? close with
    | some d => .ok ([], d)
    | none => parseMoreItems fuel c close expected

/-- One expression, and as many more as commas follow, up to the closing mark. -/
def parseMoreItems : Nat → Cursor → Char → Expectation → Except ParseError (List Expression × Cursor)
  | 0, c, _, expected => .error (c.unexpected expected)
  | fuel + 1, c, close, expected => do
    let (item, d) ← parseExpressionAt fuel c
    match d.eat? ',' with
    | some e => do
      let (items, f) ← parseMoreItems fuel e close expected
      return (item :: items, f)
    | none => do
      let e ← d.expect close expected
      return ([item], e)

/-- The entries of an object after its opening brace, up to the closing one, which may come at once. -/
def parseEntries : Nat → Cursor → Except ParseError (List (String × Expression) × Cursor)
  | 0, c => .error (c.unexpected .endOfObject)
  | fuel + 1, c =>
    match c.eat? '\x7d' with
    | some d => .ok ([], d)
    | none => parseMoreEntries fuel c

/-- One entry, and as many more as commas follow, up to the closing brace. -/
def parseMoreEntries : Nat → Cursor → Except ParseError (List (String × Expression) × Cursor)
  | 0, c => .error (c.unexpected .endOfObject)
  | fuel + 1, start => do
    let (key, value, d) ← parseEntry fuel start.skipBlanks
    match d.eat? ',' with
    | some e => do
      let (entries, f) ← parseMoreEntries fuel e
      return ((key, value) :: entries, f)
    | none => do
      let e ← d.expect '\x7d' .endOfObject
      return ([(key, value)], e)

/-- One entry of an object: a name or a string, and a value after a colon. Only a name may go without a value. -/
def parseEntry : Nat → Cursor → Except ParseError (String × Expression × Cursor)
  | 0, c => .error (c.unexpected .objectKey)
  | fuel + 1, c =>
    match parseName? c with
    | some (key, d) =>
      match d.eat? ':' with
      | some e => do
        let (value, f) ← parseExpressionAt fuel e
        return (key, value, f)
      | none => .ok (key, .binding (.ofName key), d)
    | none =>
      if (c.peek?.map isQuote).getD false then do
        let (key, d) ← parseString c
        let e ← d.expect ':' .colon
        let (value, f) ← parseExpressionAt fuel e
        return (key, value, f)
      else
        .error (c.unexpected .objectKey)

end

/-- A bound on the nesting of an expression in a text: every second call of the parser reads a character. -/
def nestingBound (cs : List Char) : Nat :=
  3 * cs.length + 3

/-- The expression that a whole text is. -/
def parseExpression (text : List Char) : Except ParseError Expression := do
  let (e, c) ← parseExpressionAt (nestingBound text) (Cursor.ofList text)
  let d := c.skipBlanks
  if d.rest.isEmpty then return e else throw (d.unexpected .endOfExpression)

/-- The steps that a whole text is, as they stand after the head of a path. -/
def parseSteps (text : List Char) : Except ParseError (List (Accessor Expression)) := do
  let (steps, c) ← parseStepsAt (nestingBound text) (Cursor.ofList text)
  if c.rest.isEmpty then return steps else throw (c.unexpected .step)

/-- The argument written after a colon: a string literal that is the whole argument stands for its text, anything else for
the text as written, and nothing for no argument. -/
def colonArgument (text : List Char) : List Expression :=
  let written := Text.trim text
  if written.isEmpty then []
  else match parseExpression written with
    | .ok (.literal (.string s)) => [.string s]
    | _ => [.string (String.ofList written)]

/-- The arguments of a stage, from the cursor after its name. -/
def parseStageArguments (c : Cursor) : Except ParseError (List Expression × Cursor) :=
  let d := c.skipBlanks
  if d.peek? = some '(' then
    parseItems (nestingBound d.rest) (d.skip 1) ')' .endOfArguments
  else if d.peek? = some ':' then
    let e := d.skip 1
    let argument := (splitBar e.rest).1
    .ok (colonArgument argument, e.skip argument.length)
  else
    .ok ([], d)

/-- The stages from the cursor on, to the end of the text. The first argument bounds their number. -/
def parseStages : Nat → Cursor → Except ParseError (List (FilterCall Expression))
  | 0, c => .error (c.unexpected .stageOrEnd)
  | fuel + 1, start =>
    let c := start.skipBlanks
    match c.rest with
    | [] => .ok []
    | x :: _ =>
      if x = '|' then
        let d := (c.skip 1).skipBlanks
        match parseName? d with
        | none => .error (d.unexpected .filterName)
        | some (name, e) => do
          let (args, f) ← parseStageArguments e
          let stages ← parseStages fuel f
          return { name, args } :: stages
      else
        .error (c.unexpected .stageOrEnd)

/-- The pipeline that a whole text is. -/
def parsePipeline (text : List Char) : Except ParseError Pipeline := do
  let (initial, c) ← parseExpressionAt (nestingBound text) (Cursor.ofList text)
  let stages ← parseStages (text.length + 1) c
  return { initial, stages }

/-- A binding text cut before its first point, opening bracket or space: the head and the rest. -/
def splitBinding (text : List Char) : List Char × List Char :=
  text.span fun c => c != '.' && c != '[' && c != ' '

end PageTemplates
