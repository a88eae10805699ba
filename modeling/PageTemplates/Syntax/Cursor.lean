import PageTemplates.Syntax.ParseError
import PageTemplates.Text.Blank

/-!
# Cursors

A cursor stands between two characters of a text: it knows the characters that follow and how many UTF-8 bytes came before.
Moving it forward over `w` adds the bytes of `w` to its offset, so an offset is always the place of the next character.
-/

namespace PageTemplates

/-- The number of bytes of a text in UTF-8. -/
def utf8Length (cs : List Char) : Nat :=
  cs.foldr (fun c bytes => c.utf8Size + bytes) 0

theorem utf8Length_append (as bs : List Char) : utf8Length (as ++ bs) = utf8Length as + utf8Length bs := by
  induction as with
  | nil => simp [utf8Length]
  | cons c as ih =>
    simp only [utf8Length, List.cons_append, List.foldr_cons] at ih ⊢
    omega

/-- A place in a text. -/
structure Cursor where
  offset : Nat
  rest : List Char
  deriving DecidableEq, Inhabited

namespace Cursor

/-- The start of a text. -/
def ofList (cs : List Char) : Cursor :=
  { offset := 0, rest := cs }

/-- The next character. -/
def peek? (c : Cursor) : Option Char :=
  c.rest.head?

/-- The cursor after the next `n` characters. -/
def skip (c : Cursor) (n : Nat) : Cursor :=
  { offset := c.offset + utf8Length (c.rest.take n), rest := c.rest.drop n }

/-- The cursor after the characters that satisfy `p`, and those characters. -/
def span (c : Cursor) (p : Char → Bool) : List Char × Cursor :=
  (c.rest.takeWhile p, c.skip (c.rest.takeWhile p).length)

/-- The cursor after any blanks. -/
def skipBlanks (c : Cursor) : Cursor :=
  (c.span Text.isBlank).2

/-- The characters between a cursor and a later one in the same text. -/
def upTo (c later : Cursor) : List Char :=
  c.rest.take (c.rest.length - later.rest.length)

/-- The error of finding the wrong character, or nothing, where something was expected. -/
def unexpected (c : Cursor) (expected : Expectation) : ParseError :=
  match c.peek? with
  | some found => .unexpectedChar found c.offset expected
  | none => .unexpectedEnd expected

/-- The cursor after any blanks and the character `x`, if `x` comes next. -/
def eat? (c : Cursor) (x : Char) : Option Cursor :=
  let d := c.skipBlanks
  if d.peek? = some x then some (d.skip 1) else none

/-- The cursor after any blanks and the character `x`, which has to come next. -/
def expect (c : Cursor) (x : Char) (expected : Expectation) : Except ParseError Cursor :=
  match c.eat? x with
  | some d => .ok d
  | none => .error (c.skipBlanks.unexpected expected)

end Cursor

end PageTemplates
