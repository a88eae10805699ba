import PageTemplates.Syntax.Quoting

/-!
# String literals

The text between two equal quotes. A backslash gives the next character a meaning of its own: `n`, `t`, `r` and `0` stand for
control characters, `u` and four more characters for the character that they number in hexadecimal, and any other character
for itself. Four characters that name nothing stay as written, backslash and `u` included.
-/

namespace PageTemplates.StringLiteral

/-- The meaning of a character after a backslash, apart from `u`. -/
def unescape (c : Char) : Char :=
  if c = 'n' then '\n'
  else if c = 't' then '\t'
  else if c = 'r' then '\r'
  else if c = '0' then '\x00'
  else c

/-- The value of a hexadecimal digit. -/
def hexDigit? (c : Char) : Option Nat :=
  if c.isDigit then some (c.toNat - '0'.toNat)
  else if 'a' ≤ c ∧ c ≤ 'f' then some (c.toNat - 'a'.toNat + 10)
  else if 'A' ≤ c ∧ c ≤ 'F' then some (c.toNat - 'A'.toNat + 10)
  else none

/-- The number that hexadecimal digits denote. -/
def hexDigits? (cs : List Char) : Option Nat :=
  cs.foldlM (fun n c => (hexDigit? c).map (16 * n + ·)) 0

/-- The number written in hexadecimal: one or more digits, after a plus sign if there is one. -/
def hexNumber? (cs : List Char) : Option Nat :=
  match cs with
  | [] => none
  | ['+'] => none
  | '+' :: ds => hexDigits? ds
  | ds => hexDigits? ds

/-- The character with the given number, unless the number is a surrogate's or too large. -/
def scalar? (n : Nat) : Option Char :=
  if n.isValidChar then some (Char.ofNat n) else none

/-- What a backslash, `u` and the given characters stand for. -/
def codeText (cs : List Char) : List Char :=
  match (hexNumber? cs).bind scalar? with
  | some c => [c]
  | none => '\\' :: 'u' :: cs

/-- Where the reader stands in a literal: at a plain character, after a backslash, or among the four characters of a code,
with those seen so far. -/
inductive State where
  | plain
  | escaped
  | code (seen : List Char)
  deriving DecidableEq, Inhabited

/-- Reads up to the closing quote: the text of the literal and the characters after the quote. -/
def read? (quote : Char) : State → List Char → Option (List Char × List Char)
  | _, [] => none
  | .plain, c :: cs =>
    if c = quote then some ([], cs)
    else if c = '\\' then read? quote .escaped cs
    else (read? quote .plain cs).map fun (text, after) => (c :: text, after)
  | .escaped, c :: cs =>
    if c = 'u' then read? quote (.code []) cs
    else (read? quote .plain cs).map fun (text, after) => (unescape c :: text, after)
  | .code seen, c :: cs =>
    if seen.length < 3 then read? quote (.code (seen ++ [c])) cs
    else (read? quote .plain cs).map fun (text, after) => (codeText (seen ++ [c]) ++ text, after)

end PageTemplates.StringLiteral
