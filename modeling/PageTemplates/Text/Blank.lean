/-!
# Blank characters

The characters with the Unicode property `White_Space`, and trimming by that property. Template text, front matter,
expressions and number texts all trim by this one rule.
-/

namespace PageTemplates.Text

/-- A blank is a character with the Unicode property `White_Space`. -/
def isBlank (c : Char) : Bool :=
  let n := c.toNat
  (0x09 ≤ n && n ≤ 0x0D) || n == 0x20 || n == 0x85 || n == 0xA0 || n == 0x1680 || (0x2000 ≤ n && n ≤ 0x200A) ||
    n == 0x2028 || n == 0x2029 || n == 0x202F || n == 0x205F || n == 0x3000

/-- The text without its leading blanks. -/
def trimStart (cs : List Char) : List Char :=
  cs.dropWhile isBlank

/-- The text without its trailing blanks. -/
def trimEnd (cs : List Char) : List Char :=
  (cs.reverse.dropWhile isBlank).reverse

/-- The text without leading and trailing blanks. -/
def trim (cs : List Char) : List Char :=
  trimEnd (trimStart cs)

/-- The text of `s` without leading and trailing blanks. -/
def trimmed (s : String) : String :=
  String.ofList (trim s.toList)

/-- Every blank of the core library's class is a blank here. -/
theorem isBlank_of_isWhitespace {c : Char} (h : c.isWhitespace = true) : isBlank c = true := by
  simp only [Char.isWhitespace, Bool.or_eq_true, decide_eq_true_eq] at h
  rcases h with ((h | h) | h) | h <;> subst h <;> decide

end PageTemplates.Text
