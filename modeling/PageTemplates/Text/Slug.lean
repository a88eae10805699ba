import PageTemplates.Text.Blank
import PageTemplates.Text.CaseMap
import PageTemplates.Text.Parts
import PageTemplates.Text.Romanize

/-!
# Slugs

A slug names a page in a URL: lower-case ASCII letters, digits and single dashes. Dashes are merged two by two until none stands
beside another. Main statement: every pass makes the text shorter, so there is a last one.
-/

namespace PageTemplates.Text

/-- The characters of a slug. -/
def isSlugChar (c : Char) : Bool :=
  c.isAlphanum || c == '-'

/-- One pass over a text: two dashes become one, from left to right. -/
def mergeDashes (cs : List Char) : List Char :=
  replaceAll ['-', '-'] ['-'] cs

/-- A pass makes a text with a dash beside another one shorter. -/
theorem length_mergeDashes_lt {cs : List Char} (h : occursIn ['-', '-'] cs = true) : (mergeDashes cs).length < cs.length :=
  length_replaceAll_lt (by decide) h

/-- A text after as many passes as it takes until no dash stands beside another. -/
def singleDashes (cs : List Char) : List Char :=
  if _ : occursIn ['-', '-'] cs = true then singleDashes (mergeDashes cs) else cs
termination_by cs.length
decreasing_by exact length_mergeDashes_lt ‹_›

/-- The slug characters of an ASCII text: trimmed, in lower case, with dashes for spaces and without anything else. -/
def dashed (cs : List Char) : List Char :=
  ((lower (trim cs)).map fun c => if c = ' ' then '-' else c).filter isSlugChar

/-- The slug of an ASCII text. -/
def slugOfAscii (cs : List Char) : List Char :=
  singleDashes (dashed cs)

/-- The slug of a text. -/
def slug (cs : List Char) : List Char :=
  slugOfAscii (romanize cs)

end PageTemplates.Text
