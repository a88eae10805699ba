/-!
# HTML text

Text in which the five characters that mean something in HTML are written as entities.
-/

namespace PageTemplates.Text

/-- How a character is written in HTML text. -/
def htmlEntity (c : Char) : List Char :=
  if c = '&' then "&amp;".toList
  else if c = '<' then "&lt;".toList
  else if c = '>' then "&gt;".toList
  else if c = '"' then "&quot;".toList
  else if c = '\x27' then "&#39;".toList
  else [c]

/-- A text with its HTML characters written as entities. -/
def escapeHtml (s : String) : String :=
  String.ofList (s.toList.flatMap htmlEntity)

end PageTemplates.Text
