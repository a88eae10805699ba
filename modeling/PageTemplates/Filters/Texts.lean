import PageTemplates.Filters.Arguments
import PageTemplates.Text.Html
import PageTemplates.Text.Parts
import PageTemplates.Text.Slug
import PageTemplates.Text.TitleCase
import PageTemplates.Text.Width

/-!
# Text filters

These filters work on the text of their value, whatever its kind; null has the empty text. Places and lengths count characters,
padding counts columns.
-/

namespace PageTemplates.Texts

/-- The filter that maps the text of its value and keeps null. -/
def mapping (f : List Char → List Char) : ValueFilter := fun _ v _ =>
  match v with
  | .null => .ok .null
  | v => .ok (.ofChars (f v.display.toList))

/-- Puts the argument after the value. -/
def append : ValueFilter := fun _ v args =>
  .ok (.string (v.display ++ Argument.display args 0))

/-- Puts the argument before the value. -/
def prepend : ValueFilter := fun _ v args =>
  .ok (.string (Argument.display args 0 ++ v.display))

/-- Replaces the first argument by the second wherever it occurs. -/
def replace : ValueFilter := fun _ v args => do
  let target ← Argument.text "replace" args 0
  return .ofChars (Text.replaceAll target.toList (Argument.display args 1).toList v.display.toList)

/-- The characters from a place on. -/
def substringFrom : ValueFilter := fun _ v args => do
  let start ← Argument.count "substring" args 0
  return .ofChars (v.display.toList.drop start)

/-- The characters from a place on, as many as the second argument says. -/
def substring : ValueFilter := fun _ v args => do
  let start ← Argument.count "substring" args 0
  let length ← Argument.count "substring" args 1
  return .ofChars ((v.display.toList.drop start).take length)

/-- The sides on which a text can be padded. -/
inductive Side where
  | left
  | right
  deriving DecidableEq, Inhabited

/-- A text with a padding on one side. -/
def Side.attach (side : Side) (padding cs : List Char) : List Char :=
  match side with
  | .left => padding ++ cs
  | .right => cs ++ padding

/-- The character that fills: the first one of the second argument's text, else a space. -/
def fillChar (args : List Value) : Char :=
  (Argument.display args 1).toList.head?.getD ' '

/-- The text with as many fill characters as its width falls short of the wanted one. -/
def padded (side : Side) (fill : Char) (width : Nat) (cs : List Char) : List Char :=
  side.attach (List.replicate (width - Text.width cs) fill) cs

/-- Pads the value to a width. -/
def pad (name : String) (side : Side) : ValueFilter := fun _ v args => do
  let width ← Argument.count name args 0
  return .ofChars (padded side (fillChar args) width v.display.toList)

/-- The text in HTML form, as raw text. -/
def htmlEncode : ValueFilter := fun _ v _ =>
  .ok (.raw (Text.escapeHtml v.display))

/-- The text as raw text. -/
def raw : ValueFilter := fun _ v _ =>
  .ok (.raw v.display)

/-- The JSON text of the value, as raw text. -/
def json : ValueFilter := fun _ v _ =>
  .ok (.raw (String.ofList v.toJson.compact))

/-- The parts of the text between the occurrences of the argument. -/
def split : ValueFilter := fun _ v args => do
  let separator ← Argument.text "split" args 0
  return .array ((Text.splitOn separator.toList v.display.toList).map Value.ofChars)

/-- The texts of an array's items with a separator between them; any other value is its own text. -/
def joined (separator : List Char) : Value → Value
  | .array items => .ofChars (Text.joinWith separator (items.map (·.display.toList)))
  | .null => .null
  | v => .string v.display

/-- Joins with commas. -/
def joinCommas : ValueFilter := fun _ v _ =>
  .ok (joined [','] v)

/-- Joins with the argument. -/
def join : ValueFilter := fun _ v args => do
  let separator ← Argument.text "join" args 0
  return joined separator.toList v

end PageTemplates.Texts
