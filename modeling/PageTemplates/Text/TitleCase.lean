import PageTemplates.Text.Alphabetic
import PageTemplates.Text.CaseMap

/-!
# Title case

The first character of every word in upper case and the others in lower case. A word is what stands between spaces; one whose
letters are all upper case is an acronym and keeps them.
-/

namespace PageTemplates.Text

/-- A word with a letter and no letter that is not upper case. -/
def isAcronym (word : List Char) : Bool :=
  word.any isAlphabetic && (word.filter isAlphabetic).all isUppercase

/-- The title case of a word. -/
def titleWord : List Char → List Char
  | [] => []
  | c :: cs => upperChar c ++ (if isAcronym (c :: cs) then cs else lower cs)

/-- A text cut at every occurrence of a character. -/
def splitAtChar (mark : Char) : List Char → List (List Char)
  | [] => [[]]
  | c :: cs =>
    if c = mark then [] :: splitAtChar mark cs
    else match splitAtChar mark cs with
      | word :: more => (c :: word) :: more
      | [] => [[c]]

/-- The title case of a text. -/
def titleCase (cs : List Char) : List Char :=
  [' '].intercalate ((splitAtChar ' ' cs).map titleWord)

end PageTemplates.Text
