import PageTemplates.Text.Romanize.Alphabets
import PageTemplates.Text.Romanize.Emoji
import PageTemplates.Text.Romanize.Han

/-!
# Romanizing

A text written in ASCII: letters of other alphabets by their sound, signs by their look or meaning, Han characters and emoji by
words. ASCII text stays as it is; a character without a reading becomes `[?]`.
-/

namespace PageTemplates.Text

namespace Romanize

/-- The sounds of the first consonant of a Hangul syllable. -/
def hangulInitials : List String :=
  ["g", "gg", "n", "d", "dd", "r", "m", "b", "bb", "s", "ss", "", "j", "jj", "c", "k", "t", "p", "h"]

/-- The sounds of the vowel of a Hangul syllable. -/
def hangulVowels : List String :=
  ["a", "ae", "ya", "yae", "eo", "e", "yeo", "ye", "o", "wa", "wae", "oe", "yo", "u", "weo", "we", "wi", "yu", "eu", "yi", "i"]

/-- The sounds of the last consonants of a Hangul syllable. -/
def hangulFinals : List String :=
  ["", "g", "gg", "gs", "n", "nj", "nh", "d", "l", "lg", "lm", "lb", "ls", "lt", "lp", "lh", "m", "b", "bs", "s", "ss", "ng",
    "j", "c", "k", "t", "p", "h"]

/-- The reading of a Hangul syllable, whose place in its block tells its three parts. -/
def hangulReading? (n : Nat) : Option String :=
  if 0xAC00 ≤ n && n ≤ 0xD7A3 then
    let k := n - 0xAC00
    some (hangulInitials.getD (k / 588) "" ++ hangulVowels.getD (k / 28 % 21) "" ++ hangulFinals.getD (k % 28) "")
  else
    none

/-- A reading: sounds that join their neighbours, or a word that stands apart from them. -/
inductive Reading where
  | sounds (text : String)
  | word (text : String)
  deriving DecidableEq, Inhabited

/-- The reading written as `text`: a blank at its end sets a word apart. -/
def Reading.ofText (text : String) : Reading :=
  match text.toList.reverse with
  | ' ' :: c :: cs => .word (String.ofList (c :: cs).reverse)
  | _ => .sounds text

/-- The reading of a character. -/
def reading (c : Char) : Reading :=
  let n := c.toNat
  if n < 128 then .sounds c.toString
  else match alphabetReading? n with
    | some text => .ofText text
    | none =>
      match hangulReading? n with
      | some text => .sounds text
      | none =>
        match hanReading? c with
        | some text => .word text
        | none =>
          match emojiName? n with
          | some text => .word text
          | none => .sounds "[?]"

/-- The text of a reading. -/
def Reading.text : Reading → List Char
  | .sounds s => s.toList
  | .word s => s.toList

/-- The readings one after the other, with a space after a word unless one follows or nothing does. -/
def join : List Reading → List Char
  | [] => []
  | .sounds s :: rs => s.toList ++ join rs
  | .word s :: rs =>
    match rs with
    | [] => s.toList
    | r :: _ => if r.text.head? = some ' ' then s.toList ++ join rs else s.toList ++ ' ' :: join rs

end Romanize

/-- The text in ASCII. -/
def romanize (cs : List Char) : List Char :=
  Romanize.join (cs.map Romanize.reading)

end PageTemplates.Text
