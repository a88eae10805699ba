import PageTemplates.Text.Width.Tables

/-!
# Display width

How many columns a text takes on a terminal. Most characters have a width of their own: two for wide characters and emoji, none
for marks that join the character before them, one for the others. Some sequences take less than their characters together: a line
break of two characters, emoji sequences, and ligatures of several scripts. Whether a character belongs to one is decided by what
stands after it, so a text is read from its end.
-/

namespace PageTemplates.Text

namespace Width

/-- What a character before the text can combine with: how the text after it begins. -/
inductive Start where
  | other
  | lineFeed
  | skinTone
  | regionalIndicator
  /-- Two regional indicators or more. -/
  | regionalIndicators
  | emoji
  /-- A joiner before an emoji. -/
  | joinedEmoji
  /-- A keycap before a joiner and an emoji. -/
  | keycap
  /-- Regional indicators before a joiner and an emoji: one, an even number, or an odd one from three on. -/
  | joinedIndicator
  | joinedEvenIndicators
  | joinedOddIndicators
  /-- The end of an emoji's tag before a joiner and an emoji, after some letters of the tag. -/
  | tagLetters (count : Nat)
  /-- The same after some digits. -/
  | tagDigits (count : Nat)
  /-- The Kirat Rai vowel sign that others contain. -/
  | kiratE
  | kiratAi
  | alef
  | lamed
  | buginiYa
  /-- A Buginese vowel sign before a joiner and the letter ya. -/
  | buginiIYa
  | coengLetter
  | tifinaghConsonant
  /-- The Tifinagh joiner before a consonant. -/
  | tifinaghJoiner
  | lisuTone
  | orkhonI
  deriving DecidableEq, Inhabited

/-- The form that a selector asks the character before it for. -/
inductive Form where
  | text
  | emoji
  deriving DecidableEq, Inhabited

/-- The text after a character: how it begins, apart from a selector in front and from a joiner in a ligature. -/
structure Following where
  start : Start := .other
  form? : Option Form := none
  joined : Bool := false
  deriving DecidableEq, Inhabited

/-- Whether a text begins with the last letter of a ligature, which marks that are not shown do not break. -/
def Start.endsLigature : Start → Bool
  | .alef | .lamed | .buginiYa | .buginiIYa | .coengLetter | .tifinaghConsonant | .tifinaghJoiner | .lisuTone | .orkhonI => true
  | _ => false

/-- The text with a selector before it. -/
def Following.select (f : Following) (form : Form) : Following :=
  let keeps := f.start.endsLigature || (form = .emoji && (f.start = .joinedEmoji || f.start = .keycap))
  if keeps then { f with form? := some form } else { form? := some form }

/-- The text without the selector that was before it, which the character before it has no form for. -/
def Following.unselect (f : Following) : Following :=
  if f.start.endsLigature then { f with form? := none } else {}

/-- Joins two characters. -/
def joiner : Char := '\u200d'

/-- Asks for the text form of the character before it. -/
def textSelector : Char := '\ufe0e'

/-- Asks for the emoji form of the character before it. -/
def emojiSelector : Char := '\ufe0f'

/-- Whether a character is a regional indicator, two of which make a flag. -/
def isRegionalIndicator (c : Char) : Bool :=
  0x1F1E6 ≤ c.toNat && c.toNat ≤ 0x1F1FF

/-- Whether a character is a skin tone. -/
def isSkinTone (c : Char) : Bool :=
  0x1F3FB ≤ c.toNat && c.toNat ≤ 0x1F3FF

/-- Whether a character is a letter of a tag. -/
def isTagLetter (c : Char) : Bool :=
  0xE0061 ≤ c.toNat && c.toNat ≤ 0xE007A

/-- Whether a character is a digit of a tag. -/
def isTagDigit (c : Char) : Bool :=
  0xE0030 ≤ c.toNat && c.toNat ≤ 0xE0039

/-- How a text begins whose first character stands alone. -/
def startOf (c : Char) : Start :=
  let n := c.toNat
  if n = 0xA then .lineFeed
  else if n = 0x5DC then .lamed
  else if inRanges alefRanges n then .alef
  else if inRanges coengRanges n then .coengLetter
  else if n = 0x1A10 then .buginiYa
  else if inRanges tifinaghConsonantRanges n then .tifinaghConsonant
  else if n = 0xA4FC || n = 0xA4FD then .lisuTone
  else if n = 0x10C03 then .orkhonI
  else if n = 0x16D67 then .kiratE
  else if n = 0x16D68 then .kiratAi
  else if isRegionalIndicator c then .regionalIndicator
  else if isSkinTone c then .skinTone
  else if inRanges emojiRanges n then .emoji
  else .other

/-- The width of a character that stands alone. -/
def charWidth (c : Char) : Nat :=
  if c.toNat = 0x17D8 then 3
  else if inRanges zeroRanges c.toNat then 0
  else if inRanges wideRanges c.toNat then 2
  else 1

/-- The width and the text of a character that does not combine. -/
def alone (c : Char) : Int × Following :=
  (charWidth c,
    { start := startOf c
      form? := if c = textSelector then some .text else if c = emojiSelector then some .emoji else none })

/-- What a character that combines with the text after it adds to the width, and the text that it begins. -/
def combine? (c : Char) (f : Following) : Option (Int × Following) :=
  let n := c.toNat
  let becomes (width : Int) (start : Start) : Option (Int × Following) := some (width, { start })
  match f.start with
  | .alef =>
    if !f.joined && inRanges lamRanges n then becomes 0 .other
    else if !f.joined && charWidth c = 0 && !inRanges joinBreakRanges n then some (0, f)
    else none
  | .lamed => if f.joined && n = 0x5D0 then becomes 0 .other else none
  | .coengLetter => if n = 0x17D2 then becomes (-1) .other else none
  | .buginiYa => if f.joined && n = 0x1A17 then becomes 0 .buginiIYa else none
  | .buginiIYa => if n = 0x1A15 then becomes 0 .other else none
  | .tifinaghConsonant =>
    if n = 0x2D7F then becomes 1 .tifinaghJoiner
    else if f.joined && inRanges tifinaghConsonantRanges n then becomes 0 .other
    else none
  | .tifinaghJoiner => if inRanges tifinaghConsonantRanges n then becomes (-1) .other else none
  | .lisuTone => if 0xA4F8 ≤ n && n ≤ 0xA4FB then becomes 0 .other else none
  | .orkhonI => if f.joined && n = 0x10C32 then becomes 0 .other else none
  | .skinTone =>
    if inRanges modifierBaseRanges n then becomes 0 .emoji else if c = joiner then becomes 0 .joinedEmoji else none
  | .regionalIndicator => if isRegionalIndicator c then becomes 1 .regionalIndicators else none
  | .regionalIndicators =>
    if isRegionalIndicator c then becomes 1 .regionalIndicators else if c = joiner then becomes 0 .joinedEmoji else none
  | .emoji => if c = joiner then becomes 0 .joinedEmoji else none
  | .joinedEmoji =>
    if n = 0x20E3 then becomes 0 .keycap
    else if isRegionalIndicator c then becomes 1 .joinedIndicator
    else if isSkinTone c then becomes 0 .skinTone
    else if n = 0xE007F then becomes 0 (.tagLetters 0)
    else if inRanges emojiRanges n then becomes 0 .emoji
    else none
  | .joinedIndicator => if isRegionalIndicator c then becomes (-1) .joinedEvenIndicators else none
  | .joinedOddIndicators =>
    if isRegionalIndicator c then becomes (-1) .joinedEvenIndicators else if c = joiner then becomes 0 .joinedEmoji else none
  | .joinedEvenIndicators =>
    if isRegionalIndicator c then becomes 3 .joinedOddIndicators else if c = joiner then becomes 0 .joinedEmoji else none
  | .tagLetters count =>
    if isTagLetter c && count < 6 then becomes 0 (.tagLetters (count + 1))
    else if isTagDigit c && count < 5 then becomes 0 (.tagDigits 1)
    else if n = 0x1F3F4 && 3 ≤ count then becomes 0 .emoji
    else none
  | .tagDigits count =>
    if isTagDigit c && count < 3 then becomes 0 (.tagDigits (count + 1))
    else if n = 0x1F3F4 && count = 3 then becomes 0 .emoji
    else none
  | .kiratE =>
    if n = 0x16D63 || n = 0x16D69 then becomes 0 .other
    else if n = 0x16D67 then becomes 0 .kiratAi
    else if n = 0x16D68 then becomes 1 .kiratE
    else none
  | .kiratAi => if n = 0x16D63 then becomes 0 .other else none
  | .other | .lineFeed | .keycap => none

/-- What a character adds to the width of the text after it, and the text that it begins. The first characters up to the
no-break space combine with selectors and line breaks only. -/
def step (c : Char) (f : Following) : Int × Following :=
  if f.form? = some .emoji && inRanges emojiFormRanges c.toNat then
    (if f.start = .joinedEmoji || f.start = .keycap then 0 else 2, { start := .emoji })
  else
    let f := if f.form? = some .emoji then f.unselect else f
    if c.toNat ≤ 0xA0 then
      if c = '\n' then (1, { start := .lineFeed })
      else if c = '\r' && f = { start := .lineFeed } then (0, {})
      else (1, {})
    else if f = {} then alone c
    else if c = emojiSelector then (0, f.select .emoji)
    else if c = textSelector then (0, f.select .text)
    else if f.form? = some .text && inRanges textFormRanges c.toNat then (1, {})
    else
      let f := { f with form? := none }
      if f.start.endsLigature && c = joiner then (0, { f with joined := true })
      else if f.start.endsLigature && inRanges ignorableMarkRanges c.toNat then (0, f)
      else (combine? c f).getD (alone c)

end Width

/-- The width of a text. -/
def width (cs : List Char) : Nat :=
  (cs.foldr (fun c (sum, f) => let (w, g) := Width.step c f; (sum + w, g)) ((0 : Int), ({} : Width.Following))).1.toNat

end PageTemplates.Text
