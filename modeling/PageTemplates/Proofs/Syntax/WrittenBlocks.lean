import Mathlib.Data.List.TakeDrop
import PageTemplates.Proofs.Syntax.FrontMatter
import PageTemplates.Proofs.Syntax.Spans

/-!
# Blocks of arguments as they are written

A block is written as a line with the prefix mark, a line for each argument, blank lines anywhere between them, and a line with
the suffix mark. Each line ends in a break of its own choice. Main statement: reading front matter gives back the arguments
that were written, in order and with repetitions, and the body without its leading blanks
(`FrontMatter.WrittenBlock.parse_source`).
-/

namespace PageTemplates

namespace FrontMatter

/-! ## Trimmed lines -/

/-- A text on one line with no blanks around it. -/
def IsPlain (cs : List Char) : Prop :=
  Text.trim cs = cs ∧ '\n' ∉ cs

/-- A text that marks a line: a plain one that is not empty. -/
def IsMark (cs : List Char) : Prop :=
  cs ≠ [] ∧ IsPlain cs

instance (cs : List Char) : Decidable (IsPlain cs) :=
  inferInstanceAs (Decidable (_ ∧ _))

instance (cs : List Char) : Decidable (IsMark cs) :=
  inferInstanceAs (Decidable (_ ∧ _))

theorem startsNot_of_trim_eq {cs : List Char} (h : Text.trim cs = cs) : StartsNot Text.isBlank cs := by
  obtain ⟨rest, hrest⟩ := trimEnd_isPrefixOf (Text.trimStart cs)
  have hstart := startsNot_trimStart cs
  rw [← hrest] at hstart
  exact h ▸ hstart.cut

theorem endsSolid_of_trim_eq {cs : List Char} (h : Text.trim cs = cs) : EndsSolid cs := by
  intro c hc
  rw [← h, Text.trim, Text.trimEnd, List.getLast?_reverse] at hc
  exact startsNot_dropWhile _ _ c hc

theorem trim_eq_self {cs : List Char} (hstart : StartsNot Text.isBlank cs) (hend : EndsSolid cs) : Text.trim cs = cs := by
  have htrim := trimEnd_append_blanks hend (b := []) (by simp)
  rw [List.append_nil] at htrim
  rw [Text.trim, trimStart_of_startsNot hstart, htrim]

/-- Blanks at the end of a trimmed text are all that trimming takes away. -/
theorem trim_append_blanks {cs b : List Char} (h : Text.trim cs = cs) (hb : ∀ c ∈ b, Text.isBlank c = true) :
    Text.trim (cs ++ b) = cs := by
  cases cs with
  | nil => rw [List.nil_append, Text.trim, ← List.append_nil b, trimStart_blanks_append hb]; rfl
  | cons c cs =>
    have hstart : StartsNot Text.isBlank (c :: cs ++ b) := startsNot_cons.2 (startsNot_cons.1 (startsNot_of_trim_eq h))
    rw [Text.trim, trimStart_of_startsNot hstart, trimEnd_append_blanks (endsSolid_of_trim_eq h) hb]

/-! ## Lines and their breaks -/

/-- How a line ends. -/
inductive LineBreak where
  | lf
  | crlf
  deriving DecidableEq, Repr

/-- What stands before the line feed of a break. Readers take it for the end of the line, and trim it. -/
def LineBreak.carriage : LineBreak → List Char
  | .lf => []
  | .crlf => ['\r']

/-- The characters of a line break. -/
def LineBreak.text (b : LineBreak) : List Char :=
  b.carriage ++ ['\n']

theorem LineBreak.isBlank_carriage (b : LineBreak) : ∀ c ∈ b.carriage, Text.isBlank c = true := by
  cases b with
  | lf => exact nofun
  | crlf => exact List.forall_mem_singleton.2 rfl

theorem LineBreak.not_mem_carriage (b : LineBreak) : '\n' ∉ b.carriage := by
  cases b <;> decide

/-- The line before a break is the first line, and the lines after the break are the others. -/
theorem lines_append_break {line : List Char} (hline : '\n' ∉ line) (b : LineBreak) (rest : List Char) :
    lines (line ++ b.text ++ rest) = (line ++ b.carriage, rest) :: lines rest := by
  have hfeed : ∀ cs : List Char, '\n' ∉ cs → lines (cs ++ '\n' :: rest) = (cs, rest) :: lines rest := by
    intro cs hcs
    induction cs with
    | nil => simp [lines]
    | cons c cs ih =>
      obtain ⟨hc, hcs⟩ := not_or.1 (fun h => hcs (List.mem_cons.2 h))
      rw [List.cons_append, lines, if_neg (Ne.symm hc), ih hcs]
  have hfull : '\n' ∉ line ++ b.carriage := by
    rw [List.mem_append, not_or]
    exact ⟨hline, b.not_mem_carriage⟩
  have htext : line ++ b.text ++ rest = (line ++ b.carriage) ++ '\n' :: rest := by simp [LineBreak.text]
  rw [htext, hfeed _ hfull]

/-! ## The lines of a block -/

/-- A line inside a block: a blank one, or an argument. -/
inductive BlockLine where
  | blank (text : List Char)
  | argument (key value : String)
  deriving DecidableEq, Repr

namespace BlockLine

/-- The characters of a line, without its break. -/
def text : BlockLine → List Char
  | blank text => text
  | argument key value => key.toList ++ [':', ' '] ++ value.toList

/-- What a line says. -/
def argument? : BlockLine → Option (String × String)
  | blank _ => none
  | argument key value => some (key, value)

/-- A line can stand in a block: a blank one is blank, and an argument is a line that the key's end and the value can be told
from, and that does not end the block. -/
def Fits (suffixMark : List Char) : BlockLine → Prop
  | blank text => (∀ c ∈ text, Text.isBlank c = true) ∧ '\n' ∉ text
  | argument key value =>
    IsPlain key.toList ∧ IsPlain value.toList ∧ ':' ∉ key.toList ∧ ¬suffixMark <+: (argument key value).text

instance (suffixMark : List Char) : (l : BlockLine) → Decidable (l.Fits suffixMark)
  | blank text =>
    have := List.decidableBAll (fun c => Text.isBlank c = true) text
    inferInstanceAs (Decidable (_ ∧ _))
  | argument _ _ => inferInstanceAs (Decidable (_ ∧ _))

variable {suffixMark : List Char}

theorem Fits.not_mem_text {l : BlockLine} (h : l.Fits suffixMark) : '\n' ∉ l.text := by
  cases l with
  | blank text => exact h.2
  | argument key value =>
    obtain ⟨hkey, hvalue, -⟩ := h
    simp [text, hkey.2, hvalue.2]

/-- The first colon of an argument's line ends the key. -/
theorem argument_of_not_mem {key : String} (hkey : ':' ∉ key.toList) (htrim : Text.trim key.toList = key.toList)
    (rest : List Char) :
    FrontMatter.argument (key.toList ++ ':' :: rest) = (key, String.ofList (Text.trim rest)) := by
  have hspan : (key.toList ++ ':' :: rest).span (· != ':') = (key.toList, ':' :: rest) := by
    have hall : ∀ c ∈ key.toList, (c != ':') = true := by
      intro c hc
      simp only [bne_iff_ne, ne_eq]
      rintro rfl
      exact hkey hc
    rw [List.span_eq_takeWhile_dropWhile, List.takeWhile_append_of_pos hall, List.dropWhile_append_of_pos hall]
    simp
  rw [FrontMatter.argument, hspan]
  simp only [htrim, String.ofList_toList]

/-- The line of an argument, trimmed, is not blank, does not end the block and says what was written. -/
theorem Fits.read {key value : String} (h : (argument key value).Fits suffixMark) {b : List Char}
    (hb : ∀ c ∈ b, Text.isBlank c = true) :
    Text.trim ((argument key value).text ++ b) ≠ [] ∧ ¬suffixMark <+: Text.trim ((argument key value).text ++ b) ∧
      FrontMatter.argument (Text.trim ((argument key value).text ++ b)) = (key, value) := by
  obtain ⟨hkey, hvalue, hcolon, hno⟩ := h
  have hstart : ∀ rest, StartsNot Text.isBlank (key.toList ++ ':' :: rest) := by
    have := startsNot_of_trim_eq hkey.1
    intro rest
    cases hcs : key.toList with
    | nil => exact startsNot_cons.2 rfl
    | cons c cs => exact startsNot_cons.2 (startsNot_cons.1 (hcs ▸ this))
  have hcolonEnd : EndsSolid (key.toList ++ [':']) :=
    (endsSolid_singleton rfl).of_append_ne_nil (by simp)
  by_cases hnil : value.toList = []
  -- The blank after the colon is trimmed with the break.
  · have htrim : Text.trim ((argument key value).text ++ b) = key.toList ++ [':'] := by
      have htext : (argument key value).text ++ b = (key.toList ++ [':']) ++ (' ' :: b) := by simp [text, hnil]
      have hblank : ∀ c ∈ ' ' :: b, Text.isBlank c = true := by
        simpa using ⟨by decide, hb⟩
      rw [htext]
      exact trim_append_blanks (trim_eq_self (hstart []) hcolonEnd) hblank
    have hvalue' : value = "" := String.toList_inj.1 (hnil.trans rfl)
    rw [htrim]
    refine ⟨by simp, fun hmark => hno ?_, ?_⟩
    · exact hmark.trans ⟨[' '], by simp [text, hnil]⟩
    · rw [argument_of_not_mem hcolon hkey.1, hvalue']
      rfl
  · have htext : (argument key value).text = key.toList ++ ':' :: (' ' :: value.toList) := by simp [text]
    have hend : EndsSolid (argument key value).text :=
      (endsSolid_of_trim_eq hvalue.1).of_append_ne_nil hnil
    have htrim : Text.trim ((argument key value).text ++ b) = (argument key value).text :=
      trim_append_blanks (trim_eq_self (htext ▸ hstart _) hend) hb
    rw [htrim]
    refine ⟨by simp [htext], hno, ?_⟩
    have hspace : Text.trim (' ' :: value.toList) = Text.trim value.toList := by
      rw [Text.trim, Text.trim]
      exact congrArg Text.trimEnd (trimStart_blanks_append (List.forall_mem_singleton.2 rfl) value.toList)
    rw [htext, argument_of_not_mem hcolon hkey.1, hspace, hvalue.1, String.ofList_toList]

/-- A blank line is trimmed to nothing. -/
theorem Fits.trim_blank {cs b : List Char} (h : (blank cs).Fits suffixMark) (hb : ∀ c ∈ b, Text.isBlank c = true) :
    Text.trim (cs ++ b) = [] := by
  have hall : ∀ c ∈ cs ++ b, Text.isBlank c = true := by
    intro c hc
    rcases List.mem_append.1 hc with hc | hc
    · exact h.1 c hc
    · exact hb c hc
  have hnil : Text.trim [] = [] := rfl
  exact trim_append_blanks hnil hall

end BlockLine

/-! ## Written blocks -/

/-- A source with a block of arguments, as someone wrote it: what the lines hold, how each of them ends, and what stands around
them. -/
structure WrittenBlock where
  /-- Blanks before the block. -/
  leading : List Char
  /-- The break after the prefix mark. -/
  opening : LineBreak
  lines : List (BlockLine × LineBreak)
  /-- The break after the suffix mark. -/
  closing : LineBreak
  body : List Char

namespace WrittenBlock

/-- The characters of the lines between the marks. -/
def linesText (ls : List (BlockLine × LineBreak)) : List Char :=
  ls.flatMap fun l => l.1.text ++ l.2.text

/-- The characters of a source. -/
def source (w : WrittenBlock) (prefixMark suffixMark : List Char) : List Char :=
  w.leading ++ (prefixMark ++ w.opening.text ++ (linesText w.lines ++ (suffixMark ++ w.closing.text ++ w.body)))

/-- The arguments of a block, in the order of its lines. -/
def args (w : WrittenBlock) : List (String × String) :=
  w.lines.filterMap fun l => l.1.argument?

/-- What stands in a block and before it can stand there. -/
structure Fits (w : WrittenBlock) (suffixMark : List Char) : Prop where
  leading : ∀ c ∈ w.leading, Text.isBlank c = true
  lines : ∀ l ∈ w.lines, l.1.Fits suffixMark

/-- The lines before the suffix mark give their arguments, and the text after the mark's line is the body. -/
theorem readBlock_lines {suffixMark : List Char} (hcloses : IsMark suffixMark) {ls : List (BlockLine × LineBreak)}
    (h : ∀ l ∈ ls, l.1.Fits suffixMark) (b : LineBreak) (body : List Char) :
    readBlock suffixMark (FrontMatter.lines (linesText ls ++ (suffixMark ++ b.text ++ body))) =
      { args := ls.filterMap fun l => l.1.argument?, body := Text.trimStart body } := by
  induction ls with
  | nil =>
    have htrim : Text.trim (suffixMark ++ b.carriage) = suffixMark := trim_append_blanks hcloses.2.1 b.isBlank_carriage
    have hempty : suffixMark.isEmpty = false := by simpa using hcloses.1
    have hself : suffixMark.isPrefixOf suffixMark = true := List.isPrefixOf_iff_prefix.2 (List.prefix_refl _)
    simp only [linesText, List.flatMap_nil, List.nil_append]
    rw [lines_append_break hcloses.2.2, readBlock]
    simp only [htrim, hempty, hself, if_true, if_false, Bool.false_eq_true, List.filterMap_nil]
  | cons l ls ih =>
    obtain ⟨line, brk⟩ := l
    have hline : line.Fits suffixMark := h _ List.mem_cons_self
    have hrest := ih fun l hl => h l (List.mem_cons_of_mem _ hl)
    have htext : linesText ((line, brk) :: ls) ++ (suffixMark ++ b.text ++ body) =
        line.text ++ brk.text ++ (linesText ls ++ (suffixMark ++ b.text ++ body)) := by
      simp [linesText, List.flatMap_cons]
    rw [htext, lines_append_break hline.not_mem_text, readBlock]
    cases line with
    | blank cs =>
      have htrim : Text.trim ((BlockLine.blank cs).text ++ brk.carriage) = [] := hline.trim_blank brk.isBlank_carriage
      simp only [htrim, List.isEmpty_nil, if_true, hrest, List.filterMap_cons, BlockLine.argument?]
    | argument key value =>
      obtain ⟨hne, hno, hread⟩ := hline.read brk.isBlank_carriage
      have hempty : (Text.trim ((BlockLine.argument key value).text ++ brk.carriage)).isEmpty = false := by simpa using hne
      have hmark : ¬suffixMark.isPrefixOf (Text.trim ((BlockLine.argument key value).text ++ brk.carriage)) = true :=
        fun hp => hno (List.isPrefixOf_iff_prefix.1 hp)
      simp only [hempty, hmark, if_false, Bool.false_eq_true, hread, hrest, List.filterMap_cons, BlockLine.argument?]

/-- Front matter reads back what was written: the arguments of the block with repetitions and in order, and the body without its
leading blanks. -/
theorem parse_source {prefixMark suffixMark : List Char} (hopens : IsMark prefixMark) (hcloses : IsMark suffixMark)
    {w : WrittenBlock} (h : w.Fits suffixMark) :
    parse (w.source prefixMark suffixMark) prefixMark suffixMark = { args := w.args, body := Text.trimStart w.body } := by
  have hstart : ∀ rest, StartsNot Text.isBlank (prefixMark ++ rest) := by
    have := startsNot_of_trim_eq hopens.2.1
    obtain ⟨c, cs, rfl⟩ := List.exists_cons_of_ne_nil hopens.1
    exact fun rest => startsNot_cons.2 (startsNot_cons.1 this)
  have htrim : Text.trimStart (w.source prefixMark suffixMark) =
      prefixMark ++ w.opening.text ++ (linesText w.lines ++ (suffixMark ++ w.closing.text ++ w.body)) := by
    rw [source, trimStart_blanks_append h.leading, List.append_assoc, trimStart_of_startsNot (hstart _)]
  have hfirst : Text.trim (prefixMark ++ w.opening.carriage) = prefixMark :=
    trim_append_blanks hopens.2.1 w.opening.isBlank_carriage
  have hmark : (!prefixMark.isEmpty && prefixMark.isPrefixOf prefixMark) = true := by
    simpa using hopens.1
  rw [parse, htrim, lines_append_break hopens.2.2]
  simp only [hfirst, hmark, if_true]
  exact readBlock_lines hcloses h.lines w.closing w.body

/-- A block after a blank line, with a key twice, a value with colons and one that is empty, a line of blanks and both kinds of
line breaks. -/
def mixedBlock : WrittenBlock where
  leading := ['\n', ' ']
  opening := .crlf
  lines := [(.argument "url" "http://a:80", .lf), (.blank [' ', '\t'], .crlf), (.argument "tag" "", .crlf),
    (.argument "tag" "--x", .lf)]
  closing := .lf
  body := ['\n', ' ', '-', '-', '>']

theorem parse_source_mixedBlock :
    IsMark "<!--".toList ∧ IsMark "-->".toList ∧ mixedBlock.Fits "-->".toList ∧
      parse (mixedBlock.source "<!--".toList "-->".toList) "<!--".toList "-->".toList =
        { args := [("url", "http://a:80"), ("tag", ""), ("tag", "--x")], body := "-->".toList } := by
  have hopen : IsMark "<!--".toList := by decide +kernel
  have hclose : IsMark "-->".toList := by decide +kernel
  have hfits : mixedBlock.Fits "-->".toList := ⟨List.all_eq_true.1 rfl, by decide +kernel⟩
  refine ⟨hopen, hclose, hfits, (parse_source hopen hclose hfits).trans ?_⟩
  decide

end WrittenBlock

end FrontMatter

end PageTemplates
