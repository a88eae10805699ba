import Mathlib.Data.List.TakeWhile
import PageTemplates.Page
import PageTemplates.Proofs.Syntax.Lexemes

/-!
# Where front matter begins

Whether a source has a block of arguments depends on its first line that is not blank, and on nothing else. Main statements:
the body is the end of the source (`FrontMatter.body_suffix`), and all of it exactly if that line does not begin with the prefix
mark (`FrontMatter.body_eq_self_iff`). A page format reads a body from a source in this way
(`PageFormat.parseSource_of_not_opens`).
-/

namespace PageTemplates

namespace FrontMatter

/-! ## Lines -/

/-- The first line of a text goes to its first line break. -/
theorem exists_lines_eq_cons {cs : List Char} (h : cs ≠ []) :
    ∃ after more, lines cs = (cs.takeWhile (· != '\n'), after) :: more := by
  induction cs with
  | nil => exact absurd rfl h
  | cons c cs ih =>
    rw [lines]
    by_cases hc : c = '\n'
    · subst hc
      exact ⟨cs, lines cs, by simp⟩
    · rw [if_neg hc]
      by_cases hcs : cs = []
      · subst hcs
        exact ⟨[], [], by simp [lines, hc]⟩
      · obtain ⟨after, more, hlines⟩ := ih hcs
        exact ⟨after, more, by simp [hlines, hc]⟩

/-- What follows a line ends the text, and is not all of it. -/
theorem suffix_of_mem_lines {cs line after : List Char} (h : (line, after) ∈ lines cs) : after <:+ cs.tail := by
  induction cs generalizing line with
  | nil => cases h
  | cons c cs ih =>
    have hmore : cs.tail <:+ cs := List.tail_suffix cs
    rw [lines] at h
    split at h
    · rcases List.mem_cons.1 h with h | h
      · obtain ⟨-, rfl⟩ := Prod.mk.inj h
        exact List.suffix_refl _
      · exact (ih h).trans hmore
    · split at h
      · obtain ⟨-, rfl⟩ := Prod.mk.inj (List.mem_singleton.1 h)
        exact List.nil_suffix
      · rename_i first rest more hlines
        rw [hlines] at ih
        rcases List.mem_cons.1 h with h | h
        · obtain ⟨-, rfl⟩ := Prod.mk.inj h
          exact (ih List.mem_cons_self).trans hmore
        · exact (ih (List.mem_cons_of_mem _ h)).trans hmore

/-- The body after a block is what follows one of the block's lines, or nothing. -/
theorem body_readBlock (suffixMark : List Char) (block : List (List Char × List Char)) :
    (readBlock suffixMark block).body = [] ∨
      ∃ line after, (line, after) ∈ block ∧ (readBlock suffixMark block).body = Text.trimStart after := by
  induction block with
  | nil => exact Or.inl rfl
  | cons entry block ih =>
    obtain ⟨line, after⟩ := entry
    have hmore : (readBlock suffixMark block).body = [] ∨ ∃ line' after', (line', after') ∈ (line, after) :: block ∧
        (readBlock suffixMark block).body = Text.trimStart after' := by
      rcases ih with hnil | ⟨line', after', hmem, hbody⟩
      · exact Or.inl hnil
      · exact Or.inr ⟨line', after', List.mem_cons_of_mem _ hmem, hbody⟩
    rw [readBlock]
    split
    · exact hmore
    · split
      · exact Or.inr ⟨line, after, List.mem_cons_self, rfl⟩
      · exact hmore

/-! ## The first line -/

/-- The first line of a source that is not blank, without the blanks around it. -/
def firstLine (source : List Char) : List Char :=
  Text.trim ((Text.trimStart source).takeWhile (· != '\n'))

/-- A source opens a block of arguments: its first line that is not blank begins with the prefix mark. -/
def Opens (prefixMark source : List Char) : Prop :=
  prefixMark ≠ [] ∧ prefixMark <+: firstLine source

instance (prefixMark source : List Char) : Decidable (Opens prefixMark source) :=
  inferInstanceAs (Decidable (_ ∧ _))

/-- A source that opens a block has it in the lines after the first one. -/
theorem exists_parse_eq {source : List Char} (h : Text.trimStart source ≠ []) (prefixMark suffixMark : List Char) :
    ∃ block, (∀ entry ∈ block, entry ∈ lines (Text.trimStart source)) ∧
      parse source prefixMark suffixMark =
        if Opens prefixMark source then readBlock suffixMark block else { args := [], body := source } := by
  obtain ⟨after, more, hlines⟩ := exists_lines_eq_cons h
  have hopens : (!prefixMark.isEmpty &&
      prefixMark.isPrefixOf (Text.trim ((Text.trimStart source).takeWhile (· != '\n')))) = true ↔ Opens prefixMark source := by
    simp [Opens, firstLine]
  refine ⟨more, fun entry hentry => hlines ▸ List.mem_cons_of_mem _ hentry, ?_⟩
  rw [parse, hlines]
  simp only [hopens]

/-- A blank source opens no block. -/
theorem not_opens_of_blank {source : List Char} (h : Text.trimStart source = []) (prefixMark : List Char) :
    ¬Opens prefixMark source := by
  rintro ⟨hne, hprefix⟩
  rw [firstLine, h] at hprefix
  exact hne (List.prefix_nil.1 hprefix)

/-- A source that begins with no blank opens a block only with a prefix mark that begins with the same character. -/
theorem not_opens_of_cons {prefixMark cs : List Char} {c : Char} (hblank : Text.isBlank c = false)
    (hmark : prefixMark.head? ≠ some c) : ¬Opens prefixMark (c :: cs) := by
  have hline : StartsNot Text.isBlank ((c :: cs).takeWhile (· != '\n')) := by
    intro d hd
    rw [List.head?_takeWhile] at hd
    obtain rfl : c = d := by simpa using (Option.mem_filter_iff.1 hd).1
    exact hblank
  have hfirst : firstLine (c :: cs) <+: c :: cs := by
    rw [firstLine, trimStart_of_startsNot (startsNot_cons.2 hblank), Text.trim, trimStart_of_startsNot hline]
    exact (trimEnd_isPrefixOf _).trans (List.takeWhile_prefix _)
  rintro ⟨hne, hprefix⟩
  obtain ⟨d, ds, rfl⟩ := List.exists_cons_of_ne_nil hne
  obtain ⟨rest, hrest⟩ := hprefix.trans hfirst
  exact hmark (congrArg some (List.cons.inj hrest).1)

/-- A source that opens no block is all body. -/
theorem parse_of_not_opens {prefixMark source : List Char} (h : ¬Opens prefixMark source) (suffixMark : List Char) :
    parse source prefixMark suffixMark = { args := [], body := source } := by
  by_cases hblank : Text.trimStart source = []
  · rw [parse, hblank]
    rfl
  · obtain ⟨block, -, hparse⟩ := exists_parse_eq hblank prefixMark suffixMark
    rw [hparse, if_neg h]

/-- The body of a source that opens a block is the end of it, and at least the first character that is not blank is taken away.
-/
theorem body_suffix_of_opens {prefixMark source : List Char} (h : Opens prefixMark source) (suffixMark : List Char) :
    (parse source prefixMark suffixMark).body <:+ (Text.trimStart source).tail := by
  have hblank : Text.trimStart source ≠ [] := fun hnil => not_opens_of_blank hnil prefixMark h
  obtain ⟨block, hblock, hparse⟩ := exists_parse_eq hblank prefixMark suffixMark
  rw [hparse, if_pos h]
  rcases body_readBlock suffixMark block with hnil | ⟨line, rest, hmem, hbody⟩
  · rw [hnil]
    exact List.nil_suffix
  · have hrest : rest <:+ (Text.trimStart source).tail := suffix_of_mem_lines (hblock _ hmem)
    rw [hbody]
    exact (List.dropWhile_suffix Text.isBlank).trans hrest

/-- The body is the end of the source. -/
theorem body_suffix (source prefixMark suffixMark : List Char) : (parse source prefixMark suffixMark).body <:+ source := by
  by_cases h : Opens prefixMark source
  · have htrim : Text.trimStart source <:+ source := List.dropWhile_suffix Text.isBlank
    exact (body_suffix_of_opens h suffixMark).trans ((List.tail_suffix _).trans htrim)
  · simp only [parse_of_not_opens h, List.suffix_refl]

/-- The body is the whole source exactly if the source opens no block. -/
theorem body_eq_self_iff {source prefixMark suffixMark : List Char} :
    (parse source prefixMark suffixMark).body = source ↔ ¬Opens prefixMark source := by
  constructor
  · intro hbody h
    have hblank : Text.trimStart source ≠ [] := fun hnil => not_opens_of_blank hnil prefixMark h
    have hpos := List.length_pos_iff.2 hblank
    have htrim : (Text.trimStart source).length ≤ source.length := (List.dropWhile_suffix Text.isBlank).length_le
    have hlength := (body_suffix_of_opens h suffixMark).length_le
    rw [hbody, List.length_tail] at hlength
    omega
  · intro h
    rw [parse_of_not_opens h]

end FrontMatter

/-! ## What a page format reads -/

namespace PageFormat

variable {f : PageFormat} {source : String}

/-- Without a byte order mark the front matter is that of the whole source. -/
theorem parseSource_of_no_mark (h : source.toList.head? ≠ some '\ufeff') :
    f.parseSource source =
      (Table.ofList (FrontMatter.parse source.toList f.argsPrefix.toList f.argsSuffix.toList).args,
        parseTemplate (FrontMatter.parse source.toList f.argsPrefix.toList f.argsSuffix.toList).body) := by
  unfold parseSource
  split
  · rename_i cs hcs
    rw [hcs] at h
    exact absurd rfl h
  · rfl

/-- A source without a byte order mark that opens no block has no arguments, and its fragments are those of the whole. -/
theorem parseSource_of_not_opens (h : source.toList.head? ≠ some '\ufeff')
    (hopens : ¬FrontMatter.Opens f.argsPrefix.toList source.toList) :
    f.parseSource source = ([], parseTemplate source.toList) := by
  rw [parseSource_of_no_mark h, FrontMatter.parse_of_not_opens hopens]
  rfl

end PageFormat

end PageTemplates
