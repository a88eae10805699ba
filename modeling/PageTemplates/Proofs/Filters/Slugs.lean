import Mathlib.Tactic.Common
import PageTemplates.Proofs.Filters.Calls
import PageTemplates.Proofs.Syntax.Spans
import PageTemplates.Proofs.Text.Dashes
import PageTemplates.Proofs.Text.LowerCase

/-!
# Slugs

A slug holds lower-case ASCII letters, digits and dashes, and no dash beside another. Every text has one, and a text that is a slug
is its own, if letters of other alphabets are put into ASCII in a way that leaves ASCII texts as they are. Main statement:
`BuiltIn.generateSlug_clean`.
-/

namespace PageTemplates

namespace Text

variable {c : Char} {cs : List Char}

/-- A lower-case letter of ASCII, a digit or a dash. -/
def IsPlain (c : Char) : Prop :=
  c.isLower = true ∨ c.isDigit = true ∨ c = '-'

/-- A text of plain characters with no dash beside another. -/
structure IsSlug (cs : List Char) : Prop where
  plain : ∀ c ∈ cs, IsPlain c
  single : ¬['-', '-'] <:+: cs

/-- A text in ASCII stays as it is. -/
def KeepsAscii (transliterate : List Char → List Char) : Prop :=
  ∀ cs, (∀ c ∈ cs, c.toNat < 128) → transliterate cs = cs

/-! ## Slugs of slugs -/

/-- Letters of ASCII are capitals or small. -/
theorem isAlphanum_eq (c : Char) : c.isAlphanum = (c.isUpper || c.isLower || c.isDigit) := rfl

theorem IsPlain.isSlugChar (h : IsPlain c) : isSlugChar c = true := by
  rcases h with h | h | rfl
  · simp [Text.isSlugChar, isAlphanum_eq, h]
  · simp [Text.isSlugChar, isAlphanum_eq, h]
  · decide

theorem IsPlain.isBlank (h : IsPlain c) : isBlank c = false := by
  rcases Bool.or_eq_true_iff.1 h.isSlugChar with hname | hdash
  · exact isBlank_of_isNameChar (by simp [isNameChar, hname])
  · rw [beq_iff_eq.1 hdash]
    decide

/-- Plain characters are in ASCII and no capitals. -/
theorem IsPlain.ascii (h : IsPlain c) : c.toNat < 128 ∧ c.isUpper = false := by
  rw [← Bool.not_eq_true, isUpper_iff]
  rcases h with h | h | rfl
  · have hbounds := isLower_iff.1 h
    omega
  · have hbounds : 48 ≤ c.toNat ∧ c.toNat ≤ 57 := Char.isDigit_iff_toNat.1 h
    omega
  · decide

/-- Only plain characters are left before dashes are merged. -/
theorem isPlain_of_mem_dashed (h : c ∈ dashed cs) : IsPlain c := by
  obtain ⟨hmem, hslug⟩ := List.mem_filter.1 h
  obtain ⟨d, hd, rfl⟩ := List.mem_map.1 hmem
  by_cases hspace : d = ' '
  · exact Or.inr (Or.inr (if_pos hspace))
  · rw [if_neg hspace] at hslug ⊢
    have hcapital := isUpper_of_mem_lowerAfter hd
    simpa [IsPlain, Text.isSlugChar, isAlphanum_eq, hcapital, or_assoc] using hslug

theorem dashed_of_plain (h : ∀ c ∈ cs, IsPlain c) : dashed cs = cs := by
  have htrim : trim cs = cs := by
    simpa using @trim_between [] cs [] nofun nofun fun c hc => (h c hc).isBlank
  have hlower : lower cs = cs :=
    lowerAfter_of_ascii (fun c hc => (h c hc).ascii.1) fun c hc => (h c hc).ascii.2
  have hspaces : (cs.map fun c => if c = ' ' then '-' else c) = cs := by
    refine (List.map_congr_left fun c hc => if_neg ?_).trans (List.map_id cs)
    rintro rfl
    exact absurd (h ' ' hc).isBlank (by decide)
  rw [dashed, htrim, hlower, hspaces]
  exact List.filter_eq_self.2 fun c hc => (h c hc).isSlugChar

/-- Every text has a slug. -/
theorem isSlug_slugOfAscii (cs : List Char) : IsSlug (slugOfAscii cs) where
  plain c hc := by
    rw [slugOfAscii, singleDashes_eq_cutRuns] at hc
    exact isPlain_of_mem_dashed (mem_of_mem_cutRuns hc)
  single := not_infix_singleDashes (dashed cs)

/-- A slug is its own slug. -/
theorem slugOfAscii_of_isSlug (h : IsSlug cs) : slugOfAscii cs = cs := by
  rw [slugOfAscii, dashed_of_plain h.plain, singleDashes_eq_cutRuns, cutRuns_of_not_isInfix h.single]

/-- Letters of other alphabets are put into ASCII, and nothing else. -/
theorem keepsAscii_romanize : KeepsAscii romanize := by
  intro cs h
  rw [romanize]
  induction cs with
  | nil => rfl
  | cons c cs ih =>
    obtain ⟨hc, hcs⟩ := List.forall_mem_cons.1 h
    have hreading : Romanize.reading c = .sounds c.toString := if_pos hc
    rw [List.map_cons, hreading, Romanize.join, ih hcs, Char.toString_eq_singleton, String.toList_singleton,
      List.singleton_append]

end Text

namespace BuiltIn

open Text

/-- **Slugs.** Whatever puts letters of other alphabets into ASCII, if it leaves ASCII texts as they are: the passes over the
dashed text come to an end, after no more of them than there are characters to lose, and leave it with every run of dashes cut
down to one. What is left is a slug; the texts that are slugs, and no others, are left as they are; so the slug of a slug is
itself. The built-in filter takes strings to slugs in this way. -/
theorem generateSlug_clean (surroundings : Surroundings) :
    (∀ transliterate, KeepsAscii transliterate → ∀ cs, ∃ n out,
        DashPasses (dashed (transliterate cs)) n out ∧ n + out.length ≤ (dashed (transliterate cs)).length ∧
          slugOfAscii (transliterate cs) = out ∧ out = cutRuns (dashed (transliterate cs)) ∧
          IsSlug out ∧ (out = cs ↔ IsSlug cs) ∧ slugOfAscii (transliterate out) = out) ∧
      KeepsAscii romanize ∧
      ∀ s : String, call? surroundings "generateSlug" (.string s) [] =
        some (.ok (.string (String.ofList (slugOfAscii (romanize s.toList))))) := by
  refine ⟨fun transliterate hkeeps cs => ?_, keepsAscii_romanize, fun s => rfl⟩
  have hself : ∀ {out}, IsSlug out → slugOfAscii (transliterate out) = out := by
    intro out h
    rw [hkeeps out fun c hc => (h.plain c hc).ascii.1, slugOfAscii_of_isSlug h]
  have hslug : IsSlug (slugOfAscii (transliterate cs)) := isSlug_slugOfAscii (transliterate cs)
  obtain ⟨n, hpasses⟩ := exists_dashPasses (dashed (transliterate cs))
  exact ⟨n, slugOfAscii (transliterate cs), hpasses, hpasses.add_length_le, rfl, hpasses.eq_cutRuns, hslug,
    ⟨fun h => h ▸ hslug, hself⟩, hself hslug⟩

/-- A text with accents, a sign that is dropped between two spaces, and blanks around it. -/
theorem generateSlug_clean_accents :
    KeepsAscii romanize ∧ ∃ out : String,
      call? { settings := {}, now := "" } "generateSlug" (.string " Café & Crème ") [] = some (.ok (.string out)) ∧
        IsSlug out.toList ∧ call? { settings := {}, now := "" } "generateSlug" (.string out) [] = some (.ok (.string out)) := by
  obtain ⟨hclean, hkeeps, hfilter⟩ := generateSlug_clean { settings := {}, now := "" }
  obtain ⟨n, out, -, -, hout, -, hslug, -, hself⟩ := hclean romanize hkeeps " Café & Crème ".toList
  refine ⟨hkeeps, String.ofList out, ?_, ?_, ?_⟩
  · rw [hfilter, hout]
  · rwa [String.toList_ofList]
  · rw [hfilter, String.toList_ofList, hself]

end BuiltIn

end PageTemplates
