import Mathlib.Data.List.Basic
import Mathlib.Data.List.Infix
import Mathlib.Tactic.Common
import PageTemplates.Text.Parts

/-!
# Parts of a text, put together again

A separator is dropped from a text wherever it is found, from left to right, and stands between the parts again when they are
joined. So nothing is lost, whether separators would overlap, stand at the ends, or are empty. Main statements: the parts joined
are the text (`Text.joinWith_splitOn`), no part has a separator in it (`Text.not_infix_of_mem_splitOn`), and parts that share no
character with the separator are found again in the joined text (`Text.splitOn_joinWith`).
-/

namespace PageTemplates.Text

variable {separator : List Char}

/-- The first part begins the text. -/
theorem prefix_joinWith (part : List Char) (more : List (List Char)) : part <+: joinWith separator (part :: more) := by
  by_cases hmore : more = []
  · simp [hmore, joinWith]
  · rw [joinWith_cons hmore]
    exact List.prefix_append _ _

/-- The parts joined are the text that is left after the characters still to be dropped. -/
theorem joinWith_splitFrom (hne : separator ≠ []) (n : Nat) (cs : List Char) :
    joinWith separator (splitFrom separator n cs) = cs.drop n := by
  fun_induction splitFrom separator n cs with
  | case1 n => simp [joinWith]
  | case2 n c cs ih => exact ih
  | case3 c cs hprefix ih =>
    obtain ⟨rest, hrest⟩ := List.isPrefixOf_iff_prefix.1 hprefix
    have hlength : separator.length = separator.length - 1 + 1 := by
      have := List.length_pos_iff.2 hne
      omega
    have hdrop : cs.drop (separator.length - 1) = rest := by
      rw [← List.drop_succ_cons (a := c), ← hlength, ← hrest, List.drop_left]
    rw [joinWith_cons (splitFrom_ne_nil _ _ _), ih, hdrop]
    exact hrest
  | case4 c cs _ part more hsplit ih =>
    rw [joinWith_cons_part, ← hsplit, ih]
    rfl
  | case5 c cs _ hsplit => exact absurd hsplit (splitFrom_ne_nil _ _ _)

/-- No part has a separator in it: one that began in the part would have been found there, since a part goes on as the text. -/
theorem not_infix_of_mem_splitFrom (hne : separator ≠ []) (n : Nat) (cs : List Char) :
    ∀ part ∈ splitFrom separator n cs, ¬separator <:+: part := by
  fun_induction splitFrom separator n cs with
  | case1 n =>
    intro part hpart hinfix
    obtain rfl := List.mem_singleton.1 hpart
    exact hne (List.infix_nil.1 hinfix)
  | case2 n c cs ih => exact ih
  | case3 c cs _ ih =>
    intro part hpart
    rcases List.mem_cons.1 hpart with rfl | hpart
    · exact fun hinfix => hne (List.infix_nil.1 hinfix)
    · exact ih part hpart
  | case4 c cs hprefix part more hsplit ih =>
    rw [hsplit] at ih
    intro other hother
    rcases List.mem_cons.1 hother with rfl | hother
    · have hbegins : part <+: cs := by
        have hjoin : joinWith separator (part :: more) = cs := hsplit ▸ joinWith_splitFrom hne 0 cs
        rw [← hjoin]
        exact prefix_joinWith part more
      intro hinfix
      rcases List.infix_cons_iff.1 hinfix with hfound | hinfix
      · exact hprefix (List.isPrefixOf_iff_prefix.2 (hfound.trans ((List.prefix_cons_inj c).2 hbegins)))
      · exact ih part List.mem_cons_self hinfix
    · exact ih other (List.mem_cons_of_mem _ hother)
  | case5 c cs _ hsplit => exact absurd hsplit (splitFrom_ne_nil _ _ _)

/-- Parts joined without a separator are one after the other. -/
theorem joinWith_nil (parts : List (List Char)) : joinWith [] parts = parts.flatten := by
  induction parts with
  | nil => rfl
  | cons part parts ih =>
    by_cases hparts : parts = []
    · simp [hparts, joinWith]
    · rw [joinWith_cons hparts, ih]
      rfl

/-- Joining the parts of a text with the separator that it was split at gives the text back. -/
theorem joinWith_splitOn (separator cs : List Char) : joinWith separator (splitOn separator cs) = cs := by
  by_cases hempty : separator = []
  · have hchars : (cs.map ([·])).flatten = cs := by
      rw [← List.flatMap_def, List.flatMap_singleton']
    subst hempty
    simp [joinWith_nil, splitOn, hchars]
  · rw [splitOn, if_neg (by simpa using hempty), joinWith_splitFrom hempty]
    rfl

/-- No part of a text that was split at a separator has it in itself. -/
theorem not_infix_of_mem_splitOn (hne : separator ≠ []) {cs part : List Char} (h : part ∈ splitOn separator cs) :
    ¬separator <:+: part := by
  rw [splitOn, if_neg (by simpa using hne)] at h
  exact not_infix_of_mem_splitFrom hne 0 cs part h

/-- A text is found in another one just if it is a piece of it. -/
theorem occursIn_iff_isInfix {target cs : List Char} : occursIn target cs = true ↔ target <:+: cs := by
  induction cs with
  | nil => rw [occursIn, List.isEmpty_iff, List.infix_nil]
  | cons c cs ih => rw [occursIn, Bool.or_eq_true, List.isPrefixOf_iff_prefix, ih, List.infix_cons_iff]

/-! ## Taking a joined text apart -/

variable {c : Char} {cs part : List Char} {parts : List (List Char)} {target replacement : List Char}

theorem splitFrom_length_append (separator before cs : List Char) :
    splitFrom separator before.length (before ++ cs) = splitFrom separator 0 cs := by
  induction before with
  | nil => rfl
  | cons c before ih => exact ih

/-- A separator ends a part. -/
theorem splitFrom_separator_append (hne : separator ≠ []) (cs : List Char) :
    splitFrom separator 0 (separator ++ cs) = [] :: splitFrom separator 0 cs := by
  obtain ⟨c, rest, rfl⟩ := List.exists_cons_of_ne_nil hne
  have hprefix : (c :: rest).isPrefixOf (c :: (rest ++ cs)) = true :=
    List.isPrefixOf_iff_prefix.2 (List.prefix_append (c :: rest) cs)
  rw [List.cons_append, splitFrom, if_pos hprefix, List.length_cons, Nat.add_sub_cancel, splitFrom_length_append]

/-- A character with which no separator begins belongs to the part that follows it. -/
theorem splitFrom_cons_of_not_prefix (h : ¬separator <+: c :: cs) :
    splitFrom separator 0 (c :: cs) = (splitFrom separator 0 cs).modifyHead (c :: ·) := by
  rw [splitFrom, if_neg fun hprefix => h (List.isPrefixOf_iff_prefix.1 hprefix)]
  cases hsplit : splitFrom separator 0 cs with
  | nil => exact absurd hsplit (splitFrom_ne_nil separator 0 cs)
  | cons part more => rfl

theorem splitFrom_append_of_plain (hne : separator ≠ []) (hplain : ∀ c ∈ part, c ∉ separator) (cs : List Char) :
    splitFrom separator 0 (part ++ cs) = (splitFrom separator 0 cs).modifyHead (part ++ ·) := by
  induction part with
  | nil => exact (congrFun List.modifyHead_id _).symm
  | cons c part ih =>
    have hbegins : ¬separator <+: c :: (part ++ cs) := by
      obtain ⟨d, rest, rfl⟩ := List.exists_cons_of_ne_nil hne
      intro hprefix
      have hd : d = c := (List.cons_prefix_cons.1 hprefix).1
      exact hplain c List.mem_cons_self (hd ▸ List.mem_cons_self)
    rw [List.cons_append, splitFrom_cons_of_not_prefix hbegins, ih fun d hd => hplain d (List.mem_cons_of_mem c hd),
      List.modifyHead_modifyHead]
    rfl

/-- Parts without a character of the separator are found again. -/
theorem splitOn_joinWith (hne : separator ≠ []) (hparts : parts ≠ []) (hplain : ∀ part ∈ parts, ∀ c ∈ part, c ∉ separator) :
    splitOn separator (joinWith separator parts) = parts := by
  rw [splitOn, if_neg (by simpa using hne)]
  induction parts with
  | nil => exact absurd rfl hparts
  | cons part parts ih =>
    have hpart := hplain part List.mem_cons_self
    by_cases hlast : parts = []
    · have hsplit := splitFrom_append_of_plain hne hpart []
      rw [List.append_nil] at hsplit
      subst hlast
      simpa [joinWith, splitFrom] using hsplit
    · rw [joinWith_cons hlast, splitFrom_append_of_plain hne hpart, splitFrom_separator_append hne,
        ih hlast fun other hother => hplain other (List.mem_cons_of_mem part hother), List.modifyHead_cons, List.append_nil]

/-! ## Replacing -/

theorem replaceAll_nil (hne : target ≠ []) : replaceAll target replacement [] = [] := by
  rw [replaceAll_of_ne_nil hne]
  simp [splitFrom, joinWith]

theorem replaceAll_target_append (hne : target ≠ []) (cs : List Char) :
    replaceAll target replacement (target ++ cs) = replacement ++ replaceAll target replacement cs := by
  rw [replaceAll_of_ne_nil hne, splitFrom_separator_append hne, joinWith_cons (splitFrom_ne_nil _ _ _),
    replaceAll_of_ne_nil hne, List.nil_append]

theorem replaceAll_cons_of_not_prefix (hne : target ≠ []) (h : ¬target <+: c :: cs) :
    replaceAll target replacement (c :: cs) = c :: replaceAll target replacement cs := by
  rw [replaceAll_of_ne_nil hne, splitFrom_cons_of_not_prefix h, replaceAll_of_ne_nil hne]
  cases hsplit : splitFrom target 0 cs with
  | nil => exact absurd hsplit (splitFrom_ne_nil target 0 cs)
  | cons part more => exact joinWith_cons_part c part more

end PageTemplates.Text
