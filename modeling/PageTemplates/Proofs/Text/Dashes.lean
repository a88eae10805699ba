import Mathlib.Tactic.Common
import PageTemplates.Proofs.Text.Parts
import PageTemplates.Text.Slug

/-!
# Merging dashes

Dashes that stand side by side are merged two by two, pass after pass, until none are left to merge. A pass may leave dashes side
by side, but it makes the text shorter, so there is a last one (`exists_dashPasses`); and it keeps what the text is with every run
of dashes cut down to one, so that is what comes out in the end (`singleDashes_eq_cutRuns`).
-/

namespace PageTemplates.Text

variable {cs out : List Char} {c : Char} {n : Nat}

/-- The passes over a text: how many there are, and what the last one leaves. -/
inductive DashPasses : List Char → Nat → List Char → Prop
  | done {cs : List Char} (h : ¬['-', '-'] <:+: cs) : DashPasses cs 0 cs
  | pass {cs out : List Char} {n : Nat} (h : ['-', '-'] <:+: cs) (rest : DashPasses (mergeDashes cs) n out) :
      DashPasses cs (n + 1) out

/-- A text with every run of dashes cut down to one. -/
def cutRuns : List Char → List Char
  | [] => []
  | c :: cs => if c = '-' ∧ cs.head? = some '-' then cutRuns cs else c :: cutRuns cs

/-! ## One pass -/

theorem mergeDashes_nil : mergeDashes [] = [] :=
  replaceAll_nil (by decide)

theorem mergeDashes_pair (cs : List Char) : mergeDashes ('-' :: '-' :: cs) = '-' :: mergeDashes cs :=
  replaceAll_target_append (by decide) cs

theorem mergeDashes_cons (h : ¬['-', '-'] <+: c :: cs) : mergeDashes (c :: cs) = c :: mergeDashes cs :=
  replaceAll_cons_of_not_prefix (by decide) h

/-- What holds of a text is shown along a pass: two dashes at a time, or one character. -/
theorem dashes_induction {P : List Char → Prop} (nil : P []) (pair : ∀ cs, P cs → P ('-' :: '-' :: cs))
    (single : ∀ c cs, ¬['-', '-'] <+: c :: cs → P cs → P (c :: cs)) : ∀ cs, P cs
  | [] => nil
  | c :: cs => by
    by_cases h : ['-', '-'] <+: c :: cs
    · obtain ⟨rest, hrest⟩ := h
      obtain ⟨rfl, rfl⟩ : '-' = c ∧ '-' :: rest = cs := by simpa using hrest
      exact pair rest (dashes_induction nil pair single rest)
    · exact single c cs h (dashes_induction nil pair single cs)
termination_by cs => cs.length

theorem head?_mergeDashes (cs : List Char) : (mergeDashes cs).head? = cs.head? := by
  induction cs using dashes_induction with
  | nil => rw [mergeDashes_nil]
  | pair cs => rw [mergeDashes_pair]; rfl
  | single c cs h => rw [mergeDashes_cons h]; rfl

/-- Cutting runs looks at a text only through its first character and what is left of the rest. -/
theorem cutRuns_cons_congr {as bs : List Char} (hhead : as.head? = bs.head?) (h : cutRuns as = cutRuns bs) (c : Char) :
    cutRuns (c :: as) = cutRuns (c :: bs) := by
  rw [cutRuns, cutRuns, hhead, h]

/-- A pass keeps what the text is with its runs cut down. -/
theorem cutRuns_mergeDashes (cs : List Char) : cutRuns (mergeDashes cs) = cutRuns cs := by
  induction cs using dashes_induction with
  | nil => rw [mergeDashes_nil]
  | pair cs ih =>
    have hrun : cutRuns ('-' :: '-' :: cs) = cutRuns ('-' :: cs) := if_pos ⟨rfl, rfl⟩
    rw [mergeDashes_pair, hrun, cutRuns_cons_congr (head?_mergeDashes cs) ih]
  | single c cs h ih => rw [mergeDashes_cons h, cutRuns_cons_congr (head?_mergeDashes cs) ih]

/-! ## All passes -/

/-- A text without dashes side by side has no runs to cut. -/
theorem cutRuns_of_not_isInfix (h : ¬['-', '-'] <:+: cs) : cutRuns cs = cs := by
  induction cs with
  | nil => rfl
  | cons c cs ih =>
    have hrun : ¬(c = '-' ∧ cs.head? = some '-') := by
      rintro ⟨rfl, hhead⟩
      obtain ⟨rest, rfl⟩ := List.head?_eq_some_iff.1 hhead
      exact h (List.prefix_append ['-', '-'] rest).isInfix
    rw [cutRuns, if_neg hrun, ih fun hinside => h (hinside.trans (List.suffix_cons c cs).isInfix)]

theorem mem_of_mem_cutRuns (h : c ∈ cutRuns cs) : c ∈ cs := by
  induction cs with
  | nil => exact h
  | cons d cs ih =>
    rw [cutRuns] at h
    split at h
    · exact List.mem_cons_of_mem _ (ih h)
    · rcases List.mem_cons.1 h with rfl | h
      · exact List.mem_cons_self
      · exact List.mem_cons_of_mem _ (ih h)

theorem DashPasses.not_isInfix (h : DashPasses cs n out) : ¬['-', '-'] <:+: out := by
  induction h with
  | done h => exact h
  | pass _ _ ih => exact ih

/-- Every pass takes a character at least. -/
theorem DashPasses.add_length_le (h : DashPasses cs n out) : n + out.length ≤ cs.length := by
  induction h with
  | done => simp
  | pass h _ ih =>
    have hshorter := length_mergeDashes_lt (occursIn_iff_isInfix.2 h)
    omega

theorem DashPasses.eq_cutRuns (h : DashPasses cs n out) : out = cutRuns cs := by
  induction h with
  | done h => exact (cutRuns_of_not_isInfix h).symm
  | pass _ _ ih => rw [ih, cutRuns_mergeDashes]

/-- The passes come to an end, and what the last one leaves is the result. -/
theorem exists_dashPasses (cs : List Char) : ∃ n, DashPasses cs n (singleDashes cs) := by
  fun_induction singleDashes cs with
  | case1 cs h ih =>
    obtain ⟨n, hpasses⟩ := ih
    exact ⟨n + 1, .pass (occursIn_iff_isInfix.1 h) hpasses⟩
  | case2 cs h => exact ⟨0, .done fun hinside => h (occursIn_iff_isInfix.2 hinside)⟩

/-- What is left in the end is the text with every run of dashes cut down to one. -/
theorem singleDashes_eq_cutRuns (cs : List Char) : singleDashes cs = cutRuns cs := by
  obtain ⟨n, hpasses⟩ := exists_dashPasses cs
  exact hpasses.eq_cutRuns

theorem not_infix_singleDashes (cs : List Char) : ¬['-', '-'] <:+: singleDashes cs := by
  obtain ⟨n, hpasses⟩ := exists_dashPasses cs
  exact hpasses.not_isInfix

end PageTemplates.Text
