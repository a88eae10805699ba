import PageTemplates.Proofs.Files.Segments

/-!
# Paths and extensions

The normal form of a path has the extension of the path. Main statement: paths that differ only in the extension have normal
forms that differ only in the extension (`exists_stem`).
-/

namespace PageTemplates.Path

/-- An extension that stays as it is: not empty, and without slashes. -/
def IsPlain (extension : List Char) : Prop :=
  extension ≠ [] ∧ ∀ c ∈ extension, isSeparator c = false

theorem splitAtChar_of_notMem {mark : Char} {cs : List Char} (h : mark ∉ cs) : Text.splitAtChar mark cs = [cs] := by
  induction cs with
  | nil => rfl
  | cons c cs ih =>
    simp only [List.mem_cons, not_or] at h
    rw [Text.splitAtChar, if_neg (Ne.symm h.1), ih h.2]

/-- What follows a text without a mark belongs to its last part. -/
theorem splitAtChar_append (mark : Char) (ds : List Char) :
    ∃ parts last, ∀ cs, mark ∉ cs → Text.splitAtChar mark (ds ++ cs) = parts ++ [last ++ cs] := by
  induction ds with
  | nil => exact ⟨[], [], fun cs h => splitAtChar_of_notMem h⟩
  | cons d ds ih =>
    obtain ⟨parts, last, hsplit⟩ := ih
    by_cases hd : d = mark
    · refine ⟨[] :: parts, last, fun cs h => ?_⟩
      rw [List.cons_append, Text.splitAtChar, if_pos hd, hsplit cs h]
      rfl
    · cases parts with
      | nil =>
        refine ⟨[], d :: last, fun cs h => ?_⟩
        rw [List.cons_append, Text.splitAtChar, if_neg hd, hsplit cs h]
        rfl
      | cons part parts =>
        refine ⟨(d :: part) :: parts, last, fun cs h => ?_⟩
        rw [List.cons_append, Text.splitAtChar, if_neg hd, hsplit cs h]
        rfl

theorem intercalate_concat (mark : List Char) (parts : List (List Char)) (last : List Char) :
    ∃ start, ∀ cs, mark.intercalate (parts ++ [last ++ cs]) = start ++ cs := by
  induction parts with
  | nil => exact ⟨last, fun cs => by simp [List.intercalate]⟩
  | cons part parts ih =>
    obtain ⟨start, hstart⟩ := ih
    refine ⟨part ++ mark ++ start, fun cs => ?_⟩
    rw [List.cons_append, List.intercalate_cons_of_ne_nil (by simp), hstart cs]
    simp only [List.append_assoc]

/-- The normal form of a path with a plain extension has the extension, after a stem that does not depend on it. -/
theorem exists_stem (cs : List Char) :
    ∃ stem, ∀ extension, IsPlain extension → normalizeChars (cs ++ '.' :: extension) = stem ++ '.' :: extension := by
  obtain ⟨parts, last, hsplit⟩ := splitAtChar_append '/' (forward cs)
  obtain ⟨stem, hstem⟩ := intercalate_concat ['/'] (parts.filter isProper) last
  refine ⟨stem, fun extension h => ?_⟩
  have hmem : '/' ∉ '.' :: extension := by
    intro hslash
    rcases List.mem_cons.1 hslash with hpoint | hslash
    · simp at hpoint
    · exact absurd (h.2 '/' hslash) (by decide)
  have hforward : forward (cs ++ '.' :: extension) = forward cs ++ '.' :: extension := by
    have hplain := forward_of_notMem fun hback => absurd (h.2 '\\' hback) (by decide)
    simp only [forward, List.map_append, List.map_cons] at hplain ⊢
    rw [hplain]
    rfl
  have hproper : isProper (last ++ '.' :: extension) = true := by
    have hlength : 2 ≤ (last ++ '.' :: extension).length := by
      have hpos := List.length_pos_iff.2 h.1
      simp only [List.length_append, List.length_cons]
      omega
    unfold isProper
    rw [Bool.and_eq_true, bne_iff_ne, bne_iff_ne]
    constructor
    · intro hnil
      simp [hnil] at hlength
    · intro hpoint
      simp [hpoint] at hlength
  have hjoined : ['/'].intercalate (segments (cs ++ '.' :: extension)) = stem ++ '.' :: extension := by
    unfold segments
    rw [hforward, hsplit _ hmem, List.filter_append, List.filter_cons_of_pos hproper]
    exact hstem _
  have hlast : ((cs ++ '.' :: extension).getLast?.map isSeparator).getD false = false := by
    have hend : (cs ++ '.' :: extension).getLast? = some (extension.getLast h.1) := by
      rw [List.getLast?_append, List.getLast?_cons, List.getLast?_eq_some_getLast h.1]
      rfl
    rw [hend]
    exact h.2 _ (List.getLast_mem h.1)
  unfold normalizeChars
  simp only [hjoined, hlast, Bool.false_and, Bool.false_eq_true, if_false]

end PageTemplates.Path
