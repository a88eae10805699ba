/-!
# Parts of a text

Splitting a text at a separator, putting parts together, and replacing one text by another. The occurrences of a separator are
taken from left to right and do not overlap. An empty separator stands at every place between two characters, and at both ends.
Main statements: there is always a part, and replacing a text that occurs by a shorter one makes the whole shorter.
-/

namespace PageTemplates.Text

/-- The parts of a text between the occurrences of a separator that is not empty. The first argument counts the characters of
an occurrence that are still to be dropped. -/
def splitFrom (separator : List Char) : Nat → List Char → List (List Char)
  | _, [] => [[]]
  | n + 1, _ :: cs => splitFrom separator n cs
  | 0, c :: cs =>
    if separator.isPrefixOf (c :: cs) then [] :: splitFrom separator (separator.length - 1) cs
    else match splitFrom separator 0 cs with
      | part :: more => (c :: part) :: more
      | [] => [[c]]

/-- The parts of a text between the occurrences of a separator. -/
def splitOn (separator cs : List Char) : List (List Char) :=
  if separator.isEmpty then [] :: cs.map ([·]) ++ [[]] else splitFrom separator 0 cs

/-- The parts with a separator between any two. -/
def joinWith (separator : List Char) (parts : List (List Char)) : List Char :=
  separator.intercalate parts

/-- A text with every occurrence of one text replaced by another. -/
def replaceAll (target replacement cs : List Char) : List Char :=
  joinWith replacement (splitOn target cs)

/-- Whether a text stands somewhere in another one. -/
def occursIn (target : List Char) : List Char → Bool
  | [] => target.isEmpty
  | c :: cs => target.isPrefixOf (c :: cs) || occursIn target cs

variable {separator target replacement : List Char}

/-- There is always a part, if only an empty one. -/
theorem splitFrom_ne_nil (separator : List Char) (n : Nat) (cs : List Char) : splitFrom separator n cs ≠ [] := by
  fun_induction splitFrom separator n cs with
  | case1 => exact List.cons_ne_nil _ _
  | case2 n c cs ih => exact ih
  | case3 c cs => exact List.cons_ne_nil _ _
  | case4 c cs => exact List.cons_ne_nil _ _
  | case5 c cs => exact List.cons_ne_nil _ _

theorem joinWith_cons {part : List Char} {parts : List (List Char)} (h : parts ≠ []) :
    joinWith separator (part :: parts) = part ++ (separator ++ joinWith separator parts) := by
  obtain ⟨next, more, rfl⟩ := List.exists_cons_of_ne_nil h
  simp [joinWith, List.intercalate]

/-- A character before the first part stands before the text. -/
theorem joinWith_cons_part (c : Char) (part : List Char) (more : List (List Char)) :
    joinWith separator ((c :: part) :: more) = c :: joinWith separator (part :: more) := by
  cases more with
  | nil => simp [joinWith]
  | cons next more => simp [joinWith_cons (List.cons_ne_nil next more)]

theorem replaceAll_of_ne_nil (h : target ≠ []) (cs : List Char) :
    replaceAll target replacement cs = joinWith replacement (splitFrom target 0 cs) := by
  rw [replaceAll, splitOn, if_neg (by simpa using h)]

/-- A text does not grow where parts of it are replaced by shorter ones. -/
theorem length_joinWith_splitFrom_le (h : replacement.length ≤ target.length) (n : Nat) (cs : List Char) :
    (joinWith replacement (splitFrom target n cs)).length ≤ (cs.drop n).length := by
  fun_induction splitFrom target n cs with
  | case1 n => simp [joinWith]
  | case2 n c cs ih => exact ih
  | case3 c cs hprefix ih =>
    have hle : target.length ≤ (c :: cs).length := (List.isPrefixOf_iff_prefix.1 hprefix).length_le
    rw [joinWith_cons (splitFrom_ne_nil _ _ _)]
    simp only [List.nil_append, List.length_append, List.length_drop, List.length_cons] at ih hle ⊢
    omega
  | case4 c cs _ part more hsplit ih =>
    rw [joinWith_cons_part, ← hsplit]
    simpa using ih
  | case5 c cs _ hsplit => exact absurd hsplit (splitFrom_ne_nil _ _ _)

/-- A text in which another one occurs gets shorter when that is replaced by a shorter one. -/
theorem length_replaceAll_lt (h : replacement.length < target.length) {cs : List Char} (hoccurs : occursIn target cs = true) :
    (replaceAll target replacement cs).length < cs.length := by
  have hne : target ≠ [] := List.length_pos_iff.1 (Nat.zero_lt_of_lt h)
  rw [replaceAll_of_ne_nil hne]
  induction cs with
  | nil => exact absurd (List.isEmpty_iff.1 hoccurs) hne
  | cons c cs ih =>
    rw [splitFrom]
    by_cases hprefix : target.isPrefixOf (c :: cs) = true
    · have hle : target.length ≤ (c :: cs).length := (List.isPrefixOf_iff_prefix.1 hprefix).length_le
      have hrest := length_joinWith_splitFrom_le (Nat.le_of_lt h) (target.length - 1) cs
      rw [if_pos hprefix, joinWith_cons (splitFrom_ne_nil _ _ _)]
      simp only [List.nil_append, List.length_append, List.length_drop, List.length_cons] at hrest hle ⊢
      omega
    · have hlater : occursIn target cs = true := by
        rw [occursIn, Bool.or_eq_true] at hoccurs
        exact hoccurs.resolve_left hprefix
      rw [if_neg hprefix]
      cases hsplit : splitFrom target 0 cs with
      | nil => exact absurd hsplit (splitFrom_ne_nil _ _ _)
      | cons part more =>
        have ih := ih hlater
        rw [hsplit] at ih
        simpa [joinWith_cons_part] using ih

end PageTemplates.Text
