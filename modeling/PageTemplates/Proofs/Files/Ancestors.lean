import Mathlib.Data.List.TakeDrop
import Mathlib.Data.List.TakeWhile
import PageTemplates.Proofs.Files.Segments

/-!
# The directories above a path

The directories above a path are the paths of its first segments, from all but the last of them down to none, which is the
root. The walk from parent to parent visits each of them once, the deepest first, and ends at the root. Main statement: the
walk is the list of these directories (`ancestors_eq`).
-/

namespace PageTemplates.Path

/-- The number of directories above a path. -/
def depth (path : String) : Nat :=
  (segments path.toList).length

/-- The directory above a path that so many segments lead to. -/
def directoryAt (path : String) (level : Nat) : String :=
  String.ofList (joined ((segments path.toList).take level))

/-- The directories above a path on the levels below a given one, the deepest first. -/
def directoriesBelow (path : String) : Nat → List String
  | 0 => []
  | level + 1 => directoryAt path level :: directoriesBelow path level

/-! ## The last segment -/

theorem splitLast?_append {mark : Char} {before after : List Char} (h : mark ∉ after) :
    splitLast? mark (before ++ mark :: after) = some (before, after) := by
  have hspan : (before ++ mark :: after).reverse.span (· != mark) = (after.reverse, mark :: before.reverse) := by
    have hafter : ∀ c ∈ after.reverse, (c != mark) = true := by
      intro c hc
      have hne : c ≠ mark := fun heq => h (heq ▸ List.mem_reverse.1 hc)
      simpa using hne
    rw [List.span_eq_takeWhile_dropWhile]
    simp only [List.reverse_append, List.reverse_cons, List.append_assoc, List.singleton_append]
    rw [List.takeWhile_append_of_pos hafter, List.dropWhile_append_of_pos hafter]
    simp
  simp only [splitLast?, hspan, List.reverse_reverse]

theorem splitLast?_of_notMem {mark : Char} {cs : List Char} (h : mark ∉ cs) : splitLast? mark cs = none := by
  have hall : ∀ c ∈ cs.reverse, (c != mark) = true := by
    intro c hc
    have hne : c ≠ mark := fun heq => h (heq ▸ List.mem_reverse.1 hc)
    simpa using hne
  have hspan : cs.reverse.span (· != mark) = (cs.reverse, []) := by
    rw [List.span_eq_takeWhile_dropWhile, List.takeWhile_eq_self_iff.2 hall, List.dropWhile_eq_nil_iff.2 hall]
  simp only [splitLast?, hspan]

theorem trimEndOf_append_mark (mark : Char) (cs : List Char) : trimEndOf mark (cs ++ [mark]) = trimEndOf mark cs := by
  simp [trimEndOf]

theorem trimEndOf_of_getLast {mark : Char} {cs : List Char} (h : cs.getLast? ≠ some mark) : trimEndOf mark cs = cs := by
  unfold trimEndOf
  rw [List.getLast?_eq_head?_reverse] at h
  cases hcs : cs.reverse with
  | nil => simpa using hcs.symm
  | cons c rest =>
    rw [hcs] at h
    have hne : (c == mark) = false := by simpa using h
    rw [List.dropWhile_cons, hne, if_neg (by simp), ← hcs, List.reverse_reverse]

theorem getLast?_joined {parts : List (List Char)} (h : ∀ s ∈ parts, IsSegment s) : (joined parts).getLast? ≠ some '/' := by
  rcases List.eq_nil_or_concat parts with rfl | ⟨start, s, rfl⟩
  · simp [joined, List.intercalate]
  · have hs := h s (by simp)
    have hlast : (joined (start ++ [s])).getLast? = s.getLast? := by
      by_cases hstart : start = []
      · subst hstart
        simp [joined, List.intercalate]
      · rw [joined_concat hstart, List.getLast?_append, List.getLast?_cons, List.getLast?_eq_some_getLast hs.ne_nil]
        rfl
    rw [List.concat_eq_append, hlast, List.getLast?_eq_some_getLast hs.ne_nil]
    intro hslash
    exact slash_notMem hs (Option.some.inj hslash ▸ List.getLast_mem hs.ne_nil)

/-! ## Parents -/

@[simp]
theorem parent?_root : parent? "" = none := by decide

/-- The parent of segments is all but the last of them. -/
theorem parent?_joined {parts : List (List Char)} {s : List Char} (h : ∀ t ∈ parts ++ [s], IsSegment t) :
    parent? (String.ofList (joined (parts ++ [s]))) = some (String.ofList (joined parts)) := by
  have htrim : trimEndOf '/' (joined (parts ++ [s])) = joined (parts ++ [s]) := trimEndOf_of_getLast (getLast?_joined h)
  have hs : '/' ∉ s := slash_notMem (h s (by simp))
  have hne : (joined (parts ++ [s])).isEmpty = false :=
    List.isEmpty_eq_false_iff.2 (joined_ne_nil h (by simp))
  simp only [parent?, String.toList_ofList, htrim, hne]
  by_cases hparts : parts = []
  · subst hparts
    have hsingle : joined ([] ++ [s]) = s := by simp [joined, List.intercalate]
    rw [hsingle, splitLast?_of_notMem hs]
    rfl
  · rw [joined_concat hparts, splitLast?_append hs]
    rfl

theorem parent?_slash (cs : List Char) : parent? (String.ofList (cs ++ ['/'])) = parent? (String.ofList cs) := by
  simp only [parent?, String.toList_ofList, trimEndOf_append_mark]

theorem isSegment_take {path : String} {level : Nat} : ∀ s ∈ (segments path.toList).take level, IsSegment s := fun _ hs =>
  isSegment_of_mem_segments (List.mem_of_mem_take hs)

/-- The parent of a directory is the one on the next level up. -/
theorem parent?_directoryAt {path : String} {level : Nat} (h : level < depth path) :
    parent? (directoryAt path (level + 1)) = some (directoryAt path level) := by
  have htake : (segments path.toList).take (level + 1) = (segments path.toList).take level ++ [(segments path.toList)[level]] :=
    List.take_succ_eq_append_getElem h
  unfold directoryAt
  rw [htake]
  exact parent?_joined (htake ▸ isSegment_take)

/-- A path in normal form has the parent of its segments, whether it ends in a slash or not. -/
theorem parent?_of_normal {path : String} (h : normalize path = path) : parent? path = parent? (directoryAt path (depth path)) := by
  have hchars : normalizeChars path.toList = path.toList := by
    simpa [normalize] using congrArg String.toList h
  have hall : directoryAt path (depth path) = String.ofList (joined (segments path.toList)) := by
    rw [directoryAt, depth, List.take_length]
  rw [hall]
  rcases normalizeChars_cases path.toList with hform | ⟨-, hform⟩
  · rw [← hform, hchars, String.ofList_toList]
  · rw [← parent?_slash, ← hform, hchars, String.ofList_toList]

/-! ## The walk -/

theorem ancestorsFrom_directoryAt {path : String} {level : Nat} (h : level ≤ depth path) {fuel : Nat} (hfuel : level < fuel) :
    ancestorsFrom fuel (directoryAt path level) = directoriesBelow path level := by
  induction level generalizing fuel with
  | zero =>
    obtain ⟨fuel, rfl⟩ := Nat.exists_eq_succ_of_ne_zero (Nat.ne_of_gt hfuel)
    have hroot : directoryAt path 0 = "" := rfl
    rw [ancestorsFrom, hroot, parent?_root]
    rfl
  | succ level ih =>
    obtain ⟨fuel, rfl⟩ := Nat.exists_eq_succ_of_ne_zero (Nat.ne_of_gt (Nat.zero_lt_of_lt hfuel))
    rw [ancestorsFrom, parent?_directoryAt h, directoriesBelow]
    simp only
    rw [ih (Nat.le_of_succ_le h) (Nat.lt_of_succ_lt_succ hfuel)]

/-- A text has no fewer characters than parts, if no part is empty. -/
theorem length_le_joined {parts : List (List Char)} (h : ∀ s ∈ parts, IsSegment s) : parts.length ≤ (joined parts).length := by
  induction parts with
  | nil => simp
  | cons s parts ih =>
    have hs : 0 < s.length := List.length_pos_iff.2 (h s List.mem_cons_self).ne_nil
    cases parts with
    | nil =>
      simp only [joined, List.intercalate_singleton, List.length_singleton]
      omega
    | cons t parts =>
      have ih := ih fun u hu => h u (List.mem_cons_of_mem s hu)
      rw [joined, List.intercalate_cons_cons, List.length_append, List.length_append]
      simp only [joined, List.length_cons, List.length_nil] at ih ⊢
      omega

theorem depth_le_length {path : String} (h : normalize path = path) : depth path ≤ path.toList.length := by
  have hchars : normalizeChars path.toList = path.toList := by
    simpa [normalize] using congrArg String.toList h
  have hlength : (segments path.toList).length ≤ (joined (segments path.toList)).length :=
    length_le_joined fun _ => isSegment_of_mem_segments
  rcases normalizeChars_cases path.toList with hform | ⟨-, hform⟩
  · rw [← hform, hchars] at hlength
    exact hlength
  · have hsum := congrArg List.length hform
    rw [hchars, List.length_append] at hsum
    unfold depth
    omega

/-- The walk from parent to parent visits every directory above a path once, the deepest first. -/
theorem ancestors_eq {path : String} (h : normalize path = path) : ancestors path = directoriesBelow path (depth path) := by
  have hfuel := depth_le_length h
  rw [ancestors, ancestorsFrom, parent?_of_normal h]
  cases hdepth : depth path with
  | zero => rfl
  | succ level =>
    rw [parent?_directoryAt (by omega), directoriesBelow]
    simp only
    rw [ancestorsFrom_directoryAt (by omega) (by omega)]

end PageTemplates.Path
