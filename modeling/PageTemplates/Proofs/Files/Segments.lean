import PageTemplates.Path

/-!
# Segments of paths

A path is read through its segments. Its normal form has the same segments and nothing else in it but the slashes between them,
and at most one at the end. Main statements: a path has the segments of its normal form (`segments_normalizeChars`), joining
segments and taking them apart again changes nothing (`segments_joined`), and a normal form is the joined segments, maybe with
a slash (`normalizeChars_cases`).
-/

namespace PageTemplates.Path

/-- A text that can stand between two slashes of a normal form. -/
structure IsSegment (segment : List Char) : Prop where
  ne_nil : segment ≠ []
  ne_point : segment ≠ ['.']
  plain : ∀ c ∈ segment, isSeparator c = false

/-- Segments with slashes between them. -/
def joined (parts : List (List Char)) : List Char :=
  ['/'].intercalate parts

theorem slash_notMem {segment : List Char} (h : IsSegment segment) : '/' ∉ segment := fun hmem =>
  absurd (h.plain '/' hmem) (by decide)

/-! ## Splitting -/

/-- Splitting at a character is the splitting of lists. -/
theorem splitAtChar_eq_splitOn (mark : Char) (cs : List Char) : Text.splitAtChar mark cs = cs.splitOn mark := by
  induction cs with
  | nil => rfl
  | cons c cs ih =>
    rw [Text.splitAtChar, List.splitOn, List.splitOnP_cons_eq_if_modifyHead, ih]
    by_cases hc : c = mark
    · simp [hc, List.splitOn]
    · rw [if_neg hc, if_neg (by simpa using hc)]
      cases hsplit : cs.splitOn mark with
      | nil => exact absurd hsplit (List.splitOnP_ne_nil _ cs)
      | cons part parts =>
        rw [List.splitOn] at hsplit
        rw [hsplit, List.modifyHead_cons]

theorem splitAtChar_joined {parts : List (List Char)} (hne : parts ≠ []) (h : ∀ s ∈ parts, '/' ∉ s) :
    Text.splitAtChar '/' (joined parts) = parts := by
  rw [splitAtChar_eq_splitOn, joined, List.splitOn_intercalate '/' h hne]

/-- No part of a split holds the mark, and each is made of characters of the text. -/
theorem mem_splitAtChar {mark : Char} {cs part : List Char} (h : part ∈ Text.splitAtChar mark cs) :
    mark ∉ part ∧ ∀ c ∈ part, c ∈ cs := by
  induction cs generalizing part with
  | nil =>
    obtain rfl : part = [] := by simpa [Text.splitAtChar] using h
    simp
  | cons d cs ih =>
    rw [Text.splitAtChar] at h
    by_cases hd : d = mark
    · rw [if_pos hd] at h
      rcases List.mem_cons.1 h with rfl | h
      · simp
      · obtain ⟨hmark, hsub⟩ := ih h
        exact ⟨hmark, fun c hc => List.mem_cons_of_mem d (hsub c hc)⟩
    · rw [if_neg hd] at h
      cases hsplit : Text.splitAtChar mark cs with
      | nil => simp [hsplit] at h; simp [h, Ne.symm hd]
      | cons word more =>
        rw [hsplit] at h
        have hcons : ∀ {w}, w ∈ word :: more → mark ∉ w ∧ ∀ c ∈ w, c ∈ cs := fun hw => ih (hsplit ▸ hw)
        rcases List.mem_cons.1 h with rfl | h
        · obtain ⟨hmark, hsub⟩ := hcons List.mem_cons_self
          refine ⟨by simp [Ne.symm hd, hmark], fun c hc => ?_⟩
          rcases List.mem_cons.1 hc with rfl | hc
          · exact List.mem_cons_self
          · exact List.mem_cons_of_mem d (hsub c hc)
        · obtain ⟨hmark, hsub⟩ := hcons (List.mem_cons_of_mem word h)
          exact ⟨hmark, fun c hc => List.mem_cons_of_mem d (hsub c hc)⟩

theorem splitAtChar_append_mark (mark : Char) (as bs : List Char) :
    Text.splitAtChar mark (as ++ mark :: bs) = Text.splitAtChar mark as ++ Text.splitAtChar mark bs := by
  induction as with
  | nil => simp [Text.splitAtChar]
  | cons a as ih =>
    rw [List.cons_append, Text.splitAtChar, Text.splitAtChar, ih]
    by_cases ha : a = mark
    · rw [if_pos ha, if_pos ha]
      rfl
    · rw [if_neg ha, if_neg ha]
      cases hsplit : Text.splitAtChar mark as with
      | nil => exact absurd hsplit (by rw [splitAtChar_eq_splitOn]; exact List.splitOnP_ne_nil _ as)
      | cons part parts => rfl

/-! ## Segments -/

theorem backslash_notMem_forward (cs : List Char) : '\\' ∉ forward cs := by
  intro h
  obtain ⟨c, -, hc⟩ := List.mem_map.1 h
  by_cases hback : c = '\\'
  · rw [if_pos hback] at hc
    exact absurd hc (by decide)
  · rw [if_neg hback] at hc
    exact hback hc

theorem forward_of_notMem {cs : List Char} (h : '\\' ∉ cs) : forward cs = cs := by
  refine (List.map_congr_left fun c hc => ?_).trans (List.map_id cs)
  have hback : c ≠ '\\' := fun hback => h (hback ▸ hc)
  rw [if_neg hback]
  rfl

/-- A part of a text without backslashes has no slash of either kind. -/
theorem plain_of_mem_splitAtChar {cs part : List Char} (hback : '\\' ∉ cs) (h : part ∈ Text.splitAtChar '/' cs) :
    ∀ c ∈ part, isSeparator c = false := by
  obtain ⟨hslash, hsub⟩ := mem_splitAtChar h
  intro c hc
  have hbackward : c ≠ '\\' := fun heq => hback (heq ▸ hsub c hc)
  have hforward : c ≠ '/' := fun heq => hslash (heq ▸ hc)
  simp [isSeparator, hbackward, hforward]

/-- Segments of a path can stand between slashes. -/
theorem isSegment_of_mem_segments {cs s : List Char} (h : s ∈ segments cs) : IsSegment s := by
  obtain ⟨hpart, hproper⟩ := List.mem_filter.1 h
  rw [isProper, Bool.and_eq_true, bne_iff_ne, bne_iff_ne] at hproper
  exact ⟨hproper.1, hproper.2, plain_of_mem_splitAtChar (backslash_notMem_forward cs) hpart⟩

theorem isProper_of_isSegment {s : List Char} (h : IsSegment s) : isProper s = true := by
  simp [isProper, h.ne_nil, h.ne_point]

theorem filter_isProper {parts : List (List Char)} (h : ∀ s ∈ parts, IsSegment s) : parts.filter isProper = parts :=
  List.filter_eq_self.2 fun s hs => isProper_of_isSegment (h s hs)

theorem mem_joined {parts : List (List Char)} {c : Char} (h : c ∈ joined parts) : c = '/' ∨ ∃ s ∈ parts, c ∈ s := by
  induction parts with
  | nil => simp [joined, List.intercalate] at h
  | cons s parts ih =>
    cases parts with
    | nil => exact Or.inr ⟨s, List.mem_cons_self, by simpa [joined, List.intercalate] using h⟩
    | cons t parts =>
      rw [joined, List.intercalate_cons_cons, List.append_assoc, List.mem_append, List.mem_append] at h
      rcases h with h | h | h
      · exact Or.inr ⟨s, List.mem_cons_self, h⟩
      · exact Or.inl (by simpa using h)
      · rcases ih h with h | ⟨u, hu, hc⟩
        · exact Or.inl h
        · exact Or.inr ⟨u, List.mem_cons_of_mem s hu, hc⟩

theorem forward_joined {parts : List (List Char)} (h : ∀ s ∈ parts, IsSegment s) : forward (joined parts) = joined parts := by
  refine forward_of_notMem fun hback => ?_
  rcases mem_joined hback with heq | ⟨s, hs, hc⟩
  · exact absurd heq (by decide)
  · exact absurd ((h s hs).plain _ hc) (by decide)

/-- Taking joined segments apart gives them back. -/
theorem segments_joined {parts : List (List Char)} (h : ∀ s ∈ parts, IsSegment s) : segments (joined parts) = parts := by
  unfold segments
  rw [forward_joined h]
  by_cases hne : parts = []
  · subst hne
    rfl
  · rw [splitAtChar_joined hne fun s hs => slash_notMem (h s hs), filter_isProper h]

theorem joined_append {before after : List (List Char)} (hbefore : before ≠ []) (hafter : after ≠ []) :
    joined (before ++ after) = joined before ++ '/' :: joined after := by
  obtain ⟨t, after, rfl⟩ := List.exists_cons_of_ne_nil hafter
  induction before with
  | nil => exact absurd rfl hbefore
  | cons s before ih =>
    cases before with
    | nil => simp [joined, List.intercalate_cons_cons]
    | cons u before =>
      have ih := ih (by simp)
      simp only [joined, List.cons_append] at ih ⊢
      rw [List.intercalate_cons_cons, ih, List.intercalate_cons_cons]
      simp only [List.append_assoc]

theorem joined_concat {parts : List (List Char)} (hne : parts ≠ []) (s : List Char) :
    joined (parts ++ [s]) = joined parts ++ '/' :: s := by
  rw [joined_append hne (List.cons_ne_nil s [])]
  simp [joined]

theorem joined_concat_nil {parts : List (List Char)} (hne : parts ≠ []) : joined (parts ++ [[]]) = joined parts ++ ['/'] :=
  joined_concat hne []

/-- A slash at the end is followed by an empty part. -/
theorem splitAtChar_joined_slash {parts : List (List Char)} (hne : parts ≠ []) (h : ∀ s ∈ parts, '/' ∉ s) :
    Text.splitAtChar '/' (joined parts ++ ['/']) = parts ++ [[]] := by
  rw [← joined_concat_nil hne]
  exact splitAtChar_joined (by simp) (List.forall_mem_append.2 ⟨h, List.forall_mem_singleton.2 (List.not_mem_nil)⟩)

/-- A slash at the end makes no difference to the segments. -/
theorem segments_joined_slash {parts : List (List Char)} (h : ∀ s ∈ parts, IsSegment s) (hne : parts ≠ []) :
    segments (joined parts ++ ['/']) = parts := by
  have hforward : forward (joined parts ++ ['/']) = joined parts ++ ['/'] := by
    rw [forward, List.map_append]
    congr 1
    exact forward_joined h
  unfold segments
  rw [hforward, splitAtChar_joined_slash hne fun s hs => slash_notMem (h s hs), List.filter_append, filter_isProper h]
  simp [isProper]

/-! ## Normal forms -/

theorem joined_ne_nil {parts : List (List Char)} (h : ∀ s ∈ parts, IsSegment s) (hne : parts ≠ []) : joined parts ≠ [] := by
  intro hnil
  have hparts := segments_joined h
  rw [hnil] at hparts
  exact hne hparts.symm

/-- A normal form is the segments with slashes between them, and with a slash at the end only after a segment. -/
theorem normalizeChars_cases (cs : List Char) :
    normalizeChars cs = joined (segments cs) ∨ segments cs ≠ [] ∧ normalizeChars cs = joined (segments cs) ++ ['/'] := by
  unfold normalizeChars
  by_cases hslash : ((cs.getLast?.map isSeparator).getD false && !(['/'].intercalate (segments cs)).isEmpty) = true
  · refine Or.inr ⟨fun hnil => ?_, if_pos hslash⟩
    rw [hnil] at hslash
    simp [List.intercalate] at hslash
  · exact Or.inl (if_neg hslash)

/-- A normal form does not start with a slash. -/
theorem head?_normalizeChars (cs : List Char) : (normalizeChars cs).head? ≠ some '/' := by
  have hhead : ∀ after : List Char, (joined (segments cs) ++ after).head? = some '/' → segments cs = [] := by
    intro after hslash
    cases hparts : segments cs with
    | nil => rfl
    | cons s parts =>
      have hs : IsSegment s := isSegment_of_mem_segments (hparts ▸ List.mem_cons_self)
      obtain ⟨c, s', rfl⟩ := List.exists_cons_of_ne_nil hs.ne_nil
      have hfirst : (joined (segments cs) ++ after).head? = some c := by
        rw [hparts]
        cases parts <;> simp [joined, List.intercalate]
      rw [hfirst] at hslash
      obtain rfl := Option.some.inj hslash
      exact absurd List.mem_cons_self (slash_notMem hs)
  intro hslash
  rcases normalizeChars_cases cs with hform | ⟨hne, hform⟩
  · have hnil := hhead [] (by rw [List.append_nil, ← hform]; exact hslash)
    rw [hform, hnil] at hslash
    cases hslash
  · exact hne (hhead ['/'] (hform ▸ hslash))

/-- A path has the segments of its normal form. -/
theorem segments_normalizeChars (cs : List Char) : segments (normalizeChars cs) = segments cs := by
  have hparts : ∀ s ∈ segments cs, IsSegment s := fun s => isSegment_of_mem_segments
  rcases normalizeChars_cases cs with h | ⟨hne, h⟩
  · rw [h, segments_joined hparts]
  · rw [h, segments_joined_slash hparts hne]

/-- A normal form has no backslashes. -/
theorem forward_normalizeChars (cs : List Char) : forward (normalizeChars cs) = normalizeChars cs := by
  have hparts : ∀ s ∈ segments cs, IsSegment s := fun s => isSegment_of_mem_segments
  rcases normalizeChars_cases cs with hform | ⟨-, hform⟩
  · rw [hform, forward_joined hparts]
  · rw [hform, forward, List.map_append]
    congr 1
    exact forward_joined hparts

/-- A path without segments is the root. -/
theorem normalizeChars_of_segments_eq_nil {cs : List Char} (h : segments cs = []) : normalizeChars cs = [] := by
  rw [(normalizeChars_cases cs).resolve_right fun hslash => hslash.1 h, h]
  rfl

/-- What stands between the slashes of a normal form are the segments, and nothing after a slash at the end. -/
theorem splitAtChar_normalizeChars {cs : List Char} (hne : segments cs ≠ []) :
    Text.splitAtChar '/' (normalizeChars cs) = segments cs ∨ Text.splitAtChar '/' (normalizeChars cs) = segments cs ++ [[]] := by
  have hslash : ∀ s ∈ segments cs, '/' ∉ s := fun s hs => slash_notMem (isSegment_of_mem_segments hs)
  rcases normalizeChars_cases cs with hform | ⟨-, hform⟩
  · exact Or.inl (by rw [hform, splitAtChar_joined hne hslash])
  · exact Or.inr (by rw [hform, splitAtChar_joined_slash hne hslash])

theorem mem_splitAtChar_normalizeChars {cs part : List Char} (h : part ∈ Text.splitAtChar '/' (normalizeChars cs)) :
    part ∈ segments cs ∨ part = [] := by
  by_cases hnil : segments cs = []
  · rw [normalizeChars_of_segments_eq_nil hnil] at h
    exact Or.inr (List.mem_singleton.1 h)
  · rcases splitAtChar_normalizeChars hnil with hsplit | hsplit
    · exact Or.inl (hsplit ▸ h)
    · rcases List.mem_append.1 (hsplit ▸ h) with h | h
      · exact Or.inl h
      · exact Or.inr (List.mem_singleton.1 h)

/-- Every segment stands between the slashes of the normal form. -/
theorem mem_splitAtChar_of_mem_segments {cs s : List Char} (h : s ∈ segments cs) :
    s ∈ Text.splitAtChar '/' (normalizeChars cs) := by
  rw [← segments_normalizeChars] at h
  obtain ⟨hpart, -⟩ := List.mem_filter.1 h
  rwa [forward_normalizeChars] at hpart

end PageTemplates.Path
