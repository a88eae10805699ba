import PageTemplates.Proofs.Files.Ancestors

/-!
# Normal forms of paths

Files are known by the normal forms of their paths. A path is its own normal form just if it has no backslash, no point as a
segment, and no slash but between two segments or after the last one. Two paths have one normal form just if the same segments
stand between their slashes of either kind, and a slash ends both or neither, unless there are no segments. Main statement:
`normalize_canonical`.
-/

namespace PageTemplates.Path

/-- The proper segments between slashes of either kind. -/
def steps (cs : List Char) : List (List Char) :=
  (cs.splitOnP isSeparator).filter isProper

/-- The path ends in a slash of either kind. -/
def EndsInSlash (cs : List Char) : Prop :=
  ∃ c, cs.getLast? = some c ∧ isSeparator c = true

/-- The path is written as normal forms are. -/
structure IsNormal (cs : List Char) : Prop where
  no_backslash : '\\' ∉ cs
  no_leading_slash : cs.head? ≠ some '/'
  no_double_slash : ¬['/', '/'] <:+: cs
  no_point : ['.'] ∉ cs.splitOnP isSeparator

/-! ## Slashes of either kind -/

/-- Once backslashes are slashes, the text is cut where it had either. -/
theorem splitAtChar_forward (cs : List Char) : Text.splitAtChar '/' (forward cs) = cs.splitOnP isSeparator := by
  rw [splitAtChar_eq_splitOn, List.splitOn_eq_splitOnP]
  induction cs with
  | nil => rfl
  | cons c cs ih =>
    have hforward : forward (c :: cs) = (if c = '\\' then '/' else c) :: forward cs := rfl
    rw [hforward, List.splitOnP_cons_eq_if_modifyHead, List.splitOnP_cons_eq_if_modifyHead, ih]
    by_cases hback : c = '\\'
    · subst hback
      rfl
    · rw [if_neg hback]
      by_cases hslash : c = '/'
      · subst hslash
        rfl
      · simp [isSeparator, hback, hslash]

theorem segments_eq_steps (cs : List Char) : segments cs = steps cs := by
  rw [segments, splitAtChar_forward, steps]

/-! ## The slash at the end -/

theorem normalizeChars_of_endsInSlash {cs : List Char} (hne : segments cs ≠ []) (h : EndsInSlash cs) :
    normalizeChars cs = joined (segments cs) ++ ['/'] := by
  obtain ⟨c, hlast, hc⟩ := h
  have hjoined : (['/'].intercalate (segments cs)).isEmpty = false :=
    List.isEmpty_eq_false_iff.2 (joined_ne_nil (fun _ => isSegment_of_mem_segments) hne)
  simp [normalizeChars, hlast, hc, hjoined, joined]

theorem normalizeChars_of_not_endsInSlash {cs : List Char} (h : ¬(segments cs ≠ [] ∧ EndsInSlash cs)) :
    normalizeChars cs = joined (segments cs) := by
  refine if_neg fun hslash => h ?_
  rw [Bool.and_eq_true, Bool.not_eq_true', List.isEmpty_eq_false_iff] at hslash
  refine ⟨fun hnil => hslash.2 (by rw [hnil]; rfl), ?_⟩
  cases hlast : cs.getLast? with
  | none => simp [hlast] at hslash
  | some c => exact ⟨c, hlast, by simpa [hlast] using hslash.1⟩

/-- Segments with slashes between them do not end in one. -/
theorem not_endsInSlash_joined {parts : List (List Char)} (h : ∀ s ∈ parts, IsSegment s) : ¬EndsInSlash (joined parts) := by
  rintro ⟨c, hlast, hc⟩
  rcases mem_joined (List.mem_of_getLast? hlast) with rfl | ⟨s, hs, hmem⟩
  · exact getLast?_joined h hlast
  · exact absurd ((h s hs).plain c hmem) (by simp [hc])

/-- The normal form keeps a slash at the end, if there is a segment before it. -/
theorem endsInSlash_normalizeChars (cs : List Char) : EndsInSlash (normalizeChars cs) ↔ segments cs ≠ [] ∧ EndsInSlash cs := by
  by_cases h : segments cs ≠ [] ∧ EndsInSlash cs
  · rw [normalizeChars_of_endsInSlash h.1 h.2]
    exact iff_of_true ⟨'/', by simp, rfl⟩ h
  · rw [normalizeChars_of_not_endsInSlash h]
    exact iff_of_false (not_endsInSlash_joined fun _ => isSegment_of_mem_segments) h

/-- A normal form is known by the segments and by whether a slash ends the path. -/
theorem normalizeChars_eq_iff (as bs : List Char) :
    normalizeChars as = normalizeChars bs ↔
      segments as = segments bs ∧ (segments as = [] ∨ (EndsInSlash as ↔ EndsInSlash bs)) := by
  constructor
  · intro h
    have hsegments : segments as = segments bs := by
      rw [← segments_normalizeChars as, h, segments_normalizeChars]
    refine ⟨hsegments, or_iff_not_imp_left.2 fun hne => ?_⟩
    have has := endsInSlash_normalizeChars as
    rw [h, endsInSlash_normalizeChars bs, ← hsegments] at has
    simpa [hne] using has.symm
  · rintro ⟨hsegments, hends⟩
    by_cases has : segments as ≠ [] ∧ EndsInSlash as
    · have hbs := (hends.resolve_left has.1).1 has.2
      rw [normalizeChars_of_endsInSlash has.1 has.2, normalizeChars_of_endsInSlash (hsegments ▸ has.1) hbs, hsegments]
    · have hbs : ¬(segments bs ≠ [] ∧ EndsInSlash bs) := fun ⟨hne, hbs⟩ =>
        has ⟨hsegments ▸ hne, (hends.resolve_left (hsegments ▸ hne)).2 hbs⟩
      rw [normalizeChars_of_not_endsInSlash has, normalizeChars_of_not_endsInSlash hbs, hsegments]

/-! ## What normal forms look like -/

/-- Before a slash of a normal form stands a segment. -/
theorem nil_notMem_of_normalizeChars_eq {cs before after : List Char} (h : normalizeChars cs = before ++ '/' :: after) :
    [] ∉ Text.splitAtChar '/' before := by
  have hsegments : [] ∉ segments cs := fun hnil => (isSegment_of_mem_segments hnil).ne_nil rfl
  have hne : segments cs ≠ [] := by
    intro hnil
    rw [normalizeChars_of_segments_eq_nil hnil] at h
    simp at h
  have hsplit : Text.splitAtChar '/' (normalizeChars cs) = Text.splitAtChar '/' before ++ Text.splitAtChar '/' after := by
    rw [h, splitAtChar_append_mark]
  intro hnil
  rcases splitAtChar_normalizeChars hne with hparts | hparts
  · exact hsegments (hparts.symm.trans hsplit ▸ List.mem_append_left _ hnil)
  · -- The part after the last slash may be empty, and so it is left out on both sides.
    have hafter : Text.splitAtChar '/' after ≠ [] := by
      rw [splitAtChar_eq_splitOn]
      exact List.splitOn_ne_nil '/' after
    have hlast := congrArg List.dropLast (hparts.symm.trans hsplit)
    rw [List.dropLast_concat, List.dropLast_append_of_ne_nil hafter] at hlast
    exact hsegments (hlast ▸ List.mem_append_left _ hnil)

theorem isNormal_normalizeChars (cs : List Char) : IsNormal (normalizeChars cs) where
  no_backslash := forward_normalizeChars cs ▸ backslash_notMem_forward (normalizeChars cs)
  no_leading_slash := head?_normalizeChars cs
  no_double_slash := by
    rintro ⟨before, after, h⟩
    have hform : normalizeChars cs = (before ++ ['/']) ++ '/' :: after := by simp [← h]
    refine nil_notMem_of_normalizeChars_eq hform ?_
    rw [splitAtChar_append_mark]
    exact List.mem_append_right _ List.mem_cons_self
  no_point := by
    rw [← splitAtChar_forward, forward_normalizeChars]
    intro hpoint
    rcases mem_splitAtChar_normalizeChars hpoint with h | h
    · exact (isSegment_of_mem_segments h).ne_point rfl
    · cases h

/-- Nothing but the last part of a text is empty if no slash is the first character or follows another. -/
theorem nil_notMem_of_joined {parts : List (List Char)} {last : List Char} (hhead : (joined (parts ++ [last])).head? ≠ some '/')
    (hdouble : ¬['/', '/'] <:+: joined (parts ++ [last])) : [] ∉ parts := by
  intro hnil
  obtain ⟨before, after, rfl⟩ := List.append_of_mem hnil
  have hrest : joined ([] :: (after ++ [last])) = '/' :: joined (after ++ [last]) :=
    joined_append (List.cons_ne_nil [] []) (by simp)
  rw [List.append_assoc, List.cons_append] at hhead hdouble
  by_cases hbefore : before = []
  · rw [hbefore, List.nil_append, hrest] at hhead
    exact hhead rfl
  · rw [joined_append hbefore (List.cons_ne_nil _ _), hrest] at hdouble
    exact hdouble ⟨joined before, joined (after ++ [last]), by simp⟩

/-- A path that is written as normal forms are is its own normal form. -/
theorem normalizeChars_of_isNormal {cs : List Char} (h : IsNormal cs) : normalizeChars cs = cs := by
  have hjoined : joined (Text.splitAtChar '/' cs) = cs := by
    rw [splitAtChar_eq_splitOn]
    exact List.intercalate_splitOn '/'
  have hsegment : ∀ s ∈ Text.splitAtChar '/' cs, s ≠ [] → IsSegment s := by
    intro s hs hne
    refine ⟨hne, ?_, plain_of_mem_splitAtChar h.no_backslash hs⟩
    rintro rfl
    rw [← forward_of_notMem h.no_backslash, splitAtChar_forward] at hs
    exact h.no_point hs
  rcases List.eq_nil_or_concat (Text.splitAtChar '/' cs) with hparts | ⟨parts, last, hparts⟩
  · rw [hparts] at hjoined
    rw [← hjoined]
    rfl
  rw [List.concat_eq_append] at hparts
  rw [hparts] at hjoined hsegment
  have hempty : [] ∉ parts := nil_notMem_of_joined (hjoined.symm ▸ h.no_leading_slash) (hjoined.symm ▸ h.no_double_slash)
  have hproper : ∀ s ∈ parts, IsSegment s := fun s hs =>
    hsegment s (List.mem_append_left _ hs) fun hnil => hempty (hnil ▸ hs)
  by_cases hlast : last = []
  · subst hlast
    by_cases hne : parts = []
    · subst hne
      rw [← hjoined]
      rfl
    · rw [joined_concat_nil hne] at hjoined
      have hsegments : segments cs = parts := hjoined ▸ segments_joined_slash hproper hne
      have hends : EndsInSlash cs := ⟨'/', by simp [← hjoined], rfl⟩
      rw [normalizeChars_of_endsInSlash (hsegments ▸ hne) hends, hsegments, hjoined]
  · have hall : ∀ s ∈ parts ++ [last], IsSegment s := by
      intro s hs
      refine hsegment s hs ?_
      rcases List.mem_append.1 hs with hs | hs
      · exact (hproper s hs).ne_nil
      · exact List.mem_singleton.1 hs ▸ hlast
    have hsegments : segments cs = parts ++ [last] := hjoined ▸ segments_joined hall
    have hends : ¬EndsInSlash cs := hjoined ▸ not_endsInSlash_joined hall
    rw [normalizeChars_of_not_endsInSlash fun both => hends both.2, hsegments, hjoined]

/-- **Normal forms.** A normal form has no backslash, no slash at its start or after another one, and no point as a segment; the
paths of this kind are just those that are their own normal form, so a normal form is. Two paths have one normal form just if they
have the same proper segments between slashes of either kind and, unless there are none, a slash ends both or neither. -/
theorem normalize_canonical (p q : String) :
    IsNormal (normalize p).toList ∧ (normalize p = p ↔ IsNormal p.toList) ∧ normalize (normalize p) = normalize p ∧
      (normalize p = normalize q ↔
        steps p.toList = steps q.toList ∧ (steps p.toList = [] ∨ (EndsInSlash p.toList ↔ EndsInSlash q.toList))) := by
  have hnormal : ∀ path : String, IsNormal (normalize path).toList := by
    intro path
    rw [normalize, String.toList_ofList]
    exact isNormal_normalizeChars path.toList
  have hself : ∀ path : String, IsNormal path.toList → normalize path = path := by
    intro path h
    rw [normalize, normalizeChars_of_isNormal h, String.ofList_toList]
  refine ⟨hnormal p, ⟨fun h => h ▸ hnormal p, hself p⟩, hself _ (hnormal p), ?_⟩
  rw [normalize, normalize, String.ofList_inj, normalizeChars_eq_iff]
  simp only [segments_eq_steps]

end PageTemplates.Path
