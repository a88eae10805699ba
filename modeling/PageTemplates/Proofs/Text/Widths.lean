import Mathlib.Tactic.Common
import PageTemplates.Text.Width

/-!
# Widths that add up

A character before a text may take back a column of it or combine with its beginning, so the width of a text is not the sum of
the widths of its characters. A character takes back a column only where one is left (`width_cast`), and a character outside all
tables of characters that combine takes its own width before and after any text (`width_replicate_append`,
`width_append_replicate`).
-/

namespace PageTemplates.Text

/-! ## Ranges -/

/-- Whether no number lies in ranges of both tables. -/
def rangesDisjoint (a b : List (Nat × Nat)) : Bool :=
  a.all fun (low, high) => b.all fun (low', high') => high < low' || high' < low

theorem inRanges_eq_false_of_disjoint {a b : List (Nat × Nat)} (h : rangesDisjoint a b = true) {n : Nat}
    (hn : inRanges a n = true) : inRanges b n = false := by
  obtain ⟨⟨low, high⟩, hmem, hin⟩ := List.any_eq_true.1 hn
  refine List.any_eq_false.2 fun ⟨low', high'⟩ hmem' hin' => ?_
  have hapart := List.all_eq_true.1 (List.all_eq_true.1 h _ hmem) _ hmem'
  simp only [Bool.and_eq_true, Bool.or_eq_true, decide_eq_true_eq] at hin hin' hapart
  omega

namespace Width

variable {c : Char} {f : Following}

/-! ## Widths are not negative -/

/-- The least sum of the widths in a text that begins so: one column where a character before it may take a column back. -/
def Start.floor : Start → Int
  | .coengLetter | .tifinaghJoiner | .joinedIndicator | .joinedOddIndicators => 1
  | _ => 0

theorem Start.floor_nonneg (s : Start) : 0 ≤ s.floor := by
  unfold floor
  split <;> decide

theorem floor_select (form : Form) (f : Following) : (f.select form).start.floor ≤ f.start.floor := by
  simp only [Following.select]
  split
  · exact Int.le_refl _
  · exact f.start.floor_nonneg

theorem floor_unselect (f : Following) : f.unselect.start.floor ≤ f.start.floor := by
  simp only [Following.unselect]
  split
  · exact Int.le_refl _
  · exact f.start.floor_nonneg

/-- Of the characters that stand alone, only letters with a form below another one may lose a column. -/
theorem floor_startOf (c : Char) : (startOf c).floor = 0 ∨ (startOf c).floor = 1 ∧ inRanges coengRanges c.toNat = true := by
  fun_cases startOf c with
  | case4 _ _ _ _ hcoeng => exact Or.inr ⟨rfl, hcoeng⟩
  | _ => exact Or.inl rfl

theorem floor_alone (c : Char) : (alone c).2.start.floor ≤ (alone c).1 := by
  show (startOf c).floor ≤ (charWidth c : Int)
  rcases floor_startOf c with hfloor | ⟨hfloor, hcoeng⟩
  · rw [hfloor]
    exact Int.natCast_nonneg _
  · have hzero : inRanges zeroRanges c.toNat = false := inRanges_eq_false_of_disjoint (by decide +kernel) hcoeng
    rw [hfloor]
    fun_cases charWidth c with
    | case1 => decide
    | case2 _ hmark => exact absurd hmark (by simp [hzero])
    | case3 => decide
    | case4 => decide

/-- A character that takes a column back comes before a text that has one. -/
theorem floor_combine? {r : Int × Following} (h : combine? c f = some r) : r.2.start.floor ≤ f.start.floor + r.1 := by
  unfold combine? at h
  simp only at h
  -- Each of the many cases fixes the width and how the text begins before and after.
  repeat' split at h
  all_goals cases h
  all_goals simp_all [Start.floor]

/-- A character leaves the text that it begins what this text may lose. -/
theorem floor_step (c : Char) (f : Following) : (step c f).2.start.floor ≤ f.start.floor + (step c f).1 := by
  have hnonneg := f.start.floor_nonneg
  have hkept : (if f.form? = some .emoji then f.unselect else f).start.floor ≤ f.start.floor := by
    split
    · exact floor_unselect f
    · exact Int.le_refl _
  have hsum : f.start.floor ≤ f.start.floor + 0 := Int.le_of_eq (Int.add_zero _).symm
  fun_cases step c f with
  | case1 =>
    simp only [Start.floor]
    split <;> omega
  | case2 => exact Int.add_nonneg hnonneg (by decide)
  | case3 => exact Int.add_nonneg hnonneg (by decide)
  | case4 => exact Int.add_nonneg hnonneg (by decide)
  | case5 =>
    have := floor_alone c
    omega
  | case6 => exact Int.le_trans (floor_select _ _) (Int.le_trans hkept hsum)
  | case7 => exact Int.le_trans (floor_select _ _) (Int.le_trans hkept hsum)
  | case8 => exact Int.add_nonneg hnonneg (by decide)
  | case9 => exact Int.le_trans hkept hsum
  | case10 => exact Int.le_trans hkept hsum
  | case11 _ _ _ _ _ _ _ g =>
    cases hcombine : combine? c g with
    | none =>
      have := floor_alone c
      simp only [Option.getD_none]
      omega
    | some r =>
      have hle : g.start.floor ≤ f.start.floor := hkept
      have := floor_combine? hcombine
      simp only [Option.getD_some]
      omega

end Width

/-- The sum of the widths in a text, and what a character before it can combine with. -/
def measure (cs : List Char) : Int × Width.Following :=
  cs.foldr (fun c (sum, f) => let (w, g) := Width.step c f; (sum + w, g)) (0, {})

theorem measure_cons (c : Char) (cs : List Char) :
    measure (c :: cs) = ((measure cs).1 + (Width.step c (measure cs).2).1, (Width.step c (measure cs).2).2) := rfl

theorem width_eq (cs : List Char) : width cs = (measure cs).1.toNat := rfl

theorem floor_measure (cs : List Char) : (measure cs).2.start.floor ≤ (measure cs).1 := by
  induction cs with
  | nil => decide
  | cons c cs ih =>
    have := Width.floor_step c (measure cs).2
    rw [measure_cons]
    simp only
    omega

/-- No sum of widths is negative. -/
theorem width_cast (cs : List Char) : (width cs : Int) = (measure cs).1 := by
  have := (measure cs).2.start.floor_nonneg
  have := floor_measure cs
  rw [width_eq]
  omega

/-! ## Characters that never combine -/

namespace Width

/-- Signs and letters apart from the tables that combine with their neighbours: line breaks, joiners, selectors, keycaps, flags,
tags, and letters of some scripts. -/
def combiningSigns : List (Nat × Nat) :=
  [(0xA, 0xA), (0xD, 0xD), (0x5D0, 0x5D0), (0x5DC, 0x5DC), (0x17D2, 0x17D2), (0x1A10, 0x1A17), (0x200D, 0x200D),
   (0x20E3, 0x20E3), (0x2D7F, 0x2D7F), (0xA4F8, 0xA4FD), (0xFE0E, 0xFE0F), (0x10C03, 0x10C32), (0x16D63, 0x16D69),
   (0x1F1E6, 0x1F1FF), (0x1F3F4, 0x1F3FF), (0xE0030, 0xE007F)]

/-- The characters that combine with what stands before or after them. -/
def combiningTables : List (List (Nat × Nat)) :=
  [combiningSigns, emojiRanges, emojiFormRanges, textFormRanges, modifierBaseRanges, ignorableMarkRanges, zeroRanges, lamRanges,
   alefRanges, coengRanges, tifinaghConsonantRanges]

/-- The character is in no table of characters that combine. -/
def Solid (c : Char) : Prop :=
  ∀ table ∈ combiningTables, inRanges table c.toNat = false

instance (c : Char) : Decidable (Solid c) :=
  inferInstanceAs (Decidable (∀ table ∈ combiningTables, inRanges table c.toNat = false))

/-- The characters of a range never combine if the range is outside all tables. -/
theorem solid_of_disjoint {low high : Nat} (h : combiningTables.all (rangesDisjoint [(low, high)]) = true)
    (hlow : low ≤ c.toNat) (hhigh : c.toNat ≤ high) : Solid c := by
  intro table htable
  refine inRanges_eq_false_of_disjoint (List.all_eq_true.1 h table htable) ?_
  simp [inRanges, hlow, hhigh]

theorem Solid.startOf (h : Solid c) : startOf c = .other := by
  have hsigns := h combiningSigns (by simp [combiningTables])
  have hemoji := h emojiRanges (by simp [combiningTables])
  have halef := h alefRanges (by simp [combiningTables])
  have hcoeng := h coengRanges (by simp [combiningTables])
  have htifinagh := h tifinaghConsonantRanges (by simp [combiningTables])
  simp only [combiningSigns, inRanges, List.any_eq_false, List.forall_mem_cons, Bool.and_eq_true, decide_eq_true_eq] at hsigns
  fun_cases Width.startOf c with
  | case14 => rfl
  | _ => grind [isRegionalIndicator, isSkinTone]

theorem Solid.ne_of_sign (h : Solid c) {sign : Char} (hsign : inRanges combiningSigns sign.toNat = true) : c ≠ sign := by
  rintro rfl
  exact Bool.false_ne_true ((h combiningSigns (by simp [combiningTables])).symm.trans hsign)

theorem Solid.combine? (h : Solid c) (f : Following) : combine? c f = none := by
  have hjoiner : c ≠ joiner := h.ne_of_sign (by decide)
  have hsigns := h combiningSigns (by simp [combiningTables])
  have hemoji := h emojiRanges (by simp [combiningTables])
  have hmodifier := h modifierBaseRanges (by simp [combiningTables])
  have hzero := h zeroRanges (by simp [combiningTables])
  have hlam := h lamRanges (by simp [combiningTables])
  have htifinagh := h tifinaghConsonantRanges (by simp [combiningTables])
  simp only [combiningSigns, inRanges, List.any_eq_false, List.forall_mem_cons, Bool.and_eq_true, decide_eq_true_eq] at hsigns
  fun_cases Width.combine? c f <;> grind [isRegionalIndicator, isSkinTone, isTagLetter, isTagDigit, charWidth]

theorem Solid.alone (h : Solid c) : alone c = ((charWidth c : Int), {}) := by
  have htext : c ≠ textSelector := h.ne_of_sign (by decide)
  have hemoji : c ≠ emojiSelector := h.ne_of_sign (by decide)
  simp [Width.alone, h.startOf, htext, hemoji]

/-- Up to the no-break space, a character that never combines takes one column. -/
theorem Solid.charWidth_of_le (h : Solid c) (hle : c.toNat ≤ 0xA0) : charWidth c = 1 := by
  have hzero := h zeroRanges (by simp [combiningTables])
  have hwide : inRanges wideRanges c.toNat = false :=
    inRanges_eq_false_of_disjoint (a := [(0, 0xA0)]) (by decide +kernel) (by simp [inRanges, hle])
  have hsign : c.toNat ≠ 0x17D8 := by omega
  simp [charWidth, hsign, hzero, hwide]

/-- A character that never combines adds its own width, and what stands before it sees nothing of the text after it. -/
theorem Solid.step (h : Solid c) (f : Following) : step c f = ((charWidth c : Int), {}) := by
  have hsign (sign : Char) (hmem : inRanges combiningSigns sign.toNat = true) : c ≠ sign := h.ne_of_sign hmem
  have hform := h emojiFormRanges (by simp [combiningTables])
  have htext := h textFormRanges (by simp [combiningTables])
  have hmark := h ignorableMarkRanges (by simp [combiningTables])
  fun_cases Width.step c f with
  | case4 _ _ hle => rw [h.charWidth_of_le hle]; rfl
  | case5 => exact h.alone
  | case11 => rw [h.combine?, Option.getD_none, h.alone]
  | case1 hemoji => exact absurd hemoji (by simp [hform])
  | case2 _ _ hline => exact absurd hline (hsign '\n' (by decide))
  | case3 _ _ _ _ hreturn => exact absurd hreturn (by simp [hsign '\r' (by decide)])
  | case6 _ _ _ _ hselector => exact absurd hselector (hsign emojiSelector (by decide))
  | case7 _ _ _ _ _ hselector => exact absurd hselector (hsign textSelector (by decide))
  | case8 _ _ _ _ _ _ hasked => exact absurd hasked (by simp [htext])
  | case9 _ _ _ _ _ _ _ _ hjoined => exact absurd hjoined (by simp [hsign joiner (by decide)])
  | case10 _ _ _ _ _ _ _ _ _ hskipped => exact absurd hskipped (by simp [hmark])

/-- The unified ideographs never combine. -/
theorem solid_ideograph (hlow : 0x4E00 ≤ c.toNat) (hhigh : c.toNat ≤ 0x9FFF) : Solid c :=
  solid_of_disjoint (by decide +kernel) hlow hhigh

theorem charWidth_ideograph (hlow : 0x4E00 ≤ c.toNat) (hhigh : c.toNat ≤ 0x9FFF) : charWidth c = 2 := by
  have hsign : c.toNat ≠ 0x17D8 := by omega
  have hzero := solid_ideograph hlow hhigh zeroRanges (by simp [combiningTables])
  have hwide : inRanges wideRanges c.toNat = true := by
    refine List.any_eq_true.2 ⟨(0x3250, 0xA48C), by decide, ?_⟩
    simp only [Bool.and_eq_true, decide_eq_true_eq]
    omega
  simp [charWidth, hsign, hzero, hwide]

end Width

open Width (Solid charWidth)

theorem width_cons {c : Char} (h : Solid c) (cs : List Char) : width (c :: cs) = charWidth c + width cs := by
  have hsum : (measure (c :: cs)).1 = (measure cs).1 + (charWidth c : Int) := by rw [measure_cons, h.step]
  have hcons := width_cast (c :: cs)
  have hrest := width_cast cs
  omega

/-- A character that never combines takes its own width alone. -/
theorem width_singleton {c : Char} (h : Solid c) : width [c] = charWidth c := width_cons h []

/-- Characters that never combine keep their widths before any text. -/
theorem width_replicate_append {c : Char} (h : Solid c) (n : Nat) (cs : List Char) :
    width (List.replicate n c ++ cs) = n * charWidth c + width cs := by
  induction n with
  | zero => simp
  | succ n ih =>
    rw [List.replicate_succ, List.cons_append, width_cons h, ih, Nat.succ_mul]
    omega

/-- A text before one that combines with nothing keeps its widths. -/
theorem measure_append {ds : List Char} (h : (measure ds).2 = {}) (cs : List Char) :
    measure (cs ++ ds) = ((measure cs).1 + (measure ds).1, (measure cs).2) := by
  induction cs with
  | nil => exact Prod.ext (Int.zero_add _).symm h
  | cons c cs ih =>
    rw [List.cons_append, measure_cons, ih, measure_cons]
    exact Prod.ext (Int.add_right_comm _ _ _) rfl

theorem measure_replicate {c : Char} (h : Solid c) (n : Nat) : (measure (List.replicate n c)).2 = {} := by
  cases n with
  | zero => rfl
  | succ n => rw [List.replicate_succ, measure_cons, h.step]

/-- Characters that never combine keep their widths after any text. -/
theorem width_append_replicate {c : Char} (h : Solid c) (n : Nat) (cs : List Char) :
    width (cs ++ List.replicate n c) = n * charWidth c + width cs := by
  have hsum := congrArg Prod.fst (measure_append (measure_replicate h n) cs)
  have hfills := width_replicate_append h n []
  rw [List.append_nil, show width [] = 0 from rfl, Nat.add_zero] at hfills
  have hwhole := width_cast (cs ++ List.replicate n c)
  have htext := width_cast cs
  have hcast := width_cast (List.replicate n c)
  simp only at hsum
  omega

end PageTemplates.Text
