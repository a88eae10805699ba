import Mathlib.Tactic.Common
import PageTemplates.Text.CaseMap

/-!
# Lower case and ASCII

The rows of the case map move the capitals of ASCII to its small letters and leave its other characters where they are, and no row
leads to a capital of ASCII. Main statements: a text in lower case has no such capitals (`isUpper_of_mem_lowerAfter`), and an
ASCII text without them is its own lower case (`lowerAfter_of_ascii`).
-/

namespace PageTemplates.Text

variable {c : Char} {cs : List Char}

/-! ## One character -/

theorem isUpper_iff : c.isUpper = true ↔ 65 ≤ c.toNat ∧ c.toNat ≤ 90 := by
  have h : c.isUpper = decide (c.val ≥ 65 ∧ c.val ≤ 90) := rfl
  rw [h, decide_eq_true_eq]
  exact Iff.rfl

theorem isLower_iff : c.isLower = true ↔ 97 ≤ c.toNat ∧ c.toNat ≤ 122 := by
  have h : c.isLower = (c.val ≥ 97 && c.val ≤ 122) := rfl
  rw [h, Bool.and_eq_true, decide_eq_true_eq, decide_eq_true_eq]
  exact Iff.rfl

theorem isUpper_ofNat {n : Nat} (h : 90 < n) : (Char.ofNat n).isUpper = false := by
  rw [← Bool.not_eq_true, isUpper_iff]
  by_cases hvalid : n.isValidChar
  · have hn : (Char.ofNat n).toNat = n := by
      rw [Char.ofNat, dif_pos hvalid]
      rfl
    omega
  · have hn : (Char.ofNat n).toNat = 0 := by simp [Char.ofNat, hvalid]
    omega

/-- The capitals of ASCII move to its small letters, and no other character moves to a capital of ASCII. -/
theorem isUpper_shift (c : Char) : (shift lowerShifts c).isUpper = false := by
  have habove : ∀ row ∈ lowerShifts, 90 < (row.1 : Int) + row.2.2.2 := by decide +kernel
  rw [shift]
  split
  case h_1 low high step distance hfind =>
    have hrow := habove _ (List.mem_of_find?_eq_some hfind)
    have hlow := List.find?_some hfind
    simp only [Bool.and_eq_true, decide_eq_true_eq] at hlow hrow
    exact isUpper_ofNat (by omega)
  case h_2 hfind =>
    -- No row holds the character, and the first row holds all capitals of ASCII.
    rw [← Bool.not_eq_true, isUpper_iff]
    intro hcapital
    have hfirst := List.find?_eq_none.1 hfind (0x41, 0x5A, 1, 32) List.mem_cons_self
    simp [hcapital, Nat.mod_one] at hfirst

/-- The characters below the first accented capital stay as they are, but for the capitals of ASCII. -/
theorem shift_of_small (hsmall : c.toNat < 0xC0) (hcapital : c.isUpper = false) : shift lowerShifts c = c := by
  have hrows : ∀ row ∈ lowerShifts, row.1 = 65 ∧ row.2.1 = 90 ∨ 0xC0 ≤ row.1 := by decide +kernel
  rw [← Bool.not_eq_true, isUpper_iff] at hcapital
  rw [shift]
  split
  case h_1 low high step distance hfind =>
    have hbounds := hrows _ (List.mem_of_find?_eq_some hfind)
    have hrow := List.find?_some hfind
    simp only [Bool.and_eq_true, decide_eq_true_eq] at hbounds hrow
    omega
  case h_2 => rfl

/-! ## Texts -/

/-- The lower case of a text has no capitals of ASCII. -/
theorem isUpper_of_mem_lowerAfter {before : List Char} (h : c ∈ lowerAfter before cs) : c.isUpper = false := by
  induction cs generalizing before with
  | nil => cases h
  | cons d cs ih =>
    rw [lowerAfter] at h
    rcases List.mem_append.1 h with h | h
    · split at h
      · split at h
        · obtain rfl := List.mem_singleton.1 h
          decide
        · obtain rfl := List.mem_singleton.1 h
          decide
      · rw [lowerChar] at h
        split at h
        · rcases List.mem_cons.1 h with rfl | h
          · decide
          · obtain rfl := List.mem_singleton.1 h
            decide
        · obtain rfl := List.mem_singleton.1 h
          exact isUpper_shift d
    · exact ih h

/-- ASCII text without capitals is its own lower case. -/
theorem lowerAfter_of_ascii {before : List Char} (hascii : ∀ c ∈ cs, c.toNat < 128) (hcapital : ∀ c ∈ cs, c.isUpper = false) :
    lowerAfter before cs = cs := by
  induction cs generalizing before with
  | nil => rfl
  | cons c cs ih =>
    obtain ⟨hc, hcs⟩ := List.forall_mem_cons.1 hascii
    obtain ⟨hlow, hlows⟩ := List.forall_mem_cons.1 hcapital
    have hsigma : c ≠ 'Σ' := by
      rintro rfl
      exact absurd hc (by decide)
    have hdotted : c ≠ 'İ' := by
      rintro rfl
      exact absurd hc (by decide)
    rw [lowerAfter, if_neg hsigma, lowerChar, if_neg hdotted, shift_of_small (by omega) hlow, ih hcs hlows,
      List.singleton_append]

end PageTemplates.Text
