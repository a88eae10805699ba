import Mathlib
import PageTemplates.Filters.Arithmetic
import PageTemplates.Filters.Logic

/-!
# The floats nearest to integers

Division checks its divisor as a float, and integers of different values are compared as floats. The float of an integer is the
integer rounded to its first 53 binary digits, a tie going to the even neighbour (`Decimal.nearestInt`). It is found by rounding a
mantissa and an exponent and packing them into bits, with other steps for small and for large integers; `Decimal.Holds` says what
integer there is after each step. Main statements: of the integers, zero alone counts as zero (`Arithmetic.isZero_int`), and
integers are equal for the filter `equals` exactly when they are rounded to the same integer, so that one of at most 53 digits is
equal to no other (`Logic.equals_int`).
-/

namespace PageTemplates.Decimal

open Float.Model Float.Model.UnpackedFloat

/-! ## Rounding to 53 digits -/

/-- The whole number nearest to `m / 2 ^ k`, the even one of two that are equally near. -/
def roundShift (m k : Nat) : Nat :=
  if 2 * (m % 2 ^ k) < 2 ^ k then m / 2 ^ k
  else if 2 * (m % 2 ^ k) = 2 ^ k then m / 2 ^ k + m / 2 ^ k % 2
  else m / 2 ^ k + 1

/-- A number rounded to its first 53 binary digits. -/
def nearestNat (n : Nat) : Nat :=
  roundShift n (n.log2 - 52) * 2 ^ (n.log2 - 52)

/-- An integer rounded to its first 53 binary digits. -/
def nearestInt (n : Int) : Int :=
  if n < 0 then -(nearestNat n.natAbs : Int) else nearestNat n.natAbs

theorem roundShift_bounds (m k : Nat) : m / 2 ^ k ≤ roundShift m k ∧ roundShift m k ≤ m / 2 ^ k + 1 := by
  unfold roundShift
  split
  · omega
  · split <;> omega

theorem roundShift_zero (m : Nat) : roundShift m 0 = m := by
  simp [roundShift, Nat.mod_one]

/-- Zeros at the end of a number do not change how the digits before them are rounded. -/
theorem roundShift_mul_two_pow (m k j : Nat) : roundShift (m * 2 ^ j) (k + j) = roundShift m k := by
  have hdiv : m * 2 ^ j / 2 ^ (k + j) = m / 2 ^ k := by
    rw [Nat.pow_add, Nat.mul_div_mul_right _ _ (Nat.two_pow_pos j)]
  have hmod : m * 2 ^ j % 2 ^ (k + j) = m % 2 ^ k * 2 ^ j := by
    rw [Nat.pow_add, Nat.mul_mod_mul_right]
  have hlt : 2 * (m % 2 ^ k * 2 ^ j) < 2 ^ k * 2 ^ j ↔ 2 * (m % 2 ^ k) < 2 ^ k := by
    rw [← Nat.mul_assoc, Nat.mul_lt_mul_right (Nat.two_pow_pos j)]
  have heq : 2 * (m % 2 ^ k * 2 ^ j) = 2 ^ k * 2 ^ j ↔ 2 * (m % 2 ^ k) = 2 ^ k := by
    rw [← Nat.mul_assoc, Nat.mul_left_inj (Nat.ne_of_gt (Nat.two_pow_pos j))]
  rw [roundShift, roundShift, hdiv, hmod, Nat.pow_add]
  simp only [hlt, heq]

/-- Nothing is rounded when only zeros are dropped. -/
theorem roundShift_of_zeros (m i k : Nat) : roundShift (m * 2 ^ (i + k)) k = m * 2 ^ i := by
  have h := roundShift_mul_two_pow (m * 2 ^ i) 0 k
  rwa [roundShift_zero, Nat.zero_add, Nat.mul_assoc, ← Nat.pow_add] at h

theorem log2_le {n k : Nat} (h : n < 2 ^ (k + 1)) : n.log2 ≤ k := by
  by_cases hn : n = 0
  · simp [hn]
  · exact Nat.le_of_lt_succ ((Nat.log2_lt hn).2 h)

theorem nearestNat_of_lt {n : Nat} (h : n < 2 ^ 53) : nearestNat n = n := by
  rw [nearestNat, Nat.sub_eq_zero_of_le (log2_le h), roundShift_zero, Nat.pow_zero, Nat.mul_one]

/-- A number with more digits is not rounded to one with fewer. -/
theorem le_nearestNat {n : Nat} (h : 2 ^ 53 ≤ n) : 2 ^ 53 ≤ nearestNat n := by
  have hn : n ≠ 0 := by omega
  have hlog : 53 ≤ n.log2 := (Nat.le_log2 hn).2 h
  have hfirst : 2 ^ 52 ≤ n / 2 ^ (n.log2 - 52) := by
    rw [Nat.le_div_iff_mul_le (Nat.two_pow_pos _), ← Nat.pow_add, Nat.add_sub_cancel' (by omega)]
    exact Nat.log2_self_le hn
  calc 2 ^ 53 = 2 ^ 52 * 2 ^ 1 := by decide
    _ ≤ roundShift n (n.log2 - 52) * 2 ^ (n.log2 - 52) :=
      Nat.mul_le_mul (Nat.le_trans hfirst (roundShift_bounds _ _).1) (Nat.pow_le_pow_right (by decide) (by omega))

theorem nearestInt_of_lt {n : Int} (h : n.natAbs < 2 ^ 53) : nearestInt n = n := by
  rw [nearestInt, nearestNat_of_lt h]
  split <;> omega

/-- An integer of at most 53 digits is rounded from no other integer. -/
theorem nearestInt_eq_iff_of_lt {a b : Int} (h : a.natAbs < 2 ^ 53) : nearestInt a = nearestInt b ↔ a = b := by
  refine ⟨fun heq => ?_, fun heq => by rw [heq]⟩
  by_cases hb : b.natAbs < 2 ^ 53
  · rwa [nearestInt_of_lt h, nearestInt_of_lt hb] at heq
  · have hle := le_nearestNat (Nat.le_of_not_lt hb)
    rw [nearestInt_of_lt h, nearestInt] at heq
    split at heq <;> omega

/-! ## The format of floats -/

theorem exponentBias_binary64 : Format.binary64.exponentBias = 1023 := by
  decide

theorem mantissaBits_binary64 : Format.binary64.mantissaBits = 53 := by
  decide

/-- The exponent for a mantissa of 53 bits, or the least one. -/
theorem targetExponent_binary64 (t : Int) : Format.binary64.targetExponent t = max (t - 53) (-1074) := rfl

/-- The mantissa and the exponent of one. -/
theorem unpack_one :
    Float.exactlyRepresentablePowersOfTen[0].toModel.unpack = .finite .positive (2 ^ 52) (-52) (Nat.two_pow_pos 52) := rfl

/-! ## The digits that are shifted out -/

/-- After a shift by `k`, one bit tells whether what was shifted out is at least a half, and one whether there is more than the
half or than nothing. -/
theorem shiftRight_exact (m k : Nat) :
    ExtendedMantissa.ofMantissaAndAccuracy m .exact >>> k =
      { mantissa := m / 2 ^ k, roundBit := decide (2 ^ k ≤ 2 * (m % 2 ^ k)),
        stickyBit := decide (2 * (m % 2 ^ k) % 2 ^ k ≠ 0) } := by
  show k.repeat ExtendedMantissa.shiftRightOne _ = _
  induction k with
  | zero => simp [Nat.repeat, ExtendedMantissa.ofMantissaAndAccuracy, Nat.mod_one]
  | succ k ih =>
    have hlt : m % 2 ^ k < 2 ^ k := Nat.mod_lt _ (Nat.two_pow_pos k)
    have hmod : m % 2 ^ (k + 1) = m % 2 ^ k + 2 ^ k * (m / 2 ^ k % 2) := by
      rw [Nat.pow_succ, Nat.mod_mul]
    have hbit : m / 2 ^ k % 2 = 0 ∨ m / 2 ^ k % 2 = 1 := Nat.mod_two_eq_zero_or_one _
    -- Nothing was shifted out before exactly when both bits are clear.
    have hrest : (2 ^ k ≤ 2 * (m % 2 ^ k) ∨ 2 * (m % 2 ^ k) % 2 ^ k ≠ 0) ↔ m % 2 ^ k ≠ 0 := by
      by_cases hhalf : 2 ^ k ≤ 2 * (m % 2 ^ k)
      · have : 0 < 2 ^ k := Nat.two_pow_pos k
        simp only [hhalf, true_or, true_iff]
        omega
      · rw [Nat.mod_eq_of_lt (Nat.lt_of_not_le hhalf)]
        omega
    have hsticky : 2 * (m % 2 ^ (k + 1)) % 2 ^ (k + 1) = 2 * (m % 2 ^ k) := by
      rw [hmod, Nat.pow_succ, Nat.mul_comm (2 ^ k) 2, Nat.mul_mod_mul_left, Nat.add_mul_mod_self_left, Nat.mod_mod]
    rw [Nat.repeat, ih]
    simp only [ExtendedMantissa.shiftRightOne, ExtendedMantissa.mk.injEq]
    refine ⟨by rw [Nat.div_div_eq_div_mul, Nat.pow_succ], ?_, ?_⟩
    · rw [hmod, Nat.pow_succ, Bool.eq_iff_iff, bne_iff_ne, decide_eq_true_iff]
      rcases hbit with hbit | hbit <;> rw [hbit] <;> omega
    · rw [hsticky, Bool.eq_iff_iff, Bool.or_eq_true, decide_eq_true_iff, decide_eq_true_iff, decide_eq_true_iff, hrest]
      omega

theorem mantissa_shiftRight (m k : Nat) : (ExtendedMantissa.ofMantissaAndAccuracy m .exact >>> k).mantissa = m / 2 ^ k := by
  rw [shiftRight_exact]

theorem roundedMantissa_mk (m : Nat) (roundBit stickyBit : Bool) :
    (ExtendedMantissa.mk m roundBit stickyBit).roundedMantissa =
      if roundBit then (if stickyBit then m + 1 else m + m % 2) else m := by
  cases roundBit <;> cases stickyBit <;> rfl

/-- The digits that are left are rounded by those that were shifted out. -/
theorem roundedMantissa_shiftRight (m k : Nat) :
    (ExtendedMantissa.ofMantissaAndAccuracy m .exact >>> k).roundedMantissa = roundShift m k := by
  rw [shiftRight_exact, roundedMantissa_mk, roundShift]
  by_cases hhalf : 2 ^ k ≤ 2 * (m % 2 ^ k)
  · rw [if_neg (Nat.not_lt_of_le hhalf), decide_eq_true hhalf, if_pos rfl]
    by_cases htie : 2 * (m % 2 ^ k) = 2 ^ k
    · rw [if_pos htie, htie, Nat.mod_self, decide_eq_false (not_not_intro rfl), if_neg Bool.false_ne_true]
    · have hlt : m % 2 ^ k < 2 ^ k := Nat.mod_lt _ (Nat.two_pow_pos k)
      have hmore : 2 * (m % 2 ^ k) % 2 ^ k ≠ 0 := by
        rw [Nat.mod_eq_sub_mod hhalf, Nat.mod_eq_of_lt (by omega)]
        omega
      rw [if_neg htie, decide_eq_true hmore, if_pos rfl]
  · rw [if_pos (Nat.lt_of_not_le hhalf), decide_eq_false hhalf, if_neg Bool.false_ne_true]

/-! ## Floats that are integers -/

/-- The unpacked float is an integer. A mantissa has 53 digits, and its exponent tells how many of them stand before the point. -/
inductive Holds : UnpackedFloat → Int → Prop
  | zero (s : Sign) : Holds (.zero s) 0
  | finite (s : Sign) {m : Nat} {e : Int} {n : Nat} (hm : 0 < m) (hle : 2 ^ 52 ≤ m) (hlt : m < 2 ^ 53) (hlow : -52 ≤ e)
      (hhigh : e ≤ 971) (hvalue : m * 2 ^ (e + 52).toNat = n * 2 ^ 52) : Holds (.finite s m e hm) (s.apply n)

/-- Mantissas of 53 digits name a number in one way. -/
theorem exponent_unique {m m' k k' : Nat} (hle : 2 ^ 52 ≤ m) (hlt : m < 2 ^ 53) (hle' : 2 ^ 52 ≤ m') (hlt' : m' < 2 ^ 53)
    (h : m * 2 ^ k = m' * 2 ^ k') : k = k' ∧ m = m' := by
  have hnot : ∀ {m m' k k' : Nat}, m < 2 ^ 53 → 2 ^ 52 ≤ m' → m * 2 ^ k = m' * 2 ^ k' → ¬k < k' := by
    intro m m' k k' hlt hle' h hk
    have hpow : 2 ^ (k + 1) ≤ 2 ^ k' := Nat.pow_le_pow_right (by decide) hk
    have : m * 2 ^ k < m' * 2 ^ k' := by
      calc m * 2 ^ k < 2 ^ 53 * 2 ^ k := Nat.mul_lt_mul_of_pos_right hlt (Nat.two_pow_pos k)
        _ = 2 ^ 52 * 2 ^ (k + 1) := by rw [← Nat.pow_add, ← Nat.pow_add]; congr 1; omega
        _ ≤ m' * 2 ^ k' := Nat.mul_le_mul hle' hpow
    omega
  have hk : k = k' := Nat.le_antisymm (Nat.le_of_not_lt (hnot hlt' hle h.symm)) (Nat.le_of_not_lt (hnot hlt hle' h))
  subst hk
  exact ⟨rfl, Nat.eq_of_mul_eq_mul_right (Nat.two_pow_pos k) h⟩

theorem compare_then_eq_iff (e e' : Int) (m m' : Nat) :
    (compare e e').then (compare m m') = .eq ↔ e = e' ∧ m = m' := by
  rw [Ordering.then_eq_eq, Int.compare_eq_eq, Nat.compare_eq_eq]

/-- What a float of 53 digits holds is not zero. -/
theorem pos_of_value {m k n : Nat} (hm : 0 < m) (h : m * 2 ^ k = n * 2 ^ 52) : 0 < n := by
  refine Nat.pos_of_ne_zero fun hn => ?_
  have : 0 < m * 2 ^ k := Nat.mul_pos hm (Nat.two_pow_pos k)
  rw [h, hn] at this
  omega

theorem apply_ne_zero (s : Sign) {n : Nat} (hn : 0 < n) : s.apply n ≠ 0 := by
  cases s <;> simp only [Sign.apply] <;> omega

/-- Floats that are integers compare as these do. -/
theorem Holds.beq_iff {f g : UnpackedFloat} {a b : Int} (hf : Holds f a) (hg : Holds g b) : f.beq g = true ↔ a = b := by
  cases hf with
  | zero s =>
    cases hg with
    | zero s' => exact ⟨fun _ => rfl, fun _ => rfl⟩
    | finite s' hm' hle' hlt' hlow' hhigh' hvalue' =>
      refine iff_of_false ?_ (apply_ne_zero s' (pos_of_value hm' hvalue')).symm
      cases s' <;> exact Bool.false_ne_true
  | @finite s m e n hm hle hlt hlow hhigh hvalue =>
    have hn := pos_of_value hm hvalue
    cases hg with
    | zero s' =>
      refine iff_of_false ?_ (apply_ne_zero s hn)
      cases s <;> exact Bool.false_ne_true
    | @finite s' m' e' n' hm' hle' hlt' hlow' hhigh' hvalue' =>
      have hn' := pos_of_value hm' hvalue'
      have hsame : e = e' ∧ m = m' ↔ n = n' := by
        constructor
        · rintro ⟨rfl, rfl⟩
          exact Nat.eq_of_mul_eq_mul_right (Nat.two_pow_pos 52) (hvalue.symm.trans hvalue')
        · rintro rfl
          obtain ⟨hk, rfl⟩ := exponent_unique hle hlt hle' hlt' (hvalue.trans hvalue'.symm)
          exact ⟨by omega, rfl⟩
      cases s with
      | positive =>
        cases s' with
        | positive =>
          show (some ((compare e e').then (compare m m')) == some .eq) = true ↔ (n : Int) = n'
          rw [beq_iff_eq, Option.some_inj, compare_then_eq_iff, hsame, Int.natCast_inj]
        | negative => exact iff_of_false Bool.false_ne_true (by simp only [Sign.apply]; omega)
      | negative =>
        cases s' with
        | positive => exact iff_of_false Bool.false_ne_true (by simp only [Sign.apply]; omega)
        | negative =>
          show (some ((compare e e').then (compare m m')).swap == some .eq) = true ↔ -(n : Int) = -n'
          rw [beq_iff_eq, Option.some_inj, Ordering.swap_eq_eq, compare_then_eq_iff, hsame, Int.neg_inj, Int.natCast_inj]

theorem Holds.neg {f : UnpackedFloat} {n : Int} (h : Holds f n) : Holds f.neg (-n) := by
  cases h with
  | zero s => exact .zero (-s)
  | finite s hm hle hlt hlow hhigh hvalue =>
    have happly : ∀ n : Nat, -s.apply n = (-s).apply n := by
      intro n
      cases s with
      | positive => rfl
      | negative => exact Int.neg_neg _
    rw [happly]
    exact .finite (-s) hm hle hlt hlow hhigh hvalue

/-! ## Packing -/

theorem log2_eq_52 {m : Nat} (hle : 2 ^ 52 ≤ m) (hlt : m < 2 ^ 53) : m.log2 = 52 :=
  Nat.le_antisymm (log2_le hlt) ((Nat.le_log2 (by omega)).2 hle)

theorem ofBitVec_unpackSign (s : Sign) (e : BitVec 11) (m : BitVec 52) :
    Sign.ofBitVec (unpackSign (packComponents Format.binary64 s e m)) = s := by
  simp only [unpackSign, packComponents, BitVec.extractLsb]
  rw [BitVec.extractLsb'_append_eq_of_le (by decide), BitVec.extractLsb'_append_eq_of_le (by decide)]
  cases s <;> rfl

/-- A float that is an integer is the same after it is packed into bits and unpacked again. -/
theorem Holds.unpack_pack {f : UnpackedFloat} {n : Int} (h : Holds f n) :
    UnpackedFloat.unpack Format.binary64 (UnpackedFloat.pack Format.binary64 f) = f := by
  cases h with
  | zero s => cases s <;> rfl
  | @finite s m e n hm hle hlt hlow hhigh hvalue =>
    have hfield : (e + Format.binary64.exponentBias + Format.binary64.mantissaBitsWithoutImplicit).toNat =
        (e + 1075).toNat := by
      rw [exponentBias_binary64]
      show (e + (1023 : Nat) + (52 : Nat)).toNat = _
      omega
    have hexponent : (BitVec.ofNat 11 (e + 1075).toNat).toNat = (e + 1075).toNat := by
      rw [BitVec.toNat_ofNat]
      omega
    have hmantissa : (1#1 ++ BitVec.ofNat 52 m).toNat = m := by
      rw [BitVec.toNat_append, ← Nat.shiftLeft_add_eq_or_of_lt (BitVec.ofNat 52 m).isLt, BitVec.toNat_ofNat]
      show 1 * 2 ^ 52 + m % 2 ^ 52 = m
      omega
    have hnan : BitVec.ofNat 11 (e + 1075).toNat ≠ -1#11 := by
      intro heq
      rw [heq] at hexponent
      simp at hexponent
      omega
    have hsub : BitVec.ofNat 11 (e + 1075).toNat ≠ 0#11 := by
      intro heq
      rw [heq] at hexponent
      simp at hexponent
      omega
    have hsmall : ¬2 ^ 11 ≤ (e + 1075).toNat + 1 := by omega
    rw [UnpackedFloat.pack]
    simp only [hfield, log2_eq_52 hle hlt, mantissaBits_binary64, if_neg hsmall, if_true]
    rw [UnpackedFloat.unpack]
    simp only [unpackMantissa_packComponents, unpackExponent_packComponents, ofBitVec_unpackSign, if_neg hnan, if_neg hsub,
      hmantissa, hexponent, exponentBias_binary64, UnpackedFloat.finite.injEq, true_and]
    omega

/-! ## Rounding -/

theorem log2_mul_two_pow {n : Nat} (hn : 0 < n) (j : Nat) : (n * 2 ^ j).log2 = n.log2 + j := by
  have hne : n ≠ 0 := Nat.ne_of_gt hn
  have hne' : n * 2 ^ j ≠ 0 := Nat.ne_of_gt (Nat.mul_pos hn (Nat.two_pow_pos j))
  refine Nat.le_antisymm (Nat.le_of_lt_succ ((Nat.log2_lt hne').2 ?_)) ((Nat.le_log2 hne').2 ?_)
  · rw [Nat.succ_eq_add_one, Nat.add_right_comm, Nat.pow_add]
    exact Nat.mul_lt_mul_of_pos_right Nat.lt_log2_self (Nat.two_pow_pos j)
  · rw [Nat.pow_add]
    exact Nat.mul_le_mul_right _ (Nat.log2_self_le hne)

/-- The digits of a number that are left when all but the first 53 are rounded, with zeros at the end of the number. -/
theorem roundShift_digits (n j : Nat) (hj : 52 ≤ j + n.log2) :
    roundShift (n * 2 ^ j) (j + n.log2 - 52) * 2 ^ n.log2 = nearestNat n * 2 ^ 52 := by
  by_cases hlog : n.log2 ≤ 52
  · obtain ⟨i, hi⟩ : ∃ i, j = i + (j + n.log2 - 52) := ⟨52 - n.log2, by omega⟩
    have hround : roundShift (n * 2 ^ j) (j + n.log2 - 52) = n * 2 ^ i := by
      conv_lhs => rw [hi]
      rw [show i + (j + n.log2 - 52) + n.log2 - 52 = j + n.log2 - 52 by omega, roundShift_of_zeros]
    rw [hround, nearestNat, Nat.sub_eq_zero_of_le hlog, roundShift_zero, Nat.pow_zero, Nat.mul_one, Nat.mul_assoc,
      ← Nat.pow_add]
    congr 2
    omega
  · have hshift : j + n.log2 - 52 = (n.log2 - 52) + j := by omega
    rw [hshift, roundShift_mul_two_pow, nearestNat, Nat.mul_assoc, ← Nat.pow_add]
    congr 2
    omega

/-- A number with zeros behind its digits, at the exponent that takes these back, is rounded to the nearest float. -/
theorem holds_roundWithAccuracy (s : Sign) {n j : Nat} (hn : 0 < n) (hj : 52 ≤ j + n.log2) (hhigh : n.log2 ≤ 900) :
    Holds (roundWithAccuracy Format.binary64 s (n * 2 ^ j) (-j) .exact) (s.apply (nearestNat n)) := by
  have htarget : Format.binary64.targetExponent (totalExponent (n * 2 ^ j) (-j)) = (n.log2 : Int) - 52 := by
    rw [targetExponent_binary64, totalExponent, log2_mul_two_pow hn]
    omega
  have hshift : ((n.log2 : Int) - 52 - -j).toNat = j + n.log2 - 52 := by omega
  have hexponent : (-j : Int) + (j + n.log2 - 52 : Nat) = (n.log2 : Int) - 52 := by omega
  have hdigits := roundShift_digits n j hj
  have hfirst : 2 ^ 52 ≤ n * 2 ^ j / 2 ^ (j + n.log2 - 52) ∧ n * 2 ^ j / 2 ^ (j + n.log2 - 52) < 2 ^ 53 := by
    have hpos : n * 2 ^ j ≠ 0 := Nat.ne_of_gt (Nat.mul_pos hn (Nat.two_pow_pos j))
    have hlog := log2_mul_two_pow hn j
    constructor
    · rw [Nat.le_div_iff_mul_le (Nat.two_pow_pos _), ← Nat.pow_add]
      exact (Nat.le_log2 hpos).1 (by omega)
    · rw [Nat.div_lt_iff_lt_mul (Nat.two_pow_pos _), ← Nat.pow_add]
      exact (Nat.log2_lt hpos).1 (by omega)
  obtain ⟨hlow, hup⟩ := roundShift_bounds (n * 2 ^ j) (j + n.log2 - 52)
  generalize hr : roundShift (n * 2 ^ j) (j + n.log2 - 52) = r at hdigits hlow hup
  unfold roundWithAccuracy shiftToTargetExponent shiftToExponent
  simp only [htarget, hshift, hexponent, roundedMantissa_shiftRight, hr, mantissa_shiftRight]
  by_cases hcarry : r < 2 ^ 53
  · have hstay : Format.binary64.targetExponent (totalExponent r ((n.log2 : Int) - 52)) - ((n.log2 : Int) - 52) = 0 := by
      rw [targetExponent_binary64, totalExponent, log2_eq_52 (by omega) hcarry]
      omega
    simp only [hstay, Int.toNat_zero, Nat.pow_zero, Nat.div_one, dif_neg (by omega : ¬r = 0)]
    refine .finite s _ (by omega) hcarry (by omega) (by omega) ?_
    rwa [show ((n.log2 : Int) - 52 + (0 : Nat) + 52).toNat = n.log2 by omega]
  · -- Rounding up made one digit more, which is a zero.
    obtain rfl : r = 2 ^ 53 := by omega
    have hstep : Format.binary64.targetExponent (totalExponent (2 ^ 53) ((n.log2 : Int) - 52)) - ((n.log2 : Int) - 52) = 1 := by
      rw [targetExponent_binary64, totalExponent, Nat.log2_two_pow]
      omega
    simp only [hstep]
    refine .finite s _ (by decide) (by decide) (by omega) (by omega) ?_
    rw [show ((n.log2 : Int) - 52 + ((1 : Int).toNat : Nat) + 52).toNat = 1 + n.log2 by omega, Nat.pow_add, ← Nat.mul_assoc]
    exact hdigits

/-! ## The float of an integer -/

theorem holds_round (s : Sign) {n : Nat} (hn : 0 < n) (hhigh : n.log2 ≤ 900) :
    Holds (UnpackedFloat.round Format.binary64 s n 0) (s.apply (nearestNat n)) := by
  have htarget : Format.binary64.targetExponent (totalExponent n 0) = (n.log2 : Int) - 52 := by
    rw [targetExponent_binary64, totalExponent]
    omega
  unfold UnpackedFloat.round decreaseExponent
  simp only [htarget, Nat.shiftLeft_eq, Int.zero_sub]
  exact holds_roundWithAccuracy s hn (by omega) hhigh

theorem holds_ofNat {n : Nat} (hhigh : n.log2 ≤ 900) : Holds (UnpackedFloat.ofNat Format.binary64 n) (nearestNat n) := by
  by_cases hn : n = 0
  · subst hn
    exact .zero .positive
  · have hpos : 0 < n := Nat.pos_of_ne_zero hn
    have hcompare : compare (n : Int) 0 = .gt := Int.compare_eq_gt.2 (by omega)
    unfold UnpackedFloat.ofNat UnpackedFloat.ofInt UnpackedFloat.normalize
    rw [hcompare]
    exact holds_round .positive hpos hhigh

/-- A product with one is the same integer, if this has at most 53 digits. -/
theorem Holds.mul_one {f : UnpackedFloat} {n : Nat} (h : Holds f n) (hlt : n < 2 ^ 53) :
    Holds (UnpackedFloat.mul Format.binary64 f (.finite .positive (2 ^ 52) (-52) (Nat.two_pow_pos 52))) n := by
  generalize hint : (n : Int) = i at h
  cases h with
  | zero s => exact .zero _
  | @finite s m e k hm hle hmlt hlow hhigh hvalue =>
    have hk := pos_of_value hm hvalue
    obtain rfl : s = .positive := by
      cases s with
      | positive => rfl
      | negative => simp only [Sign.apply] at hint; omega
    obtain rfl : n = k := Int.natCast_inj.1 hint
    -- No digit of such an integer stands behind the mantissa.
    have he : e ≤ 0 := by
      by_contra hpos
      have hpow : 2 ^ 53 ≤ 2 ^ (e + 52).toNat := Nat.pow_le_pow_right (by decide) (by omega)
      have hmany : 2 ^ 52 * 2 ^ 53 ≤ m * 2 ^ (e + 52).toNat := Nat.mul_le_mul hle hpow
      rw [hvalue, Nat.mul_comm] at hmany
      omega
    obtain ⟨j, rfl⟩ : ∃ j : Nat, e = -(j : Int) := ⟨e.natAbs, by omega⟩
    have hj : j ≤ 52 := by omega
    have hmantissa : m = n * 2 ^ j := by
      refine Nat.eq_of_mul_eq_mul_right (Nat.two_pow_pos (52 - j)) ?_
      rw [show 52 - j = (-(j : Int) + 52).toNat by omega, hvalue, Nat.mul_assoc, ← Nat.pow_add]
      congr 2
      omega
    have hproduct := holds_roundWithAccuracy .positive (j := j + 52) hk (by omega) (Nat.le_trans (log2_le hlt) (by decide))
    rw [nearestNat_of_lt hlt, Nat.pow_add, ← Nat.mul_assoc, ← hmantissa, Int.natCast_add, Int.neg_add] at hproduct
    exact hproduct

theorem holds_ofScientific {n : Nat} (hn : 0 < n) (hhigh : n.log2 ≤ 900) :
    Holds (UnpackedFloat.ofScientific Format.binary64 n 0) (nearestNat n) := by
  have hlarge : ¬(0 : Int) > 2 ^ Format.binary64.exponentBits := by
    decide
  have hsmall : ¬(0 : Int) < -(2 ^ Format.binary64.exponentBits + n.log2) := by
    have : (0 : Int) < 2 ^ Format.binary64.exponentBits := by decide
    omega
  unfold UnpackedFloat.ofScientific
  rw [dif_neg (Nat.ne_of_gt hn), if_neg hlarge, if_neg hsmall, if_pos (Int.le_refl 0)]
  have hproduct := holds_roundWithAccuracy .positive (j := 53) hn (by omega) hhigh
  rwa [← Nat.shiftLeft_eq, ← Nat.mul_one (n <<< 53)] at hproduct

theorem holds_mul_one {x : Float} {n : Nat} (h : Holds x.toModel.unpack n) (hlt : n < 2 ^ 53) :
    Holds (x * Float.exactlyRepresentablePowersOfTen[0]).toModel.unpack n := by
  have hproduct : Holds (UnpackedFloat.mul Format.binary64 x.toModel.unpack
      Float.exactlyRepresentablePowersOfTen[0].toModel.unpack) n := by
    rw [unpack_one]
    exact h.mul_one hlt
  show Holds (UnpackedFloat.unpack _ (UnpackedFloat.pack _ _)) _
  rwa [hproduct.unpack_pack]

theorem holds_toFloat {n : UInt64} (hlt : n.toNat < 2 ^ 53) : Holds n.toFloat.toModel.unpack n.toNat := by
  have h := holds_ofNat (n := n.toNat) (Nat.le_trans (log2_le hlt) (by decide))
  rw [nearestNat_of_lt hlt] at h
  show Holds (UnpackedFloat.unpack _ (UnpackedFloat.pack _ (UnpackedFloat.ofNat Format.binary64 n.toNat))) _
  rwa [h.unpack_pack]

/-- The float of a natural number is the nearest one. Up to 53 digits it is converted and multiplied by one, a larger number is
rounded in one step. -/
theorem holds_floatOfNat {n : Nat} (hhigh : n.log2 ≤ 900) : Holds (Float.ofNat n).toModel.unpack (nearestNat n) := by
  show Holds (Float.ofScientific n false 0).toModel.unpack _
  unfold Float.ofScientific
  split
  · rename_i h
    have hn64 : n.toUInt64.toNat = n := by
      rw [UInt64.toNat_ofNat']
      omega
    have hfloat := holds_toFloat (n := n.toUInt64) (by rw [hn64]; exact h.1)
    rw [hn64] at hfloat
    rw [nearestNat_of_lt h.1]
    exact holds_mul_one hfloat h.1
  · have h := holds_ofScientific (n := n) (by omega) hhigh
    show Holds (UnpackedFloat.unpack _ (UnpackedFloat.pack _ (UnpackedFloat.ofScientific Format.binary64 n 0))) _
    rwa [h.unpack_pack]

/-- The float of an integer is the nearest one. -/
theorem holds_floatOfInt {n : Int} (hhigh : n.natAbs.log2 ≤ 900) : Holds (Float.ofInt n).toModel.unpack (nearestInt n) := by
  cases n with
  | ofNat n =>
    have hnonneg : ¬Int.ofNat n < 0 := Int.not_lt.2 (Int.natCast_nonneg n)
    rw [nearestInt, if_neg hnonneg]
    exact holds_floatOfNat hhigh
  | negSucc n =>
    rw [nearestInt, if_pos (Int.negSucc_lt_zero n)]
    have h := (holds_floatOfNat (n := n + 1) hhigh).neg
    show Holds (UnpackedFloat.unpack _ (UnpackedFloat.pack _ (Float.ofNat (n + 1)).toModel.unpack.neg)) _
    rwa [h.unpack_pack]

/-- Integers have equal floats exactly when they are rounded to the same integer. -/
theorem floatOfInt64_beq_iff (a b : Int64) :
    (floatOfInt64 a == floatOfInt64 b) = true ↔ nearestInt a.toInt = nearestInt b.toInt := by
  have hlog : ∀ n : Int64, n.toInt.natAbs.log2 ≤ 900 := by
    intro n
    have hle := n.le_toInt
    have hlt := n.toInt_lt
    exact Nat.le_trans (log2_le (k := 63) (by omega)) (by decide)
  exact (holds_floatOfInt (hlog a)).beq_iff (holds_floatOfInt (hlog b))

end PageTemplates.Decimal

namespace PageTemplates.Arithmetic

open Decimal

/-- Of the integers, zero alone counts as zero. -/
theorem isZero_int (n : Int64) : isZero (.int n) = decide (n = 0) := by
  have hzero : (floatOfInt64 n == floatOfInt64 0) = true ↔ n = 0 := by
    rw [floatOfInt64_beq_iff, eq_comm, nearestInt_eq_iff_of_lt (by decide), Int64.toInt_inj, eq_comm]
  rw [Bool.eq_iff_iff, decide_eq_true_iff]
  exact hzero

end PageTemplates.Arithmetic

namespace PageTemplates.Logic

open Decimal

/-- **Equality of integers.** The filter `equals` finds two integers equal exactly when they are rounded to the same integer of 53
binary digits. So it tells an integer of at most 53 digits from every other one. -/
theorem equals_int (surroundings : Surroundings) (a b : Int64) :
    equals surroundings (.int a) [.int b] = .ok (.bool (decide (nearestInt a.toInt = nearestInt b.toInt))) ∧
      (a.toInt.natAbs < 2 ^ 53 ∨ b.toInt.natAbs < 2 ^ 53 →
        equals surroundings (.int a) [.int b] = .ok (.bool (decide (a = b)))) := by
  have hequal : looselyEqual (.int a) (.int b) = decide (nearestInt a.toInt = nearestInt b.toInt) := by
    rw [Bool.eq_iff_iff, decide_eq_true_iff, ← floatOfInt64_beq_iff]
    show (a == b || floatOfInt64 a == floatOfInt64 b) = true ↔ _
    rw [Bool.or_eq_true, beq_iff_eq]
    refine ⟨fun h => h.elim (fun hab => ?_) id, Or.inr⟩
    rw [hab, floatOfInt64_beq_iff]
  have hresult : equals surroundings (.int a) [.int b] = .ok (.bool (looselyEqual (.int a) (.int b))) := rfl
  rw [hresult, hequal]
  refine ⟨rfl, fun hsmall => ?_⟩
  have hiff : nearestInt a.toInt = nearestInt b.toInt ↔ a = b := by
    rw [← Int64.toInt_inj]
    rcases hsmall with h | h
    · exact nearestInt_eq_iff_of_lt h
    · rw [eq_comm, nearestInt_eq_iff_of_lt h, eq_comm]
  simp only [hiff]

/-- The greatest integer of 53 digits is told from the next one. -/
theorem equals_int_greatest :
    (9007199254740991 : Int64).toInt.natAbs < 2 ^ 53 ∧
      equals { settings := {}, now := "" } (.int 9007199254740991) [.int 9007199254740992] = .ok (.bool false) := by
  have hsmall : (9007199254740991 : Int64).toInt.natAbs < 2 ^ 53 := by
    decide
  refine ⟨hsmall, ?_⟩
  rw [(equals_int _ _ _).2 (Or.inl hsmall)]
  rfl

/-- Of two neighbours with 54 digits the odd one is rounded to the even one, and they are equal. -/
theorem equals_neighbour :
    equals { settings := {}, now := "" } (.int 9007199254740992) [.int 9007199254740993] = .ok (.bool true) ∧
      (9007199254740992 : Int64) ≠ 9007199254740993 :=
  ⟨rfl, by decide⟩

end PageTemplates.Logic
