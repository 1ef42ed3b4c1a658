import Mathlib.Algebra.Order.Floor.Semiring
import RecordQuery.Proofs.Number.Rounding

/-!
# Whole numbers as doubles

Rounding never changes the order of two numbers (`Binary64.roundRatio_mono`). So whole numbers are
ordered as the doubles nearest to them, unless these are the same (`Binary64.compare?_ofInt`,
`Binary64.totalCompare_ofInt`). Up to `2 ^ 53` every whole number is a double itself, so none of
these are rounded together (`Binary64.ofInt_injOn`).
-/

namespace RecordQuery.Binary64

/-! ## Rounding keeps the order -/

theorem RoundsTo.mono {v w : ℚ} {m n : Nat} (hm : RoundsTo v m) (hn : RoundsTo w n) (h : v ≤ w) :
    m ≤ n := by
  by_contra hlt
  have hstep : (n : ℚ) + 1 ≤ m := by exact_mod_cast Nat.lt_of_not_le hlt
  have hlow := (abs_le.1 hm.1).1
  have hhigh := (abs_le.1 hn.1).2
  -- both numbers lie halfway between the two, which cannot both be even
  have hv : v - m = -(1 / 2) := by linarith
  have hw : w - n = 1 / 2 := by linarith
  have hsucc : (m : ℚ) = (n + 1 : Nat) := by
    push_cast
    linarith
  have hm_even := hm.2 (by rw [hv]; norm_num)
  have hn_even := hn.2 (by rw [hw]; norm_num)
  have := Nat.cast_injective hsucc
  omega

theorem roundsTo_natCast (n : Nat) : RoundsTo n n := by
  refine ⟨by norm_num, fun h => ?_⟩
  norm_num at h

theorem exists_roundsTo {w : ℚ} (h : 0 ≤ w) : ∃ n, RoundsTo w n := by
  have hlow := Nat.floor_le h
  have hhigh := Nat.lt_floor_add_one w
  generalize ⌊w⌋₊ = q at hlow hhigh
  rcases lt_trichotomy (w - q) (1 / 2) with hlt | heq | hgt
  · exact ⟨q, roundsTo_of (.inl (by linarith)) (.inl (by linarith))⟩
  · by_cases heven : q % 2 = 0
    · exact ⟨q, roundsTo_of (.inl (by linarith)) (.inr ⟨heven, by linarith⟩)⟩
    · refine ⟨q + 1, roundsTo_of (.inr ⟨by omega, ?_⟩) (.inl ?_)⟩ <;> push_cast <;> linarith
  · refine ⟨q + 1, roundsTo_of (.inl ?_) (.inl ?_)⟩ <;> push_cast <;> linarith

/-- The scale at which a number is rounded. -/
def scaleOf (v : ℚ) : Int := max (Int.log 2 v - 52) (-1074)

theorem exists_steps {num den : Nat} (hnum : 0 < num) (hden : 0 < den) :
    ∃ n, RoundsTo (num / den / 2 ^ scaleOf (num / den)) n ∧
      roundRatio num den = min infinite ((scaleOf (num / den) + 1074).toNat * leadingBit + n) := by
  obtain ⟨n, hn⟩ := exists_roundsTo (w := (num : ℚ) / den / 2 ^ scaleOf (num / den)) (by positivity)
  exact ⟨n, hn, roundRatio_of_roundsTo hnum hden rfl hn⟩

/-- At its scale a number has no more digits than a significand. -/
theorem div_scaleOf_lt (v : ℚ) : v / 2 ^ scaleOf v < (2 * leadingBit : Nat) := by
  have hlog : v < (2 : ℚ) ^ (Int.log 2 v + 1) := by
    exact_mod_cast Int.lt_zpow_succ_log_self (b := 2) (by decide) v
  have hle : Int.log 2 v + 1 ≤ scaleOf v + 52 + 1 := by
    unfold scaleOf
    omega
  rw [div_lt_iff₀ (by positivity)]
  calc v < 2 ^ (Int.log 2 v + 1) := hlog
    _ ≤ 2 ^ (scaleOf v + 52 + 1) := zpow_le_zpow_right₀ (by norm_num) hle
    _ = (2 * leadingBit : Nat) * 2 ^ scaleOf v := by
      rw [zpow_add_one₀ (by norm_num), scaled_leadingBit]
      push_cast
      ring

/-- Above the least scale a number has all the digits of a significand. -/
theorem le_div_scaleOf {v : ℚ} (hv : 0 < v) (hs : -1074 < scaleOf v) :
    leadingBit ≤ v / 2 ^ scaleOf v := by
  have hscale : scaleOf v + 52 = Int.log 2 v := by
    unfold scaleOf at *
    omega
  have hlog : (2 : ℚ) ^ Int.log 2 v ≤ v := by
    exact_mod_cast Int.zpow_log_le_self (b := 2) (by decide) hv
  rw [le_div_iff₀ (by positivity), ← scaled_leadingBit, hscale]
  exact hlog

/-- Rounding is monotone. -/
theorem roundRatio_mono {num den num' den' : Nat} (hden : 0 < den) (hden' : 0 < den')
    (h : (num : ℚ) / den ≤ num' / den') : roundRatio num den ≤ roundRatio num' den' := by
  rcases Nat.eq_zero_or_pos num with rfl | hnum
  · rw [roundRatio, if_pos rfl]
    exact Nat.zero_le _
  have hv : (0 : ℚ) < num / den := by positivity
  have hnum' : 0 < num' := by
    by_contra hzero
    obtain rfl : num' = 0 := by omega
    norm_num at h
    linarith
  obtain ⟨n, hn, heq⟩ := exists_steps hnum hden
  obtain ⟨n', hn', heq'⟩ := exists_steps hnum' hden'
  rw [heq, heq']
  generalize (num : ℚ) / den = v at *
  generalize (num' : ℚ) / den' = v' at *
  refine min_le_min_left _ ?_
  have hlog : Int.log 2 v ≤ Int.log 2 v' := Int.log_mono_right hv h
  have hscale : scaleOf v ≤ scaleOf v' := max_le_max_right _ (by omega)
  rcases hscale.eq_or_lt with hsame | hless
  · rw [← hsame] at hn' ⊢
    have hsteps := hn.mono hn' (div_le_div_of_nonneg_right h (by positivity))
    omega
  · -- at the lower scale there are at most as many steps as to the next one
    have hmin : -1074 ≤ scaleOf v := le_max_right _ _
    have hn_le := hn.mono (roundsTo_natCast _) (div_scaleOf_lt v).le
    have hn'_ge := (roundsTo_natCast leadingBit).mono hn'
      (le_div_scaleOf (hv.trans_le h) (hmin.trans_lt hless))
    have hstep : (scaleOf v + 1074).toNat + 1 ≤ (scaleOf v' + 1074).toNat := by omega
    have hsteps := Nat.mul_le_mul_right leadingBit hstep
    rw [Nat.add_mul, Nat.one_mul] at hsteps
    omega

/-! ## Whole numbers that are doubles -/

/-- The magnitude of the digits of a significand at some exponent. -/
theorem absolute_steps (e : Nat) {d : Nat} (hlow : leadingBit ≤ d) (hhigh : d < 2 * leadingBit) :
    absolute (e * leadingBit + d) = d * 2 ^ ((e : Int) - 1074) := by
  have hdigits : significand (e * leadingBit + d) = d := by
    unfold significand leadingBit at *
    split_ifs <;> omega
  have hscale : scale (e * leadingBit + d) = e - 1074 := by
    unfold scale leadingBit at *
    split_ifs <;> omega
  rw [absolute, hdigits, hscale]

/-- Up to `2 ^ 53` a whole number has no more digits than a significand. -/
theorem exists_absolute_eq {n : Nat} (hpos : 0 < n) (hn : n ≤ 2 ^ 53) :
    ∃ m, 0 < m ∧ m < infinite ∧ absolute m = n := by
  rcases hn.eq_or_lt with rfl | hlt
  · refine ⟨1075 * leadingBit + leadingBit, by decide, by decide, ?_⟩
    rw [absolute_steps _ le_rfl (by decide)]
    norm_num [leadingBit]
  · have hlog : n.log2 ≤ 52 := Nat.lt_succ_iff.1 ((Nat.log2_lt hpos.ne').2 hlt)
    have hlow : leadingBit ≤ n * 2 ^ (52 - n.log2) := by
      calc leadingBit = 2 ^ n.log2 * 2 ^ (52 - n.log2) := by
            rw [← pow_add, Nat.add_sub_cancel' hlog]
            rfl
        _ ≤ n * 2 ^ (52 - n.log2) := Nat.mul_le_mul_right _ (Nat.log2_self_le hpos.ne')
    have hhigh : n * 2 ^ (52 - n.log2) < 2 * leadingBit := by
      calc n * 2 ^ (52 - n.log2) < 2 ^ (n.log2 + 1) * 2 ^ (52 - n.log2) :=
            Nat.mul_lt_mul_of_pos_right Nat.lt_log2_self (Nat.two_pow_pos _)
        _ = 2 * leadingBit := by
            rw [← pow_add, show n.log2 + 1 + (52 - n.log2) = 53 by omega]
            rfl
    refine ⟨(n.log2 + 1022) * leadingBit + n * 2 ^ (52 - n.log2), by omega, ?_, ?_⟩
    · have hexp := Nat.mul_le_mul_right leadingBit (show n.log2 + 1022 ≤ 1074 by omega)
      unfold infinite leadingBit at *
      omega
    · rw [absolute_steps _ hlow hhigh]
      push_cast
      rw [mul_assoc, ← zpow_natCast, ← zpow_add₀ (by norm_num), Nat.cast_sub hlog]
      push_cast
      rw [show (52 - n.log2 + (n.log2 + 1022 - 1074) : Int) = 0 by ring, zpow_zero, mul_one]

/-- Up to `2 ^ 53` a whole number is not changed by rounding. -/
theorem absolute_roundRatio {n : Nat} (hn : n ≤ 2 ^ 53) : absolute (roundRatio n 1) = n := by
  rcases Nat.eq_zero_or_pos n with rfl | hpos
  · rw [roundRatio, if_pos rfl, Nat.cast_zero]
    exact absolute_eq_zero_iff.2 rfl
  · obtain ⟨m, hm, hfinite, heq⟩ := exists_absolute_eq hpos hn
    have hattracts : Attracts m ((n : ℚ) / (1 : Nat)) := by
      rw [Nat.cast_one, div_one, ← heq]
      exact attracts_absolute hm
    rw [roundRatio_eq Nat.one_pos hm hfinite hattracts, heq]

/-! ## The double nearest to a whole number -/

theorem magnitude_ofInt (i : Int) : (ofInt i).magnitude = roundRatio i.natAbs 1 :=
  magnitude_ofRatio ..

theorem isNegative_ofInt (i : Int) : (ofInt i).isNegative = decide (i < 0) :=
  isNegative_ofRatio ..

theorem roundRatio_natCast_mono {m n : Nat} (h : m ≤ n) : roundRatio m 1 ≤ roundRatio n 1 :=
  roundRatio_mono Nat.one_pos Nat.one_pos (by simpa using h)

theorem roundRatio_natCast_pos {n : Nat} (h : 0 < n) : 0 < roundRatio n 1 := by
  have hone : 0 < roundRatio 1 1 := by decide
  exact hone.trans_le (roundRatio_natCast_mono h)

theorem totalPlace_ofInt_mono {i k : Int} (h : i ≤ k) :
    (ofInt i).totalPlace ≤ (ofInt k).totalPlace := by
  rw [totalPlace, totalPlace, isNegative_ofInt, isNegative_ofInt, magnitude_ofInt, magnitude_ofInt]
  simp only [decide_eq_true_eq]
  split_ifs
  · have := roundRatio_natCast_mono (show k.natAbs ≤ i.natAbs by omega)
    omega
  · omega
  · omega
  · have := roundRatio_natCast_mono (show i.natAbs ≤ k.natAbs by omega)
    omega

theorem totalPlace_injective : Function.Injective totalPlace := by
  intro x y h
  have hx := x.bits_eq
  have hy := y.bits_eq
  unfold totalPlace at h
  have hbits : x.bits.toNat = y.bits.toNat := by
    split_ifs at * <;> omega
  cases x
  cases y
  exact congrArg mk (UInt64.toNat_inj.1 hbits)

/-- What a monotone function tells apart it leaves in order. -/
theorem compare_of_mono {f : Int → Int} (hf : ∀ {i k : Int}, i ≤ k → f i ≤ f k) (i k : Int) :
    compare (f i) (f k) = if f i = f k then .eq else compare i k := by
  split_ifs with h
  · rw [h, compare_eq_iff_eq]
  · rcases lt_trichotomy i k with hlt | rfl | hgt
    · rw [compare_lt_iff_lt.2 hlt, compare_lt_iff_lt]
      exact lt_of_le_of_ne (hf hlt.le) h
    · exact absurd rfl h
    · rw [compare_gt_iff_gt.2 hgt, compare_gt_iff_gt]
      exact lt_of_le_of_ne (hf hgt.le) (Ne.symm h)

/-- In the order of all bits whole numbers keep their order, unless they are rounded together. -/
theorem totalCompare_ofInt (i k : Int) : totalCompare (ofInt i) (ofInt k) =
    if ofInt i = ofInt k then .eq else compare i k := by
  rw [totalCompare, compare_of_mono totalPlace_ofInt_mono]
  simp only [totalPlace_injective.eq_iff]

/-- Whole numbers are rounded together where their doubles share a place: none is the zero with a
sign. -/
theorem ofInt_eq_of_place {i k : Int} (h : (ofInt i).place = (ofInt k).place) :
    ofInt i = ofInt k := by
  have hpos {j : Int} (hj : j < 0) : 0 < roundRatio j.natAbs 1 := roundRatio_natCast_pos (by omega)
  refine totalPlace_injective ?_
  simp only [place, totalPlace, isNegative_ofInt, magnitude_ofInt, decide_eq_true_eq] at h ⊢
  split_ifs at h ⊢ with hi hk hk
  · omega
  · have := hpos hi
    omega
  · have := hpos hk
    omega
  · exact h

/-- As numbers whole numbers keep their order, unless they are rounded together. -/
theorem compare?_ofInt (i k : Int) : compare? (ofInt i) (ofInt k) =
    some (if ofInt i = ofInt k then .eq else compare i k) := by
  have hplace : (ofInt i).place = (ofInt k).place ↔ ofInt i = ofInt k :=
    ⟨ofInt_eq_of_place, fun h => h ▸ rfl⟩
  rw [compare?, isNaN_ofInt, isNaN_ofInt,
    compare_of_mono (f := fun i => (ofInt i).place) fun h => place_le (totalPlace_ofInt_mono h)]
  simp only [hplace]
  rfl

/-- Up to `2 ^ 53` no whole numbers are rounded together. -/
theorem ofInt_injOn {i k : Int} (hi : i.natAbs ≤ 2 ^ 53) (hk : k.natAbs ≤ 2 ^ 53)
    (h : ofInt i = ofInt k) : i = k := by
  have hmagnitude : roundRatio i.natAbs 1 = roundRatio k.natAbs 1 := by
    rw [← magnitude_ofInt, h, magnitude_ofInt]
  have hsign : i < 0 ↔ k < 0 := by
    rw [← decide_eq_decide, ← isNegative_ofInt, h, isNegative_ofInt]
  have habs : i.natAbs = k.natAbs := by
    have heq := congrArg absolute hmagnitude
    rw [absolute_roundRatio hi, absolute_roundRatio hk] at heq
    exact_mod_cast heq
  omega

end RecordQuery.Binary64
