import RecordQuery.Number.Decimal
import RecordQuery.Proofs.Number.Rounding

/-!
# Decimals that read back

A decimal stands for a rational number (`Decimal.toRat`). It is read as the finite magnitude that
attracts this number (`Decimal.toMagnitude_eq`), and `Decimal.readsBack` decides whether it does
(`Decimal.readsBack_iff`).

The decimal that a magnitude is written as is found among candidates that read back, or else is the
exact one; dropping its last zeros does not change the number. So it is read as the magnitude that
it was made of (`Decimal.toMagnitude_shortest`).
-/

namespace RecordQuery.Decimal

open Binary64 (Attracts absolute halfway significand scale leadingBit infinite)

/-- The number that a decimal stands for. -/
def toRat (d : Decimal) : ℚ := d.digits * 10 ^ d.exponent

theorem compareScaled_eq (a : Nat) (i : Int) (n : Nat) (j : Int) :
    compareScaled a i n j = compare ((a : ℚ) * 10 ^ i) (n * 2 ^ j) := by
  have h10 (z : Int) : (10 : ℚ) ^ z = (Nat.pow 10 z.toNat : Nat) / (Nat.pow 10 (-z).toNat : Nat) :=
    Binary64.zpow_eq_div 10 z
  have h2 (z : Int) : (2 : ℚ) ^ z = (Nat.pow 2 z.toNat : Nat) / (Nat.pow 2 (-z).toNat : Nat) :=
    Binary64.zpow_eq_div 2 z
  have hp10 : (0 : ℚ) < (Nat.pow 10 (-i).toNat : Nat) := by
    exact_mod_cast Nat.pow_pos (by decide)
  have hp2 : (0 : ℚ) < (Nat.pow 2 (-j).toNat : Nat) := by
    exact_mod_cast Nat.pow_pos (by decide)
  rw [compareScaled, h10, h2, mul_div_assoc', mul_div_assoc']
  refine Binary64.compare_congr ?_ ?_
  · rw [div_lt_div_iff₀ hp10 hp2]
    exact_mod_cast Iff.rfl
  · rw [div_lt_div_iff₀ hp2 hp10]
    exact_mod_cast Iff.rfl

/-- Whether a decimal reads back is whether its number is attracted. -/
theorem readsBack_iff {m : Nat} (hm : 0 < m) {d : Decimal} :
    readsBack m d = true ↔ Attracts m d.toRat := by
  have hsig := Binary64.significand_pos hm
  have hquarter : (2 : ℚ) ^ (scale m - 2) = 2 ^ scale m / 4 := by
    rw [zpow_sub₀ (by norm_num)]
    norm_num
  have hlow : ((if narrowBelow m then 4 * significand m - 1 else 4 * significand m - 2 : Nat) : ℚ) *
      2 ^ (scale m - 2) = halfway (m - 1) := by
    rw [Binary64.halfway_pred hm, hquarter]
    simp only [narrowBelow, decide_eq_true_eq]
    split_ifs
    · rw [Nat.cast_sub (by omega)]
      push_cast
      ring
    · rw [Nat.cast_sub (by omega)]
      push_cast
      ring
  have hhigh : ((4 * significand m + 2 : Nat) : ℚ) * 2 ^ (scale m - 2) = halfway m := by
    rw [Binary64.halfway_eq, hquarter]
    push_cast
    ring
  unfold readsBack
  dsimp only
  rw [compareScaled_eq, compareScaled_eq, hlow, hhigh, ← toRat, Binary64.significand_mod_two]
  simp [Attracts, compare_gt_iff_gt, compare_lt_iff_lt]

/-! ## Reading -/

theorem width_le_iff {n k : Nat} (hk : 0 < k) : width n ≤ k ↔ n < 10 ^ k := by
  unfold width
  split_ifs with hn
  · simp [hn]
  · exact Nat.length_toDigits_le_iff (by decide) hk

theorem width_pos {n : Nat} (hn : n ≠ 0) : 0 < width n := by
  rw [width, if_neg hn]
  exact Nat.length_toDigits_pos

theorem ten_pow_le {n : Nat} (hn : n ≠ 0) : 10 ^ (width n - 1) ≤ n := by
  have hpos := width_pos hn
  by_cases hone : width n = 1
  · rw [hone]
    exact Nat.pos_of_ne_zero hn
  · rw [← Nat.not_lt, ← width_le_iff (by omega)]
    omega

/-- The place of the first digit of a decimal bounds the number. -/
theorem toRat_bounds {d : Decimal} (hd : d.digits ≠ 0) :
    (10 : ℚ) ^ (width d.digits + d.exponent - 1) ≤ d.toRat ∧
      d.toRat < 10 ^ (width d.digits + d.exponent) := by
  have hp : (0 : ℚ) < 10 ^ d.exponent := by positivity
  have hpos := width_pos hd
  constructor
  · rw [show (width d.digits + d.exponent - 1 : Int) = (width d.digits - 1 : Nat) + d.exponent by
      omega, zpow_add₀ (by norm_num), zpow_natCast, toRat]
    gcongr
    exact_mod_cast ten_pow_le hd
  · rw [zpow_add₀ (by norm_num), zpow_natCast, toRat]
    gcongr
    exact_mod_cast (width_le_iff hpos).1 le_rfl

/-- What a finite magnitude attracts lies in the range in which decimals are read exactly. -/
theorem bounds_of_attracts {m : Nat} (hm : 0 < m) (hfinite : m < infinite) {v : ℚ}
    (h : Attracts m v) : (2 : ℚ) ^ (-1075 : Int) ≤ v ∧ v ≤ 2 ^ (1024 : Int) := by
  have hle : halfway (m - 1) ≤ v ∧ v ≤ halfway m :=
    ⟨h.1.elim le_of_lt fun h => h.2.ge, h.2.elim le_of_lt fun h => h.2.le⟩
  constructor
  · refine le_trans ?_ hle.1
    have h1 : absolute 1 ≤ absolute m := Binary64.absolute_le_iff.2 hm
    have h0 := Binary64.absolute_nonneg (m - 1)
    have hone : absolute 1 = 2 * 2 ^ (-1075 : Int) := by
      rw [absolute, ← zpow_one_add₀ (by norm_num)]
      simp [significand, scale, leadingBit]
    rw [halfway, Nat.sub_add_cancel hm]
    linarith
  · refine le_trans hle.2 ?_
    have h1 : absolute m ≤ absolute infinite := Binary64.absolute_le_iff.2 hfinite.le
    have h2 : absolute (m + 1) ≤ absolute infinite := Binary64.absolute_le_iff.2 hfinite
    have htop : absolute infinite = 2 ^ (1024 : Int) := by
      rw [absolute, show (1024 : Int) = 972 + 52 by norm_num, Binary64.scaled_leadingBit]
      rfl
    rw [halfway]
    linarith

theorem two_pow_lt_ten_pow : (2 : ℚ) ^ (1024 : Int) < 10 ^ (310 : Int) := by
  have h : 2 ^ 1024 < 10 ^ 310 := by decide +kernel
  rw [show (1024 : Int) = (1024 : Nat) from rfl, show (310 : Int) = (310 : Nat) from rfl,
    zpow_natCast, zpow_natCast]
  exact_mod_cast h

theorem ten_pow_lt_two_pow : (10 : ℚ) ^ (-330 : Int) < 2 ^ (-1075 : Int) := by
  have h : 2 ^ 1075 < 10 ^ 330 := by decide +kernel
  rw [show (-1075 : Int) = -(1075 : Nat) from rfl, show (-330 : Int) = -(330 : Nat) from rfl,
    zpow_neg, zpow_neg, zpow_natCast, zpow_natCast]
  refine inv_strictAnti₀ (by positivity) ?_
  exact_mod_cast h

/-- A decimal is read as the finite magnitude that attracts its number. -/
theorem toMagnitude_eq {m : Nat} (hm : 0 < m) (hfinite : m < infinite) {d : Decimal}
    (h : Attracts m d.toRat) : d.toMagnitude = m := by
  obtain ⟨hlow, hhigh⟩ := bounds_of_attracts hm hfinite h
  have hd : d.digits ≠ 0 := by
    intro h0
    rw [toRat, h0, Nat.cast_zero, zero_mul] at hlow
    exact absurd hlow (not_le.2 (by positivity))
  obtain ⟨hfirst, hnext⟩ := toRat_bounds hd
  have htop : ¬ 310 < width d.digits + d.exponent := by
    intro hlarge
    have hpow : (10 : ℚ) ^ (310 : Int) ≤ 10 ^ (width d.digits + d.exponent - 1) :=
      zpow_le_zpow_right₀ (by norm_num) (by omega)
    exact absurd (hpow.trans (hfirst.trans hhigh)) (not_le.2 two_pow_lt_ten_pow)
  have hbottom : ¬ width d.digits + d.exponent < -330 := by
    intro hsmall
    have hpow : (10 : ℚ) ^ (width d.digits + d.exponent) ≤ 10 ^ (-330 : Int) :=
      zpow_le_zpow_right₀ (by norm_num) hsmall.le
    exact absurd (hlow.trans (hnext.le.trans hpow)) (not_le.2 ten_pow_lt_two_pow)
  rw [toMagnitude, if_neg hd, if_neg htop, if_neg hbottom]
  refine Binary64.roundRatio_eq (Nat.pow_pos (by decide)) hm hfinite ?_
  have hvalue : ((d.digits * Nat.pow 10 d.exponent.toNat : Nat) : ℚ) /
      (Nat.pow 10 (-d.exponent).toNat : Nat) = d.toRat := by
    rw [toRat, show (10 : ℚ) = (10 : Nat) from rfl, Binary64.zpow_eq_div, Nat.cast_mul,
      mul_div_assoc]
  rwa [hvalue]

/-! ## Writing -/

theorem toRat_stripZeros (fuel : Nat) (d : Decimal) : (stripZeros fuel d).toRat = d.toRat := by
  induction fuel generalizing d with
  | zero => rfl
  | succ fuel ih =>
    rw [stripZeros]
    split_ifs with h
    · obtain ⟨k, hk⟩ := Nat.dvd_of_mod_eq_zero h.2
      rw [ih, toRat, toRat, zpow_add_one₀ (by norm_num), hk, Nat.mul_div_cancel_left k (by decide)]
      push_cast
      ring
    · rfl

theorem toRat_exact (m : Nat) : (exact m).toRat = absolute m := by
  rw [exact, toRat, absolute]
  dsimp only
  rcases Int.le_total 0 (scale m) with h | h
  · obtain ⟨k, hk⟩ := Int.eq_ofNat_of_zero_le h
    simp [hk]
  · obtain ⟨k, hk⟩ := Int.exists_eq_neg_ofNat h
    have hten : (10 : ℚ) ^ k = 2 ^ k * 5 ^ k := by
      rw [← mul_pow]
      norm_num
    have hzero : (-(k : Int)).toNat = 0 := by omega
    simp only [hk, hzero, neg_neg, Int.toNat_natCast, zpow_neg, zpow_natCast, hten, Nat.pow_eq]
    push_cast
    field_simp

theorem readsBack_of_candidate {tie : Tie} {m n : Nat} {k : Int} {d : Decimal}
    (h : candidate tie m k n = some d) : readsBack m d = true := by
  unfold candidate at h
  dsimp only at h
  split at h
  · cases h
    assumption
  · cases h
    assumption
  · cases h
  · split at h <;> cases h
    · assumption
    · assumption
    · split_ifs <;> assumption
    · assumption

/-- The decimal that a magnitude is written as reads back. -/
theorem attracts_shortest (tie : Tie) {m : Nat} (hm : 0 < m) :
    Attracts m (shortest tie m).toRat := by
  rw [shortest, if_neg hm.ne']
  dsimp only
  rw [toRat_stripZeros]
  cases h : (List.range 17).findSome? fun n =>
      candidate tie m (leading (significand m) (scale m)) (n + 1) with
  | none =>
    rw [Option.getD_none, toRat_exact]
    exact Binary64.attracts_absolute hm
  | some d =>
    obtain ⟨n, -, hn⟩ := List.exists_of_findSome?_eq_some h
    exact (readsBack_iff hm).1 (readsBack_of_candidate hn)

/-- Any decimal of the number that a finite magnitude is written as is read as this magnitude. -/
theorem toMagnitude_shortest {tie : Tie} {m : Nat} (hfinite : m < infinite) {d : Decimal}
    (h : d.toRat = (shortest tie m).toRat) : d.toMagnitude = m := by
  rcases Nat.eq_zero_or_pos m with rfl | hm
  · have hd : d.digits = 0 := by
      have hp : (10 : ℚ) ^ d.exponent ≠ 0 := by positivity
      simpa [toRat, shortest, hp] using h
    rw [toMagnitude, if_pos hd]
  · exact toMagnitude_eq hm hfinite (h ▸ attracts_shortest tie hm)

end RecordQuery.Decimal
