import Mathlib.Algebra.Order.Field.Power
import Mathlib.Data.Int.Log
import Mathlib.Data.Rat.Floor
import Mathlib.Tactic.GCongr
import RecordQuery.Proofs.Number.Exact

/-!
# Rounding to the nearest double

Between two neighbouring magnitudes lies the point halfway (`Binary64.halfway`). A magnitude
attracts what lies between its two halfway points, and an even magnitude these points as well
(`Binary64.Attracts`). A fraction is rounded to the finite magnitude that attracts it
(`Binary64.roundRatio_eq`).

The scale of the result is found from the whole logarithm of the fraction, which is Mathlib's
`Int.log` (`Binary64.floorLog2_eq`), and the fraction is then a whole number of steps at that scale,
ties to the even one (`Binary64.roundEven_eq`).
-/

namespace RecordQuery.Binary64

/-! ## Whole numbers next to a fraction -/

/-- The whole number `n` is nearest to `w`, and even if another one is as near. -/
def RoundsTo (w : ℚ) (n : Nat) : Prop := |w - n| ≤ 1 / 2 ∧ (|w - n| = 1 / 2 → n % 2 = 0)

theorem roundsTo_of {w : ℚ} {n : Nat} (hlow : n - 1 / 2 < w ∨ n % 2 = 0 ∧ w = n - 1 / 2)
    (hhigh : w < n + 1 / 2 ∨ n % 2 = 0 ∧ w = n + 1 / 2) : RoundsTo w n := by
  rcases hlow with hlow | ⟨heven, rfl⟩
  · rcases hhigh with hhigh | ⟨heven, rfl⟩
    · have hnear : |w - n| < 1 / 2 := abs_lt.2 ⟨by linarith, by linarith⟩
      exact ⟨hnear.le, fun h => absurd h hnear.ne⟩
    · exact ⟨by norm_num, fun _ => heven⟩
  · exact ⟨by norm_num, fun _ => heven⟩

/-- What is added to a whole number tells which whole number is nearest. -/
theorem RoundsTo.eq {q n : Nat} {f : ℚ} (h : RoundsTo (q + f) n) (hf0 : 0 ≤ f) (hf1 : f < 1) :
    n = match compare f (1 / 2) with
      | .lt => q
      | .gt => q + 1
      | .eq => if q % 2 = 0 then q else q + 1 := by
  obtain ⟨hnear, htie⟩ := h
  obtain ⟨hlow, hhigh⟩ := abs_le.1 hnear
  -- only the whole part and the next whole number are near enough
  have hn : n = q ∨ n = q + 1 := by
    have h1 : (q : ℚ) < n + 1 := by linarith
    have h2 : (n : ℚ) < q + 2 := by linarith
    norm_cast at h1 h2
    omega
  rcases lt_trichotomy f (1 / 2) with hlt | rfl | hgt
  · rw [compare_lt_iff_lt.2 hlt]
    rcases hn with rfl | rfl
    · rfl
    · push_cast at hlow
      linarith
  · rw [compare_eq_iff_eq.2 rfl]
    rcases hn with rfl | rfl
    · exact (if_pos (htie (by norm_num))).symm
    · have heven := htie (by push_cast; norm_num)
      exact (if_neg (by omega)).symm
  · rw [compare_gt_iff_gt.2 hgt]
    rcases hn with rfl | rfl
    · linarith
    · rfl

theorem roundEven_eq {num den n : Nat} (hden : 0 < den) (h : RoundsTo (num / den) n) :
    roundEven num den = n := by
  have hpos : (0 : ℚ) < den := by exact_mod_cast hden
  have hrest : ((num % den : Nat) : ℚ) / den < 1 :=
    (div_lt_one hpos).2 (by exact_mod_cast Nat.mod_lt _ hden)
  have hdiv : (num : ℚ) / den = (num / den : Nat) + ((num % den : Nat) : ℚ) / den := by
    rw [div_eq_iff hpos.ne', add_mul, div_mul_cancel₀ _ hpos.ne']
    exact_mod_cast (Nat.div_add_mod' num den).symm
  have hcompare : compare (2 * (num % den)) den =
      compare (((num % den : Nat) : ℚ) / den) (1 / 2) := by
    refine compare_congr ?_ ?_
    · rw [div_lt_div_iff₀ hpos (by norm_num)]
      norm_cast
      omega
    · rw [div_lt_div_iff₀ (by norm_num) hpos]
      norm_cast
      omega
  rw [hdiv] at h
  unfold roundEven
  rw [hcompare]
  exact (h.eq (by positivity) hrest).symm

/-! ## Whole logarithms -/

theorem zpow_eq_div (b : Nat) [NeZero b] (z : Int) :
    (b : ℚ) ^ z = (Nat.pow b z.toNat : Nat) / (Nat.pow b (-z).toNat : Nat) := by
  rw [Nat.pow_eq, Nat.pow_eq]
  push_cast
  rcases Int.le_total 0 z with hz | hz
  · obtain ⟨k, rfl⟩ := Int.eq_ofNat_of_zero_le hz
    simp
  · obtain ⟨k, rfl⟩ := Int.exists_eq_neg_ofNat hz
    simp

theorem log_eq {v : ℚ} {k : Int} (hlow : 2 ^ k ≤ v) (hhigh : v < 2 ^ (k + 1)) :
    Int.log 2 v = k := by
  have hv : 0 < v := lt_of_lt_of_le (by positivity) hlow
  apply le_antisymm
  · exact Int.lt_add_one_iff.1 ((Int.lt_zpow_iff_log_lt (by decide) hv).1 (by exact_mod_cast hhigh))
  · exact (Int.zpow_le_iff_le_log (by decide) hv).1 (by exact_mod_cast hlow)

theorem two_zpow_le_div_iff {num den : Nat} (hden : 0 < den) (z : Int) :
    (2 : ℚ) ^ z ≤ num / den ↔ den * Nat.pow 2 z.toNat ≤ num * Nat.pow 2 (-z).toNat := by
  have hpos : (0 : ℚ) < den := by exact_mod_cast hden
  have hp : (0 : ℚ) < (Nat.pow 2 (-z).toNat : Nat) := by
    exact_mod_cast Nat.two_pow_pos (-z).toNat
  rw [show (2 : ℚ) = (2 : Nat) from rfl, zpow_eq_div, div_le_div_iff₀ hp hpos, mul_comm den]
  exact_mod_cast Iff.rfl

theorem floorLog2_eq {num den : Nat} (hnum : 0 < num) (hden : 0 < den) :
    floorLog2 num den = Int.log 2 ((num : ℚ) / den) := by
  have hpos : (0 : ℚ) < den := by exact_mod_cast hden
  have hnum1 : (2 : ℚ) ^ (num.log2 : Int) ≤ num := by
    exact_mod_cast Nat.log2_self_le hnum.ne'
  have hnum2 : (num : ℚ) < 2 ^ ((num.log2 : Int) + 1) := by
    exact_mod_cast Nat.lt_log2_self (n := num)
  have hden1 : (2 : ℚ) ^ (den.log2 : Int) ≤ den := by
    exact_mod_cast Nat.log2_self_le hden.ne'
  have hden2 : (den : ℚ) < 2 ^ ((den.log2 : Int) + 1) := by
    exact_mod_cast Nat.lt_log2_self (n := den)
  unfold floorLog2
  dsimp only
  generalize (num.log2 : Int) = a at *
  generalize (den.log2 : Int) = b at *
  have hhigh : (num : ℚ) / den < 2 ^ (a - b + 1) := by
    rw [div_lt_iff₀ hpos, show a - b + 1 = (a + 1) - b by ring, zpow_sub₀ (by norm_num),
      div_mul_eq_mul_div, lt_div_iff₀ (by positivity)]
    calc (num : ℚ) * 2 ^ b ≤ num * den := by gcongr
      _ < 2 ^ (a + 1) * den := by gcongr
  have hlow : (2 : ℚ) ^ (a - b - 1) < num / den := by
    rw [lt_div_iff₀ hpos, show a - b - 1 = a - (b + 1) by ring, zpow_sub₀ (by norm_num),
      div_mul_eq_mul_div, div_lt_iff₀ (by positivity)]
    calc (2 : ℚ) ^ a * den ≤ num * den := by gcongr
      _ < num * 2 ^ (b + 1) := by gcongr
  -- the comparison asks whether the guess is too high
  split_ifs with h
  · rw [← two_zpow_le_div_iff hden] at h
    exact (log_eq h hhigh).symm
  · rw [← two_zpow_le_div_iff hden, not_le] at h
    refine (log_eq hlow.le ?_).symm
    rwa [sub_add_cancel]

/-- A fraction is rounded to a whole number of steps, whose width its logarithm says. -/
theorem roundRatio_of_roundsTo {num den : Nat} (hnum : 0 < num) (hden : 0 < den) {s : Int}
    (hs : max (Int.log 2 ((num : ℚ) / den) - 52) (-1074) = s) {n : Nat}
    (hn : RoundsTo (num / den / 2 ^ s) n) :
    roundRatio num den = min infinite ((s + 1074).toNat * leadingBit + n) := by
  have hp : 0 < den * Nat.pow 2 s.toNat := Nat.mul_pos hden (Nat.two_pow_pos _)
  have hsteps : ((num * Nat.pow 2 (-s).toNat : Nat) : ℚ) / (den * Nat.pow 2 s.toNat : Nat) =
      num / den / 2 ^ s := by
    rw [show (2 : ℚ) = (2 : Nat) from rfl, zpow_eq_div, div_div_div_eq]
    push_cast
    rfl
  rw [roundRatio, if_neg hnum.ne', floorLog2_eq hnum hden]
  dsimp only
  rw [hs, roundEven_eq hp (by rwa [hsteps])]

/-! ## From one magnitude to the next -/

theorem significand_mod_two (m : Nat) : significand m % 2 = m % 2 := by
  unfold significand leadingBit
  split_ifs <;> omega

theorem significand_pos {m : Nat} (hm : 0 < m) : 0 < significand m := by
  unfold significand leadingBit
  split_ifs <;> omega

theorem significand_lt (m : Nat) : significand m < 2 * leadingBit := by
  unfold significand leadingBit
  split_ifs <;> omega

theorem scale_of_lt {m : Nat} (hm : m < 2 * leadingBit) : scale m = -1074 := by
  unfold scale leadingBit at *
  split_ifs <;> omega

theorem scale_steps (m : Nat) : (scale m + 1074).toNat * leadingBit + significand m = m := by
  rw [scale, significand]
  by_cases h : m < leadingBit
  · simp [h]
  · rw [if_neg h, if_neg h]
    unfold leadingBit at *
    omega

/-- Beyond the least scale, the digits start anew with the leading bit alone. -/
theorem significand_eq_iff {m : Nat} (hm : 2 * leadingBit ≤ m) :
    significand m = leadingBit ↔ m % leadingBit = 0 := by
  unfold significand leadingBit at *
  split_ifs <;> omega

theorem leadingBit_le_significand {m : Nat} (hm : leadingBit ≤ m) :
    leadingBit ≤ significand m := by
  rw [significand, if_neg (not_lt.2 hm)]
  exact Nat.le_add_right _ _

theorem significand_succ (m : Nat) : significand (m + 1) =
    if 2 * leadingBit ≤ m + 1 ∧ (m + 1) % leadingBit = 0 then leadingBit
    else significand m + 1 := by
  unfold significand leadingBit
  split_ifs <;> omega

theorem significand_add_one {m : Nat} (h : 2 * leadingBit ≤ m + 1 ∧ (m + 1) % leadingBit = 0) :
    significand m + 1 = 2 * leadingBit := by
  unfold significand leadingBit at *
  split_ifs <;> omega

theorem scale_succ (m : Nat) : scale (m + 1) =
    if 2 * leadingBit ≤ m + 1 ∧ (m + 1) % leadingBit = 0 then scale m + 1 else scale m := by
  unfold scale leadingBit
  split_ifs <;> omega

/-- From one magnitude to the next it is one step of the scale. -/
theorem absolute_succ (m : Nat) : absolute (m + 1) = absolute m + 2 ^ scale m := by
  rw [absolute, absolute, scale_succ, significand_succ]
  split_ifs with hfirst
  · have hlast : (significand m : ℚ) + 1 = 2 * leadingBit := by
      exact_mod_cast significand_add_one hfirst
    rw [zpow_add_one₀ (by norm_num), ← add_one_mul, hlast]
    ring
  · push_cast
    ring

/-! ## Halfway points -/

/-- The number in the middle of a magnitude and the next one. -/
def halfway (m : Nat) : ℚ := (absolute m + absolute (m + 1)) / 2

/-- The number lies between the halfway points next to a magnitude; for an even magnitude it may be
one of them. -/
def Attracts (m : Nat) (v : ℚ) : Prop :=
  (halfway (m - 1) < v ∨ m % 2 = 0 ∧ v = halfway (m - 1)) ∧
    (v < halfway m ∨ m % 2 = 0 ∧ v = halfway m)

/-- A magnitude attracts its own number. -/
theorem attracts_absolute {m : Nat} (hm : 0 < m) : Attracts m (absolute m) := by
  have hlt {a b : Nat} (h : a < b) : absolute a < absolute b := by
    rw [← not_le, absolute_le_iff]
    omega
  have h1 := hlt (show m - 1 < m by omega)
  have h2 := hlt (Nat.lt_add_one m)
  refine ⟨.inl ?_, .inl ?_⟩
  · rw [halfway, Nat.sub_add_cancel hm]
    linarith
  · rw [halfway]
    linarith

theorem halfway_eq (m : Nat) : halfway m = (significand m + 1 / 2) * 2 ^ scale m := by
  rw [halfway, absolute_succ, absolute]
  ring

/-- Below a magnitude the gap is half as wide where the digits start anew. -/
theorem halfway_pred {m : Nat} (hm : 0 < m) : halfway (m - 1) =
    (significand m - if 2 * leadingBit ≤ m ∧ m % leadingBit = 0 then 1 / 4 else 1 / 2) *
      2 ^ scale m := by
  obtain ⟨m, rfl⟩ : ∃ k, m = k + 1 := ⟨m - 1, by omega⟩
  have habs : absolute (m + 1) = significand (m + 1) * 2 ^ scale (m + 1) := rfl
  rw [Nat.add_sub_cancel, sub_mul, ← habs, halfway, absolute_succ m, scale_succ]
  split_ifs
  · rw [zpow_add_one₀ (by norm_num)]
    ring
  · ring

/-! ## Rounding -/

theorem leadingBit_eq : (leadingBit : ℚ) = 2 ^ (52 : Int) := by
  rw [show leadingBit = 2 ^ 52 from rfl, Nat.cast_pow]
  rfl

theorem scaled_leadingBit (q : Int) : (2 : ℚ) ^ (q + 52) = leadingBit * 2 ^ q := by
  rw [zpow_add₀ (by norm_num), leadingBit_eq, mul_comm]

variable {num den m : Nat}

/-- Within half a step of a magnitude. -/
theorem roundRatio_near (hnum : 0 < num) (hden : 0 < den) (hfinite : m < infinite)
    (hlow : 2 * leadingBit ≤ m → (leadingBit : ℚ) * 2 ^ scale m ≤ num / den)
    (h : RoundsTo (num / den / 2 ^ scale m) (significand m)) : roundRatio num den = m := by
  have hp : (0 : ℚ) < 2 ^ scale m := by positivity
  have hpos : (0 : ℚ) < (num : ℚ) / den := by positivity
  have hhigh : (num : ℚ) / den < 2 ^ (scale m + 52 + 1) := by
    have hle := (abs_le.1 h.1).2
    have hsig : (significand m : ℚ) + 1 ≤ 2 * leadingBit := by exact_mod_cast significand_lt m
    rw [zpow_add_one₀ (by norm_num), scaled_leadingBit, mul_right_comm, ← div_lt_iff₀ hp]
    linarith
  have hs : max (Int.log 2 ((num : ℚ) / den) - 52) (-1074) = scale m := by
    by_cases hm : 2 * leadingBit ≤ m
    · have hlog := log_eq (by rw [scaled_leadingBit]; exact hlow hm) hhigh
      have hscale := neg_1074_le_scale m
      omega
    · have hscale := scale_of_lt (not_le.1 hm)
      have hlog := (Int.lt_zpow_iff_log_lt (b := 2) (by decide) hpos).1 (by exact_mod_cast hhigh)
      omega
  rw [roundRatio_of_roundsTo hnum hden hs h, scale_steps]
  exact Nat.min_eq_right hfinite.le

/-- Below the least magnitude of a scale, where the steps are half as wide. -/
theorem roundRatio_below (hnum : 0 < num) (hden : 0 < den) (hfinite : m < infinite)
    (hm : 2 * leadingBit ≤ m) (hfirst : m % leadingBit = 0)
    (hlow : (leadingBit - 1 / 4) * 2 ^ scale m ≤ (num : ℚ) / den)
    (hhigh : (num : ℚ) / den < leadingBit * 2 ^ scale m) : roundRatio num den = m := by
  have hsum : (scale m - 1 + 1074).toNat * leadingBit + 2 * leadingBit = m := by
    unfold scale leadingBit at *
    split_ifs <;> omega
  have hp : (0 : ℚ) < 2 ^ (scale m - 1) := by positivity
  have hstep : (2 : ℚ) ^ scale m = 2 * 2 ^ (scale m - 1) := by
    rw [mul_comm, ← zpow_add_one₀ (by norm_num), sub_add_cancel]
  have hbit : (1 : ℚ) ≤ leadingBit := by norm_num [leadingBit]
  have hscale : -1073 ≤ scale m := by
    unfold scale leadingBit at *
    split_ifs <;> omega
  have hs : max (Int.log 2 ((num : ℚ) / den) - 52) (-1074) = scale m - 1 := by
    have hlog : Int.log 2 ((num : ℚ) / den) = scale m - 1 + 52 := by
      refine log_eq ?_ ?_
      · rw [scaled_leadingBit]
        refine le_trans ?_ hlow
        rw [hstep, ← mul_assoc]
        gcongr
        linarith
      · rw [show scale m - 1 + 52 + 1 = scale m + 52 by ring, scaled_leadingBit]
        exact hhigh
    omega
  have hn : RoundsTo (num / den / 2 ^ (scale m - 1)) (2 * leadingBit) := by
    rw [hstep, ← mul_assoc, ← le_div_iff₀ hp] at hlow
    rw [hstep, ← mul_assoc, ← div_lt_iff₀ hp] at hhigh
    refine ⟨abs_le.2 ⟨?_, ?_⟩, fun _ => Nat.mul_mod_right 2 _⟩
    · push_cast
      linarith
    · push_cast
      linarith
  rw [roundRatio_of_roundsTo hnum hden hs hn, hsum]
  exact Nat.min_eq_right hfinite.le

/-- A fraction is rounded to the finite magnitude that attracts it. -/
theorem roundRatio_eq (hden : 0 < den) (hm : 0 < m) (hfinite : m < infinite)
    (h : Attracts m (num / den)) : roundRatio num den = m := by
  obtain ⟨hlow, hhigh⟩ := h
  have hp : (0 : ℚ) < 2 ^ scale m := by positivity
  rw [halfway_pred hm, ← significand_mod_two, ← lt_div_iff₀ hp, ← div_eq_iff hp.ne'] at hlow
  rw [halfway_eq, ← significand_mod_two, ← div_lt_iff₀ hp, ← div_eq_iff hp.ne'] at hhigh
  have hsig : (1 : ℚ) ≤ significand m := by exact_mod_cast significand_pos hm
  have hnum : 0 < num := by
    by_contra h
    obtain rfl : num = 0 := by omega
    split_ifs at hlow <;> rcases hlow with h | ⟨-, h⟩ <;> norm_num at h <;> linarith
  by_cases hfirst : 2 * leadingBit ≤ m ∧ m % leadingBit = 0
  · have hbit := (significand_eq_iff hfirst.1).2 hfirst.2
    rw [if_pos hfirst] at hlow
    by_cases hbelow : (num : ℚ) / den < leadingBit * 2 ^ scale m
    · refine roundRatio_below hnum hden hfinite hfirst.1 hfirst.2 ?_ hbelow
      rw [← le_div_iff₀ hp, ← hbit]
      exact hlow.elim le_of_lt fun h => h.2.ge
    · rw [not_lt] at hbelow
      refine roundRatio_near hnum hden hfinite (fun _ => hbelow) (roundsTo_of (.inl ?_) hhigh)
      rw [← hbit, ← le_div_iff₀ hp] at hbelow
      linarith
  · rw [if_neg hfirst] at hlow
    refine roundRatio_near hnum hden hfinite (fun hlarge => ?_) (roundsTo_of hlow hhigh)
    -- the digits are above the first ones, so the halfway point is not below these
    have hle := leadingBit_le_significand (m := m) (by omega)
    have hne := mt (significand_eq_iff hlarge).1 fun h => hfirst ⟨hlarge, h⟩
    have hbit : leadingBit + 1 ≤ significand m := by omega
    have hbit' : (leadingBit : ℚ) + 1 ≤ significand m := by exact_mod_cast hbit
    rw [← le_div_iff₀ hp]
    rcases hlow with h | ⟨-, h⟩ <;> linarith

/-! ## Range -/

theorem roundRatio_le (num den : Nat) : roundRatio num den ≤ infinite := by
  unfold roundRatio
  split
  · exact Nat.zero_le _
  · exact Nat.min_le_left _ _

theorem roundRatio_lt_signBit (num den : Nat) : roundRatio num den < signBit :=
  Nat.lt_of_le_of_lt (roundRatio_le num den) (by decide)

theorem magnitude_ofRatio (negative : Bool) (num den : Nat) :
    (ofRatio negative num den).magnitude = roundRatio num den :=
  magnitude_ofMagnitude _ (roundRatio_lt_signBit num den)

theorem isNegative_ofRatio (negative : Bool) (num den : Nat) :
    (ofRatio negative num den).isNegative = negative :=
  isNegative_ofMagnitude _ (roundRatio_lt_signBit num den)

theorem isNaN_ofRatio (negative : Bool) (num den : Nat) :
    (ofRatio negative num den).isNaN = false := by
  rw [isNaN, magnitude_ofRatio]
  exact decide_eq_false (Nat.not_lt_of_le (roundRatio_le num den))

theorem isNaN_ofInt (i : Int) : (ofInt i).isNaN = false := isNaN_ofRatio ..

end RecordQuery.Binary64
