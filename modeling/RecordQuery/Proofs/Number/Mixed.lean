import RecordQuery.Proofs.Number.Whole

/-!
# Whole numbers next to doubles

`Binary64.compareInt?` takes several steps, each of which could lose something. None does:

* a double is at or beyond one of the two bounds exactly if its number is
  (`Binary64.isAtLeast_bound`, `Binary64.isLess_bound`), and then it is beyond all whole numbers of
  64 bits;
* between the bounds `Binary64.truncate` is the whole part (`Binary64.toRat_truncate`), which fits
  into 64 bits (`Binary64.toInt_toInt64_truncate`);
* the difference of two doubles is the exact one, rounded (`Binary64.exists_sub_eq`), but it is not
  rounded to zero, so its sign is that of the exact one (`Binary64.compare?_zero_sub`).

So a whole number is compared with a double exactly (`Binary64.compareInt?_eq`).
-/

namespace RecordQuery.Binary64

variable {x y : Binary64}

/-! ## Truncating -/

/-- Where `k` digits of a significand stand behind the point, they are its last ones and the last
ones of the magnitude. -/
theorem absolute_clear {m k : Nat} (hk : k ≤ fractionSize) (hm : leadingBit ≤ m)
    (hscale : scale m = -k) : absolute (m / 2 ^ k * 2 ^ k) = (significand m / 2 ^ k : Nat) := by
  obtain ⟨c, hc⟩ : 2 ^ k ∣ leadingBit := pow_dvd_pow 2 hk
  have hpos : 0 < 2 ^ k := Nat.two_pow_pos k
  generalize hd : m / 2 ^ k = d
  -- digits before the point follow the leading bit, and the exponent is as before
  have hexp : d / c = m / leadingBit := by rw [hc, ← Nat.div_div_eq_div_mul, hd]
  have hcut : d * 2 ^ k / leadingBit = m / leadingBit := by
    rw [← hexp, hc, Nat.mul_comm d, Nat.mul_div_mul_left _ _ hpos]
  have hlarge : leadingBit ≤ d * 2 ^ k :=
    (Nat.one_le_div_iff (by decide)).1 (hcut ▸ one_le_exponent hm)
  have hdigits : significand (d * 2 ^ k) = 2 ^ k * (c + d % c) := by
    rw [significand, if_neg (Nat.not_lt_of_le hlarge), Nat.mul_add, ← Nat.mul_mod_mul_left,
      ← hc, Nat.mul_comm d]
  have hkept : significand m / 2 ^ k = c + d % c := by
    rw [significand, if_neg (Nat.not_lt_of_le hm), hc, Nat.mul_add_div hpos,
      Nat.mod_mul_right_div_self, hd]
  have hsame : scale (d * 2 ^ k) = -k := by
    rw [← hscale, scale, scale, if_neg (Nat.not_lt_of_le hlarge), if_neg (Nat.not_lt_of_le hm),
      hcut]
  rw [absolute, hdigits, hsame, hkept, Nat.cast_mul, Nat.cast_pow, Nat.cast_two, mul_right_comm,
    ← zpow_natCast, ← zpow_add₀ (by norm_num), add_neg_cancel, zpow_zero, one_mul]

/-- Cutting a magnitude leaves its whole part. -/
theorem absolute_cut (m : Nat) : absolute (cut m) = wholePart m := by
  unfold cut wholePart
  dsimp only
  simp only [Nat.pow_eq]
  rcases Int.le_total 0 (scale m) with hq | hq
  · obtain ⟨k, hk⟩ := Int.eq_ofNat_of_zero_le hq
    have hnone : (-(k : Int)).toNat = 0 := by omega
    rw [hk, hnone, if_neg (by decide), if_pos (Int.natCast_nonneg k), pow_zero, Nat.div_one,
      Nat.mul_one, absolute, hk, Int.toNat_natCast, zpow_natCast]
    push_cast
    rfl
  · obtain ⟨k, hk⟩ := Int.exists_eq_neg_ofNat hq
    rw [hk, neg_neg, Int.toNat_natCast]
    by_cases hsmall : fractionSize < k
    · -- all digits stand behind the point
      have hdigits : significand m < 2 ^ k := by
        calc significand m < 2 * leadingBit := significand_lt m
          _ = 2 ^ (fractionSize + 1) := rfl
          _ ≤ 2 ^ k := Nat.pow_le_pow_right (by decide) hsmall
      rw [if_pos hsmall, if_neg (by unfold fractionSize at hsmall; omega),
        Nat.div_eq_of_lt hdigits, Nat.cast_zero]
      exact absolute_eq_zero_iff.2 rfl
    · have hlarge : leadingBit ≤ m := by
        by_contra hlt
        rw [scale, if_pos (Nat.lt_of_not_le hlt)] at hk
        unfold fractionSize at hsmall
        omega
      rw [if_neg hsmall, absolute_clear (Nat.le_of_not_lt hsmall) hlarge hk]
      rcases Nat.eq_zero_or_pos k with rfl | hpos
      · simp
      · rw [if_neg (by omega)]

theorem cut_le (m : Nat) : cut m ≤ m := by
  unfold cut
  dsimp only
  split
  · exact Nat.zero_le _
  · exact Nat.div_mul_le_self ..

theorem magnitude_truncate (x : Binary64) : x.truncate.magnitude = cut x.magnitude :=
  magnitude_ofMagnitude _ ((cut_le _).trans_lt x.magnitude_lt_signBit)

theorem isFinite_truncate (hx : x.isFinite = true) : x.truncate.isFinite = true := by
  rw [isFinite, decide_eq_true_eq] at *
  rw [magnitude_truncate]
  exact (cut_le _).trans_lt hx

/-- Truncating leaves the whole part. -/
theorem toRat_truncate (x : Binary64) : x.truncate.toRat = x.whole := by
  rw [truncate, toRat_ofMagnitude _ ((cut_le _).trans_lt x.magnitude_lt_signBit), absolute_cut,
    whole]
  split <;> push_cast <;> rfl

/-- A whole part that fits into 64 bits is what a number is made into. -/
theorem toInt_toInt64 (hx : x.isNaN = false) (hlow : -2 ^ 63 ≤ x.whole)
    (hhigh : x.whole < 2 ^ 63) : x.toInt64.toInt = x.whole := by
  rw [toInt64, hx]
  generalize x.whole = i at *
  have hclamp : max (-0x8000000000000000) (min 0x7FFFFFFFFFFFFFFF i) = i := by omega
  exact (congrArg (fun i => (Int64.ofInt i).toInt) hclamp).trans
    (Int64.toInt_ofInt_of_le hlow hhigh)

theorem toInt_toInt64_truncate (hx : x.isFinite = true) (hlow : -2 ^ 63 ≤ x.whole)
    (hhigh : x.whole < 2 ^ 63) : x.truncate.toInt64.toInt = x.whole := by
  have hwhole : x.truncate.whole = x.whole := whole_eq x.toRat_truncate
  rw [← hwhole] at hlow hhigh ⊢
  exact toInt_toInt64 (isNaN_eq_false_of_isFinite (isFinite_truncate hx)) hlow hhigh

/-! ## The sign of a difference -/

theorem signedRatio_spec (x : Binary64) :
    0 < (signedRatio x).2 ∧ x.toRat = (signedRatio x).1 / (signedRatio x).2 := by
  have habsolute : absolute x.magnitude =
      (ratio x.magnitude).1 / ((ratio x.magnitude).2 : ℚ) := by
    rw [absolute, show (2 : ℚ) = (2 : Nat) from rfl, zpow_eq_div, ← mul_div_assoc]
    simp [ratio]
  refine ⟨Nat.two_pow_pos _, ?_⟩
  rw [toRat, habsolute]
  unfold signedRatio
  split
  · push_cast
    exact (neg_div _ _).symm
  · push_cast
    rfl

theorem absolute_one : absolute 1 = 1 / 2 ^ 1074 := by
  rw [absolute_eq, units_small (by decide), Nat.cast_one]

/-- Numbers are multiples of the least positive one. -/
theorem exists_toRat_eq (x : Binary64) : ∃ n : Int, x.toRat = n * absolute 1 := by
  refine ⟨if x.isNegative then -(units x.magnitude : Int) else units x.magnitude, ?_⟩
  rw [toRat, absolute_eq, absolute_one, mul_one_div]
  split
  · push_cast
    exact (neg_div _ _).symm
  · push_cast
    rfl

/-- Different numbers are at least the least positive number apart. -/
theorem absolute_one_le (h : x.toRat ≠ y.toRat) : absolute 1 ≤ |x.toRat - y.toRat| := by
  obtain ⟨n, hn⟩ := exists_toRat_eq x
  obtain ⟨k, hk⟩ := exists_toRat_eq y
  have hne : n - k ≠ 0 := by
    intro heq
    rw [hn, hk, sub_eq_zero.1 heq] at h
    exact h rfl
  have hone : (1 : ℚ) ≤ |((n - k : Int) : ℚ)| := by exact_mod_cast Int.one_le_abs hne
  rw [hn, hk, ← sub_mul, ← Int.cast_sub, abs_mul, abs_of_nonneg (absolute_nonneg 1)]
  exact le_mul_of_one_le_left (absolute_nonneg 1) hone

/-- What is at least the least positive number is not rounded to zero. -/
theorem roundRatio_pos {num den : Nat} (hden : 0 < den) (h : absolute 1 ≤ (num : ℚ) / den) :
    0 < roundRatio num den := by
  obtain ⟨n, hn⟩ : ∃ n : Nat, (n : ℚ) = 2 ^ 1074 :=
    ⟨2 ^ 1074, by rw [Nat.cast_pow, Nat.cast_ofNat]⟩
  have hleast : ((1 : Nat) : ℚ) / n = absolute 1 := by rw [hn, absolute_one, Nat.cast_one]
  have hpos : 0 < n := by
    have hcast : (0 : ℚ) < n := hn ▸ by positivity
    exact_mod_cast hcast
  have hround : roundRatio 1 n = 1 :=
    roundRatio_eq hpos Nat.one_pos (by decide) (hleast ▸ attracts_absolute Nat.one_pos)
  have hmono : roundRatio 1 n ≤ roundRatio num den := roundRatio_mono hpos hden (hleast ▸ h)
  omega

/-- A fraction that is not rounded to zero stays on its side of zero. -/
theorem compare?_zero_ofRatio {negative : Bool} {num : Int} {den : Nat}
    (hsign : num ≠ 0 → negative = decide (num < 0))
    (hround : num ≠ 0 → 0 < roundRatio num.natAbs den) :
    compare? zero (ofRatio negative num.natAbs den) = some (compare 0 num) := by
  have hzero : zero.place = 0 := by decide
  rw [compare?, isNaN_ofRatio, show zero.isNaN = false by decide, hzero]
  refine congrArg some ?_
  rw [place, isNegative_ofRatio, magnitude_ofRatio]
  by_cases hnum : num = 0
  · subst hnum
    rw [Int.natAbs_zero, roundRatio, if_pos rfl]
    cases negative <;> rfl
  · have hpos := hround hnum
    rw [hsign hnum]
    refine compare_congr ?_ ?_ <;> split_ifs with hneg <;> simp at hneg <;> omega

/-- The difference of two numbers is the double nearest to the exact one, and has the sign of that
unless it is zero. -/
theorem exists_sub_eq (hx : x.isFinite = true) (hy : y.isFinite = true) :
    ∃ (negative : Bool) (num : Int) (den : Nat), x.sub y = ofRatio negative num.natAbs den ∧
      (num ≠ 0 → negative = decide (num < 0)) ∧ 0 < den ∧ x.toRat - y.toRat = num / den := by
  obtain ⟨hb, hab⟩ := signedRatio_spec x
  obtain ⟨hd, hcd⟩ := signedRatio_spec y
  rw [sub, isNaN_eq_false_of_isFinite hx, isNaN_eq_false_of_isFinite hy, hx, hy]
  simp only [Bool.or_self, Bool.not_true, Bool.false_eq_true, if_false]
  generalize signedRatio x = p at *
  generalize signedRatio y = q at *
  obtain ⟨a, b⟩ := p
  obtain ⟨c, d⟩ := q
  refine ⟨_, _, _, rfl, fun h => if_neg h, Nat.mul_pos hb hd, ?_⟩
  rw [hab, hcd, div_sub_div _ _ (by exact_mod_cast hb.ne') (by exact_mod_cast hd.ne')]
  push_cast
  ring

/-- A rounded difference is on the same side of zero as the difference. -/
theorem compare?_zero_sub (hx : x.isFinite = true) (hy : y.isFinite = true) :
    compare? zero (x.sub y) = some (compare 0 (x.toRat - y.toRat)) := by
  obtain ⟨negative, num, den, hsub, hsign, hden, hdiff⟩ := exists_sub_eq hx hy
  have hpos : (0 : ℚ) < den := by exact_mod_cast hden
  have hround : num ≠ 0 → 0 < roundRatio num.natAbs den := by
    intro hnum
    have hne : x.toRat ≠ y.toRat := by
      rw [ne_eq, ← sub_eq_zero, hdiff, div_eq_zero_iff, not_or]
      exact ⟨by exact_mod_cast hnum, hpos.ne'⟩
    have hfar := absolute_one_le hne
    rw [hdiff, abs_div, abs_of_pos hpos] at hfar
    exact roundRatio_pos hden (by rwa [Nat.cast_natAbs, Int.cast_abs])
  rw [hsub, compare?_zero_ofRatio hsign hround]
  refine congrArg some (compare_congr ?_ ?_)
  · rw [hdiff, lt_div_iff₀ hpos, zero_mul, Int.cast_pos]
  · rw [hdiff, div_lt_iff₀ hpos, zero_mul, Int.cast_lt_zero]

/-! ## Mixed comparison -/

theorem isAtLeast_iff (hx : x.isNaN = false) (hy : y.isNaN = false) :
    x.isAtLeast y = true ↔ y.exact ≤ x.exact := by
  rw [isAtLeast, compare?_eq hx hy, ← compare_ge_iff_ge]
  cases compare x.exact y.exact <;> decide

theorem isLess_iff (hx : x.isNaN = false) (hy : y.isNaN = false) :
    x.isLess y = true ↔ x.exact < y.exact := by
  rw [isLess, compare?_eq hx hy, ← compare_lt_iff_lt]
  cases compare x.exact y.exact <;> decide

theorem absolute_int64Bound : absolute int64Bound.magnitude = 2 ^ 63 := by
  rw [absolute, show significand int64Bound.magnitude = leadingBit by decide,
    show scale int64Bound.magnitude = 11 by decide, leadingBit]
  norm_num

/-- At or above the bound is what is at least `2 ^ 63`. -/
theorem isAtLeast_bound (hx : x.isNaN = false) :
    x.isAtLeast int64Bound = true ↔ exactInt (2 ^ 63) ≤ x.exact := by
  have hexact : int64Bound.exact = exactInt (2 ^ 63) := by
    rw [exact, if_pos (by decide), toRat, if_neg (by decide), absolute_int64Bound, exactInt]
    push_cast
    rfl
  rw [isAtLeast_iff hx (by decide), hexact]

/-- Below the negative bound is what is less than `-2 ^ 63`. -/
theorem isLess_bound (hx : x.isNaN = false) :
    x.isLess int64Bound.negate = true ↔ x.exact < exactInt (-2 ^ 63) := by
  have hexact : int64Bound.negate.exact = exactInt (-2 ^ 63) := by
    rw [exact, if_pos (by decide), toRat, if_pos (by decide),
      show int64Bound.negate.magnitude = int64Bound.magnitude by decide, absolute_int64Bound,
      exactInt]
    push_cast
    rfl
  rw [isLess_iff hx (by decide), hexact]

/-- Between the bounds there are only numbers. -/
theorem isFinite_of_bounds (hlow : exactInt (-2 ^ 63) ≤ x.exact)
    (hhigh : x.exact < exactInt (2 ^ 63)) :
    x.isFinite = true ∧ -2 ^ 63 ≤ x.toRat ∧ x.toRat < 2 ^ 63 := by
  unfold exact exactInt at *
  split_ifs at * with hfinite hneg
  · rw [WithBot.coe_le_coe, WithTop.coe_le_coe] at hlow
    rw [WithBot.coe_lt_coe, WithTop.coe_lt_coe] at hhigh
    exact ⟨hfinite, by exact_mod_cast hlow, by exact_mod_cast hhigh⟩
  · exact absurd hlow (WithBot.bot_lt_coe _).not_ge
  · exact absurd (WithBot.coe_lt_coe.1 hhigh) not_top_lt

theorem compare_exactInt (hx : x.isFinite = true) (i : Int) :
    compare (exactInt i) x.exact = compare (i : ℚ) x.toRat := by
  rw [exact, if_pos hx, exactInt]
  refine compare_congr ?_ ?_
  · rw [WithBot.coe_lt_coe, WithTop.coe_lt_coe]
  · rw [WithBot.coe_lt_coe, WithTop.coe_lt_coe]

theorem compare_toInt (i j : Int64) : compare i j = compare i.toInt j.toInt := by
  show compareOfLessAndEq i j = compareOfLessAndEq i.toInt j.toInt
  simp only [compareOfLessAndEq, Int64.lt_iff_toInt_lt, Int64.toInt_inj]

/-- A whole number that is not the whole part is on the side of the number that the whole part is
on. -/
theorem compare_whole {i : Int} (h : i ≠ x.whole) :
    compare i x.whole = compare (i : ℚ) x.toRat := by
  obtain ⟨⟨hlow, hhigh⟩, -⟩ := x.whole_spec
  rcases lt_or_gt_of_ne h with hlt | hgt
  · have hstep : (i : ℚ) + 1 ≤ x.whole := by exact_mod_cast hlt
    rw [compare_lt_iff_lt.2 hlt, compare_lt_iff_lt.2 (by linarith)]
  · have hstep : (x.whole : ℚ) + 1 ≤ i := by exact_mod_cast hgt
    rw [compare_gt_iff_gt.2 hgt, compare_gt_iff_gt.2 (by linarith)]

/-- Between the bounds the whole part fits into 64 bits. -/
theorem whole_mem (hlow : -2 ^ 63 ≤ x.toRat) (hhigh : x.toRat < 2 ^ 63) :
    -2 ^ 63 ≤ x.whole ∧ x.whole < 2 ^ 63 := by
  obtain ⟨-, hbelow, habove⟩ := x.whole_spec
  constructor
  · rcases habove with h | h
    · exact_mod_cast hlow.trans h
    · omega
  · rcases hbelow with h | h
    · exact_mod_cast h.trans_lt hhigh
    · omega

/-- Between the bounds truncation, cast and difference compare exactly. -/
theorem compareInt?_between (i : Int64) (hx : x.isNaN = false)
    (habove : x.isAtLeast int64Bound = false) (hbelow : x.isLess int64Bound.negate = false) :
    compareInt? i x = some (compare (exactInt i.toInt) x.exact) := by
  obtain ⟨hfinite, hmin, hmax⟩ := isFinite_of_bounds
    (not_lt.1 (mt (isLess_bound hx).2 (Bool.eq_false_iff.1 hbelow)))
    (not_le.1 (mt (isAtLeast_bound hx).2 (Bool.eq_false_iff.1 habove)))
  obtain ⟨hlow, hhigh⟩ := whole_mem hmin hmax
  rw [compare_exactInt hfinite, compareInt?, hx, habove, hbelow]
  simp only [Bool.false_eq_true, if_false]
  rw [compare_toInt, toInt_toInt64_truncate hfinite hlow hhigh]
  by_cases heq : i.toInt = x.whole
  · -- what was cut off decides
    rw [heq, compare_eq_iff_eq.2 rfl]
    dsimp only
    rw [compare?_zero_sub hfinite (isFinite_truncate hfinite), toRat_truncate]
    exact congrArg some (compare_congr sub_pos sub_neg)
  · have hne := mt compare_eq_iff_eq.1 heq
    rw [← compare_whole heq]
    generalize compare i.toInt x.whole = order at *
    cases order with
    | eq => exact absurd rfl hne
    | lt => rfl
    | gt => rfl

/-- A whole number of 64 bits is compared with a double exactly. -/
theorem compareInt?_eq (i : Int64) (hx : x.isNaN = false) :
    compareInt? i x = some (compare (exactInt i.toInt) x.exact) := by
  cases habove : x.isAtLeast int64Bound with
  | true =>
    have hmax : exactInt i.toInt < exactInt (2 ^ 63) := exactInt_lt_iff.2 i.toInt_lt
    rw [compare_lt_iff_lt.2 (hmax.trans_le ((isAtLeast_bound hx).1 habove))]
    simp [compareInt?, hx, habove]
  | false =>
    cases hbelow : x.isLess int64Bound.negate with
    | true =>
      have hmin : exactInt (-2 ^ 63) ≤ exactInt i.toInt := exactInt_le_iff.2 i.le_toInt
      rw [compare_gt_iff_gt.2 (((isLess_bound hx).1 hbelow).trans_le hmin)]
      simp [compareInt?, hx, habove, hbelow]
    | false => exact compareInt?_between i hx habove hbelow

-- of the two bounds only the negative one is a whole number of 64 bits
example : compareInt? 9223372036854775807 int64Bound = some .lt := by decide +kernel

example : compareInt? (-9223372036854775808) int64Bound.negate = some .eq := by decide +kernel

-- minus a half is cut to the zero with a sign, and the difference decides
example : compareInt? 0 ⟨0xBFE0000000000000⟩ = some .gt := by decide +kernel

end RecordQuery.Binary64
