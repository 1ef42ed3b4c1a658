import Mathlib.Data.Rat.Cast.Order
import Mathlib.Order.WithBot
import Mathlib.Tactic.FieldSimp
import Mathlib.Tactic.Linarith
import Mathlib.Tactic.NormNum
import Mathlib.Tactic.Positivity
import Mathlib.Tactic.Ring
import Mathlib.Tactic.SplitIfs
import RecordQuery.Number.Binary64

/-!
# Exact values of doubles

Finite bits stand for a rational number (`Binary64.toRat`), and bits that are no NaN for a number or
one of the two infinities (`Binary64.exact`). Doubles are compared with each other by their exact
values (`Binary64.compare?_eq`).

A finite double is a whole number of units of `2 ^ -1074`, the least positive double, and the number
of units grows with the magnitude (`Binary64.strictMono_units`).
-/

namespace RecordQuery.Binary64

/-! ## Units -/

/-- A magnitude in units of the least positive double. -/
def units (m : Nat) : Nat := significand m * 2 ^ (scale m + 1074).toNat

theorem units_small {m : Nat} (h : m < leadingBit) : units m = m := by
  simp [units, significand, scale, h]

theorem one_le_exponent {m : Nat} (h : leadingBit ≤ m) : 1 ≤ m / leadingBit :=
  (Nat.one_le_div_iff (by decide)).2 h

theorem units_large {m : Nat} (h : leadingBit ≤ m) :
    units m = (leadingBit + m % leadingBit) * 2 ^ (m / leadingBit - 1) := by
  have hexp := one_le_exponent h
  have hscale : (((m / leadingBit : Nat) : Int) - 1075 + 1074).toNat = m / leadingBit - 1 := by
    omega
  rw [units, significand, scale, if_neg (Nat.not_lt_of_le h), if_neg (Nat.not_lt_of_le h), hscale]

/-- The digits of a magnitude count less than a step of its exponent. -/
theorem units_lt (m : Nat) : units m < leadingBit * 2 ^ (m / leadingBit) := by
  rcases Nat.lt_or_ge m leadingBit with h | h
  · rw [units_small h, Nat.div_eq_of_lt h]
    simpa using h
  · have hdigits : m % leadingBit < leadingBit := Nat.mod_lt _ (by decide)
    have hexp : m / leadingBit - 1 + 1 = m / leadingBit := Nat.sub_add_cancel (one_le_exponent h)
    calc units m = (leadingBit + m % leadingBit) * 2 ^ (m / leadingBit - 1) := units_large h
      _ < (leadingBit * 2) * 2 ^ (m / leadingBit - 1) :=
        Nat.mul_lt_mul_of_pos_right (by omega) (Nat.two_pow_pos _)
      _ = leadingBit * 2 ^ (m / leadingBit) := by rw [Nat.mul_assoc, ← pow_succ', hexp]

theorem strictMono_units : StrictMono units := by
  intro a b h
  have ha := Nat.div_add_mod a leadingBit
  have hb := Nat.div_add_mod b leadingBit
  rcases Nat.lt_or_ge b leadingBit with hsmall | hlarge
  · rwa [units_small (h.trans hsmall), units_small hsmall]
  · have hexp := one_le_exponent hlarge
    rw [units_large hlarge]
    rcases (Nat.div_le_div_right h.le : a / leadingBit ≤ b / leadingBit).lt_or_eq with hlt | heq
    · calc units a < leadingBit * 2 ^ (a / leadingBit) := units_lt a
        _ ≤ leadingBit * 2 ^ (b / leadingBit - 1) :=
          Nat.mul_le_mul_left _ (Nat.pow_le_pow_right (by decide) (by omega))
        _ ≤ (leadingBit + b % leadingBit) * 2 ^ (b / leadingBit - 1) :=
          Nat.mul_le_mul_right _ (Nat.le_add_right _ _)
    · -- with the same exponent the digits decide
      have hlarge' : leadingBit ≤ a := (Nat.one_le_div_iff (by decide)).1 (heq ▸ hexp)
      rw [heq] at ha
      rw [units_large hlarge', heq]
      exact Nat.mul_lt_mul_of_pos_right (by omega) (Nat.two_pow_pos _)

/-! ## Exact values -/

/-- The absolute value that a finite magnitude stands for. -/
def absolute (m : Nat) : ℚ := significand m * 2 ^ scale m

/-- The number that finite bits stand for. -/
def toRat (x : Binary64) : ℚ := if x.isNegative then -absolute x.magnitude else absolute x.magnitude

/-- The number or the infinity that bits other than a NaN stand for. -/
def exact (x : Binary64) : WithBot (WithTop ℚ) :=
  if x.isFinite then ((x.toRat : WithTop ℚ) : WithBot (WithTop ℚ))
  else if x.isNegative then ⊥ else ((⊤ : WithTop ℚ) : WithBot (WithTop ℚ))

/-- A whole number among the exact values. -/
def exactInt (i : Int) : WithBot (WithTop ℚ) := ((i : ℚ) : WithTop ℚ)

theorem neg_1074_le_scale (m : Nat) : -1074 ≤ scale m := by
  unfold scale
  split_ifs with h
  · exact le_rfl
  · have hexp := one_le_exponent (Nat.le_of_not_lt h)
    omega

theorem absolute_eq (m : Nat) : absolute m = units m / 2 ^ 1074 := by
  have hscale : (2 : ℚ) ^ scale m * 2 ^ 1074 = 2 ^ (scale m + 1074).toNat := by
    have hexp : scale m + (1074 : Nat) = ((scale m + 1074).toNat : Int) := by
      have := neg_1074_le_scale m
      omega
    rw [← zpow_natCast (2 : ℚ) 1074, ← zpow_natCast (2 : ℚ) (scale m + 1074).toNat,
      ← zpow_add₀ (by norm_num), hexp]
  rw [eq_div_iff (by positivity), absolute, mul_assoc, hscale, units]
  push_cast
  rfl

theorem absolute_le_iff {m n : Nat} : absolute m ≤ absolute n ↔ m ≤ n := by
  rw [absolute_eq, absolute_eq, div_le_div_iff_of_pos_right (by positivity), Nat.cast_le,
    strictMono_units.le_iff_le]

theorem absolute_nonneg (m : Nat) : 0 ≤ absolute m :=
  mul_nonneg (Nat.cast_nonneg _) (zpow_nonneg (by norm_num) _)

theorem absolute_eq_zero_iff {m : Nat} : absolute m = 0 ↔ m = 0 := by
  have hzero : absolute 0 = 0 := by simp [absolute_eq, units_small (m := 0) (by decide)]
  rw [← Nat.le_zero, ← absolute_le_iff, hzero, le_antisymm_iff, and_iff_left (absolute_nonneg m)]

/-- Numbers are ordered as their places are. -/
theorem toRat_lt_iff {x y : Binary64} : x.toRat < y.toRat ↔ x.place < y.place := by
  have hx := absolute_nonneg x.magnitude
  have hy := absolute_nonneg y.magnitude
  have hxzero := @absolute_eq_zero_iff x.magnitude
  have hyzero := @absolute_eq_zero_iff y.magnitude
  rw [toRat, toRat, place, place]
  split_ifs
  · rw [neg_lt_neg_iff, neg_lt_neg_iff, Nat.cast_lt, ← not_le, absolute_le_iff, not_le]
  · -- a negative number is below a positive one unless both are zero
    rw [← not_le, ← not_le, not_iff_not]
    constructor
    · intro h
      have hx0 : x.magnitude = 0 := hxzero.1 (by linarith)
      have hy0 : y.magnitude = 0 := hyzero.1 (by linarith)
      omega
    · intro h
      rw [hxzero.2 (by omega), hyzero.2 (by omega), neg_zero]
  · constructor
    · intro h
      linarith
    · intro h
      omega
  · rw [Nat.cast_lt, ← not_le, absolute_le_iff, not_le]

/-- The order of all bits refines the order of places. -/
theorem place_le {x y : Binary64} (h : x.totalPlace ≤ y.totalPlace) : x.place ≤ y.place := by
  unfold totalPlace at h
  unfold place
  split_ifs at * <;> omega

/-! ## Bits -/

theorem bits_eq (x : Binary64) :
    x.bits.toNat = x.magnitude + if x.isNegative then signBit else 0 := by
  have hlt : x.bits.toNat < signBit + signBit := x.bits.toNat_lt
  cases hx : x.isNegative with
  | false =>
    have hsmall : ¬ signBit ≤ x.bits.toNat := of_decide_eq_false hx
    exact (Nat.mod_eq_of_lt (Nat.lt_of_not_le hsmall)).symm
  | true =>
    have hlarge : signBit ≤ x.bits.toNat := of_decide_eq_true hx
    have hrest : x.magnitude = x.bits.toNat - signBit := by
      rw [magnitude, Nat.mod_eq_sub_mod hlarge, Nat.mod_eq_of_lt (by omega)]
    rw [hrest]
    exact (Nat.sub_add_cancel hlarge).symm

theorem ofMagnitude_magnitude (x : Binary64) : ofMagnitude x.isNegative x.magnitude = x := by
  rw [ofMagnitude, ← bits_eq, UInt64.ofNat_toNat]

theorem magnitude_ofMagnitude (negative : Bool) {m : Nat} (h : m < signBit) :
    (ofMagnitude negative m).magnitude = m := by
  unfold magnitude ofMagnitude signBit at *
  cases negative <;> simp <;> omega

theorem isNegative_ofMagnitude (negative : Bool) {m : Nat} (h : m < signBit) :
    (ofMagnitude negative m).isNegative = negative := by
  unfold isNegative ofMagnitude signBit at *
  cases negative <;> simp <;> omega

theorem magnitude_lt_signBit (x : Binary64) : x.magnitude < signBit := Nat.mod_lt _ (by decide)

theorem toRat_ofMagnitude (negative : Bool) {m : Nat} (h : m < signBit) :
    (ofMagnitude negative m).toRat = if negative then -absolute m else absolute m := by
  rw [toRat, isNegative_ofMagnitude negative h, magnitude_ofMagnitude negative h]

/-! ## Whole numbers -/

/-- The whole part of a magnitude is the greatest whole number that is not above it. -/
theorem wholePart_spec (m : Nat) : (wholePart m : ℚ) ≤ absolute m ∧ absolute m < wholePart m + 1 := by
  unfold wholePart absolute
  dsimp only
  generalize significand m = n
  generalize scale m = q
  split_ifs with hq
  · obtain ⟨k, rfl⟩ := Int.eq_ofNat_of_zero_le hq
    have hvalue : (n : ℚ) * 2 ^ (k : Int) = (n * Nat.pow 2 k : Nat) := by
      rw [zpow_natCast, Nat.pow_eq]
      push_cast
      rfl
    rw [Int.toNat_natCast, hvalue]
    exact ⟨le_rfl, lt_add_one _⟩
  · obtain ⟨k, hk⟩ := Int.exists_eq_neg_ofNat (Int.le_of_not_le hq)
    obtain rfl : q = -(k : Int) := hk
    have hpos : (0 : ℚ) < 2 ^ k := by positivity
    have hvalue : (n : ℚ) * 2 ^ (-(k : Int)) = n / 2 ^ k := by
      rw [zpow_neg, zpow_natCast, div_eq_mul_inv]
    have hdiv : (n / 2 ^ k * 2 ^ k + n % 2 ^ k : Nat) = n := Nat.div_add_mod' n (2 ^ k)
    have hrest : n % 2 ^ k < 2 ^ k := Nat.mod_lt _ (Nat.two_pow_pos k)
    rw [neg_neg, Int.toNat_natCast, Nat.pow_eq, hvalue, le_div_iff₀ hpos, div_lt_iff₀ hpos]
    norm_cast
    refine ⟨by omega, ?_⟩
    rw [Nat.succ_mul]
    omega

/-- Between a number and its whole part there is less than one, and the whole part is nearer to
zero. -/
theorem whole_spec (x : Binary64) : (x.whole - 1 < x.toRat ∧ x.toRat < x.whole + 1) ∧
    ((x.whole : ℚ) ≤ x.toRat ∨ x.whole ≤ 0) ∧ (x.toRat ≤ x.whole ∨ 0 ≤ x.whole) := by
  obtain ⟨hle, hlt⟩ := wholePart_spec x.magnitude
  unfold whole toRat
  split_ifs
  · push_cast
    exact ⟨⟨by linarith, by linarith⟩, .inr (by omega), .inl (by linarith)⟩
  · push_cast
    exact ⟨⟨by linarith, by linarith⟩, .inl hle, .inr (by omega)⟩

/-- A number that is whole is its own whole part. -/
theorem whole_eq {x : Binary64} {i : Int} (h : x.toRat = i) : x.whole = i := by
  obtain ⟨⟨hlow, hhigh⟩, -⟩ := x.whole_spec
  rw [h] at hlow hhigh
  norm_cast at hlow hhigh
  omega

theorem isNaN_eq_false_of_isFinite {x : Binary64} (h : x.isFinite = true) : x.isNaN = false := by
  rw [isFinite, decide_eq_true_eq] at h
  exact decide_eq_false (Nat.not_lt_of_le h.le)

/-! ## Comparing -/

theorem magnitude_of_not_isFinite {x : Binary64} (hx : x.isNaN = false)
    (hfinite : x.isFinite = false) : x.magnitude = infinite := by
  rw [isNaN, decide_eq_false_iff_not] at hx
  rw [isFinite, decide_eq_false_iff_not] at hfinite
  omega

theorem exactInt_le_iff {i k : Int} : exactInt i ≤ exactInt k ↔ i ≤ k := by
  simp [exactInt]

theorem exactInt_lt_iff {i k : Int} : exactInt i < exactInt k ↔ i < k :=
  lt_iff_lt_of_le_iff_le exactInt_le_iff

/-- Exact values are ordered as places are. -/
theorem exact_lt_iff {x y : Binary64} (hx : x.isNaN = false) (hy : y.isNaN = false) :
    x.exact < y.exact ↔ x.place < y.place := by
  have hpos : 0 < infinite := by decide
  have hfinite : ∀ {z : Binary64}, z.isFinite = true → z.magnitude < infinite :=
    fun h => of_decide_eq_true h
  cases hfx : x.isFinite <;> cases hfy : y.isFinite
  · have hmx := magnitude_of_not_isFinite hx hfx
    have hmy := magnitude_of_not_isFinite hy hfy
    cases hsx : x.isNegative <;> cases hsy : y.isNegative <;>
      simp [exact, place, hfx, hfy, hsx, hsy, hmx, hmy]
    omega
  · have hmx := magnitude_of_not_isFinite hx hfx
    have hmy := hfinite hfy
    cases hsx : x.isNegative <;> cases hsy : y.isNegative <;>
      simp [exact, place, hfx, hfy, hsx, hsy, hmx] <;> omega
  · have hmx := hfinite hfx
    have hmy := magnitude_of_not_isFinite hy hfy
    cases hsx : x.isNegative <;> cases hsy : y.isNegative <;>
      simp [-WithBot.coe_top, exact, place, hfx, hfy, hsx, hsy, hmy, WithTop.coe_lt_top] <;> omega
  · simp only [exact, hfx, hfy, if_true, WithBot.coe_lt_coe, WithTop.coe_lt_coe]
    exact toRat_lt_iff

theorem compare_congr {α β : Type} [LinearOrder α] [LinearOrder β] {a b : α} {c d : β}
    (hlt : a < b ↔ c < d) (hgt : b < a ↔ d < c) : compare a b = compare c d := by
  rcases lt_trichotomy a b with h | h | h
  · rw [compare_lt_iff_lt.2 h, compare_lt_iff_lt.2 (hlt.1 h)]
  · have heq : c = d := le_antisymm (not_lt.1 fun h' => (hgt.2 h').ne' h)
      (not_lt.1 fun h' => (hlt.2 h').ne h)
    rw [compare_eq_iff_eq.2 h, compare_eq_iff_eq.2 heq]
  · rw [compare_gt_iff_gt.2 h, compare_gt_iff_gt.2 (hgt.1 h)]

/-- Doubles are compared exactly. -/
theorem compare?_eq {x y : Binary64} (hx : x.isNaN = false) (hy : y.isNaN = false) :
    compare? x y = some (compare x.exact y.exact) := by
  rw [compare?, hx, hy]
  exact congrArg some (compare_congr (exact_lt_iff hx hy) (exact_lt_iff hy hx)).symm

end RecordQuery.Binary64
