import RecordQuery.Proofs.Number.Mixed
import RecordQuery.Proofs.Value.Order

/-!
# How far sorting is transitive

`Value.sortCompare` is transitive among all values but for two kinds of triples, both of which mix
whole numbers with doubles (`Value.sortCompare_trans_unless`).

* A NaN does not compare with a whole number, so their common rank makes them equal
  (`Value.Blurred`), whatever the whole number is.
* The whole number zero is equal to both zeros among the doubles, which are not equal to each other
  (`Value.BetweenZeros`).

Doubles are sorted by all of their bits and next to whole numbers by their exact values. The first
order refines the second (`Binary64.place_le`), which is what makes all other mixtures work.
-/

namespace RecordQuery

/-! ## Two orders of doubles -/

namespace Binary64

/-- The zero with a sign. -/
def negativeZero : Binary64 := ⟨0x8000000000000000⟩

variable {x y : Binary64}

/-- The order of all bits tells two doubles of one place apart only if they are the two zeros. -/
theorem zeros_of_place_eq (h : x.place = y.place) (hlt : y.totalPlace < x.totalPlace) :
    x = zero ∧ y = negativeZero := by
  have hx := x.bits_eq
  have hy := y.bits_eq
  unfold place at h
  unfold totalPlace at hlt
  have hbits : x.bits.toNat = 0 ∧ y.bits.toNat = signBit := by
    split_ifs at * <;> omega
  have heq {z w : Binary64} (h : z.bits.toNat = w.bits.toNat) : z = w := by
    cases z
    cases w
    exact congrArg mk (UInt64.toNat_inj.1 h)
  exact ⟨heq hbits.1, heq hbits.2⟩

theorem exact_zero : zero.exact = exactInt 0 := by
  have habsolute : absolute 0 = 0 := absolute_eq_zero_iff.2 rfl
  have hrat : zero.toRat = absolute 0 := rfl
  have hexact : zero.exact = ((zero.toRat : WithTop ℚ) : WithBot (WithTop ℚ)) := rfl
  rw [hexact, hrat, habsolute, exactInt, Int.cast_zero]

theorem exact_negativeZero : negativeZero.exact = exactInt 0 := by
  have habsolute : absolute 0 = 0 := absolute_eq_zero_iff.2 rfl
  have hrat : negativeZero.toRat = -absolute 0 := rfl
  have hexact : negativeZero.exact = ((negativeZero.toRat : WithTop ℚ) : WithBot (WithTop ℚ)) := rfl
  rw [hexact, hrat, habsolute, exactInt, Int.cast_zero, neg_zero]

theorem exact_le (hx : x.isNaN = false) (hy : y.isNaN = false)
    (h : x.totalPlace ≤ y.totalPlace) : x.exact ≤ y.exact := by
  rw [← not_lt, exact_lt_iff hy hx, not_lt]
  exact place_le h

end Binary64

namespace Value

open Binary64 (exactInt)

/-- A whole number next to a NaN, with which it does not compare. -/
def Blurred : Value → Value → Prop
  | .int _, .float x => x.isNaN = true
  | .float x, .int _ => x.isNaN = true
  | _, _ => False

/-- The whole number zero between the two zeros among the doubles, of which the greater one comes
first. -/
def BetweenZeros (a b c : Value) : Prop :=
  a = .float .zero ∧ b = .int 0 ∧ c = .float .negativeZero

/-! ## Ranks -/

variable {a b c : Value}

theorem sortCompare_of_rank_lt (h : a.rank < b.rank) : sortCompare a b = .lt := by
  cases a <;> cases b <;> simp [rank] at h <;> rfl

theorem rank_le_of_isLE (h : (sortCompare a b).isLE) : a.rank ≤ b.rank := by
  by_contra hlt
  rw [sortCompare_swap, sortCompare_of_rank_lt (Nat.lt_of_not_le hlt)] at h
  cases h

theorem kind?_eq_of_rank_eq (h : a.rank = b.rank) (hn : a.rank ≠ 2) : a.kind? = b.kind? := by
  cases a <;> cases b <;> simp [rank] at h hn <;> rfl

/-- Values of the same kind, or both missing, may stand in one field. -/
theorem exists_fits (a : Value) : ∃ k, ∀ b : Value, a.kind? = b.kind? → b.Fits k := by
  cases hk : a.kind? with
  | none => exact ⟨.bool, fun b hb => by cases b <;> first | exact .inl rfl | cases hb⟩
  | some k => exact ⟨k, fun b hb => .inr hb.symm⟩

theorem number_of_rank (h : a.rank = 2) : (∃ i, a = .int i) ∨ ∃ x, a = .float x := by
  cases a <;> simp [rank] at h ⊢

/-! ## Numbers -/

variable {i k : Int64} {x y : Binary64}

theorem isLE_int_int : (sortCompare (.int i) (.int k)).isLE ↔ exactInt i ≤ exactInt k := by
  have h : sortCompare (.int i) (.int k) = compare i.toInt k.toInt := Binary64.compare_toInt i k
  rw [h, Binary64.exactInt_le_iff]
  exact Int.isLE_compare

theorem isLE_int_float (hx : x.isNaN = false) :
    (sortCompare (.int i) (.float x)).isLE ↔ exactInt i ≤ x.exact := by
  have h : sortCompare (.int i) (.float x) = compare (exactInt i) x.exact := by
    show (Binary64.compareInt? i x).getD _ = _
    rw [Binary64.compareInt?_eq i hx]
    rfl
  rw [h]
  exact Std.LawfulBCmp.isLE_iff_le

theorem isLE_float_int (hx : x.isNaN = false) :
    (sortCompare (.float x) (.int i)).isLE ↔ x.exact ≤ exactInt i := by
  have h : sortCompare (.float x) (.int i) = compare x.exact (exactInt i) := by
    show ((Binary64.compareInt? i x).map Ordering.swap).getD _ = _
    rw [Binary64.compareInt?_eq i hx]
    exact Std.OrientedOrd.eq_swap.symm
  rw [h]
  exact Std.LawfulBCmp.isLE_iff_le

theorem isLE_float_float :
    (sortCompare (.float x) (.float y)).isLE ↔ x.totalPlace ≤ y.totalPlace :=
  Int.isLE_compare

theorem sortCompare_int_nan (hx : x.isNaN = true) :
    sortCompare (.int i) (.float x) = .eq ∧ sortCompare (.float x) (.int i) = .eq := by
  have h : Binary64.compareInt? i x = none := by rw [Binary64.compareInt?, hx]; rfl
  constructor
  · show (Binary64.compareInt? i x).getD _ = _
    rw [h]
    rfl
  · show ((Binary64.compareInt? i x).map Ordering.swap).getD _ = _
    rw [h]
    rfl

theorem sortCompare_of_blurred (h : Blurred a b) : sortCompare a b = .eq := by
  unfold Blurred at h
  split at h
  · exact (sortCompare_int_nan h).1
  · exact (sortCompare_int_nan h).2
  · exact h.elim

/-- Numbers that compare with each other are sorted transitively, unless the zeros are mixed up. -/
theorem sortCompare_trans_of_rank (ha : a.rank = 2) (hb : b.rank = 2) (hc : c.rank = 2)
    (hab : (sortCompare a b).isLE) (hbc : (sortCompare b c).isLE) (hblur : ¬ Blurred a b)
    (hblur' : ¬ Blurred b c) (hzeros : ¬ BetweenZeros a b c) : (sortCompare a c).isLE := by
  have comparable {x : Binary64} (h : ¬ x.isNaN = true) : x.isNaN = false :=
    Bool.eq_false_of_not_eq_true h
  rcases number_of_rank ha with ⟨i, rfl⟩ | ⟨x, rfl⟩ <;>
    rcases number_of_rank hb with ⟨k, rfl⟩ | ⟨y, rfl⟩ <;>
      rcases number_of_rank hc with ⟨m, rfl⟩ | ⟨z, rfl⟩
  -- next to a whole number the exact values decide, which are ordered as the places of doubles are
  · rw [isLE_int_int] at *
    exact hab.trans hbc
  · have hz := comparable hblur'
    rw [isLE_int_int] at hab
    rw [isLE_int_float hz] at *
    exact hab.trans hbc
  · have hy := comparable hblur
    rw [isLE_int_float hy] at hab
    rw [isLE_float_int hy] at hbc
    exact isLE_int_int.2 (hab.trans hbc)
  · -- a NaN at the end is equal to every whole number
    have hy := comparable hblur
    rw [isLE_int_float hy] at hab
    rw [isLE_float_float] at hbc
    cases hz : z.isNaN with
    | true => rw [(sortCompare_int_nan hz).1]; rfl
    | false => exact (isLE_int_float hz).2 (hab.trans (Binary64.exact_le hy hz hbc))
  · have hx := comparable hblur
    rw [isLE_int_int] at hbc
    rw [isLE_float_int hx] at *
    exact hab.trans hbc
  · -- the middle decides unless the exact values are the same
    have hx := comparable hblur
    have hz := comparable hblur'
    rw [isLE_float_int hx] at hab
    rw [isLE_int_float hz] at hbc
    rw [isLE_float_float]
    by_contra hlt
    have hplace : x.place = z.place := by
      refine le_antisymm ?_ (Binary64.place_le (le_of_not_ge hlt))
      rw [← not_lt, ← Binary64.exact_lt_iff hz hx, not_lt]
      exact hab.trans hbc
    obtain ⟨rfl, rfl⟩ := Binary64.zeros_of_place_eq hplace (lt_of_not_ge hlt)
    rw [Binary64.exact_zero, Binary64.exactInt_le_iff] at hab
    rw [Binary64.exact_negativeZero, Binary64.exactInt_le_iff] at hbc
    exact hzeros ⟨rfl, congrArg Value.int (Int64.toInt_inj.1 (le_antisymm hbc hab)), rfl⟩
  · have hy := comparable hblur'
    rw [isLE_float_float] at hab
    rw [isLE_float_int hy] at hbc
    cases hx : x.isNaN with
    | true => rw [(sortCompare_int_nan hx).2]; rfl
    | false => exact (isLE_float_int hx).2 ((Binary64.exact_le hx hy hab).trans hbc)
  · rw [isLE_float_float] at *
    exact hab.trans hbc

/-! ## All values -/

/-- Turning the arguments around turns the answer around. Sorting is transitive unless a whole
number meets a NaN or stands between the two zeros of the doubles. Next to a NaN it cannot be, as
that is equal to all whole numbers. -/
theorem sortCompare_trans_unless (a b c : Value) :
    sortCompare a b = (sortCompare b a).swap ∧
    ((sortCompare a b).isLE → (sortCompare b c).isLE → ¬ Blurred a b → ¬ Blurred b c →
      ¬ BetweenZeros a b c → (sortCompare a c).isLE) ∧
    (Blurred a b → sortCompare a b = .eq) := by
  refine ⟨sortCompare_swap b a, fun hab hbc hblur hblur' hzeros => ?_, fun hblur => ?_⟩
  · have hrank := rank_le_of_isLE hab
    have hrank' := rank_le_of_isLE hbc
    by_cases hlt : a.rank < c.rank
    · rw [sortCompare_of_rank_lt hlt]
      rfl
    · have hb : a.rank = b.rank := by omega
      have hc : a.rank = c.rank := by omega
      by_cases hnumber : a.rank = 2
      · exact sortCompare_trans_of_rank hnumber (hb ▸ hnumber) (hc ▸ hnumber) hab hbc hblur hblur'
          hzeros
      · obtain ⟨k, hk⟩ := a.exists_fits
        exact Fits.sortCompare_trans (hk a rfl) (hk b (kind?_eq_of_rank_eq hb hnumber))
          (hk c (kind?_eq_of_rank_eq hc hnumber)) hab hbc
  · exact sortCompare_of_blurred hblur

/-- The whole number zero may stand between the two zeros in their own order. -/
theorem sortCompare_trans_unless_ordered_zeros :
    (sortCompare (.float .negativeZero) (.int 0)).isLE ∧
      (sortCompare (.int 0) (.float .zero)).isLE ∧
      (sortCompare (.float .negativeZero) (.float .zero)).isLE := by
  have hab : (sortCompare (.float .negativeZero) (.int 0)).isLE :=
    (isLE_float_int rfl).2 Binary64.exact_negativeZero.le
  have hbc : (sortCompare (.int 0) (.float .zero)).isLE :=
    (isLE_int_float rfl).2 Binary64.exact_zero.ge
  have hordered : ¬ BetweenZeros (.float .negativeZero) (.int 0) (.float .zero) :=
    fun h => absurd h.1 (by decide)
  exact ⟨hab, hbc, (sortCompare_trans_unless _ _ _).2.1 hab hbc Bool.false_ne_true
    Bool.false_ne_true hordered⟩

/-- Two is not above a NaN, nor that above one; and the greater zero is not above the whole number
zero, nor that above the lesser zero. -/
theorem sortCompare_not_trans :
    ((sortCompare (.int 2) (.float ⟨0x7ff8000000000000⟩)).isLE ∧
      (sortCompare (.float ⟨0x7ff8000000000000⟩) (.int 1)).isLE ∧
      ¬ (sortCompare (.int 2) (.int 1)).isLE) ∧
    (sortCompare (.float .zero) (.int 0)).isLE ∧
      (sortCompare (.int 0) (.float .negativeZero)).isLE ∧
      ¬ (sortCompare (.float .zero) (.float .negativeZero)).isLE := by
  refine ⟨by decide, ?_, ?_, by decide⟩
  · exact (isLE_float_int rfl).2 Binary64.exact_zero.le
  · exact (isLE_int_float rfl).2 Binary64.exact_negativeZero.ge

end Value

end RecordQuery
