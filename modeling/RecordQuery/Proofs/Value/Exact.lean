import RecordQuery.Proofs.Value.Transitivity

/-!
# Comparing numbers exactly

`Value.rational?` is the rational number or the infinity that a number stands for; a NaN stands for
none. Whole numbers and doubles compare by these in any mixture (`Value.compare?_of_number`), since
none of the steps of a mixed comparison loses anything (`Binary64.compareInt?_eq`). So the comparison
of numbers is as transitive as the order of the rationals with both infinities
(`Value.compare?_exact`).
-/

namespace RecordQuery

namespace Value

open Binary64 (exactInt)

/-- A whole number or a double. -/
def IsNumber (v : Value) : Prop := (∃ i, v = .int i) ∨ ∃ x, v = .float x

/-- Whether a value is a double that is no number. -/
def IsNaN (v : Value) : Prop := ∃ x, v = .float x ∧ x.isNaN = true

/-- The number or the infinity that a value stands for. -/
def rational? : Value → Option (WithBot (WithTop ℚ))
  | .int i => some (exactInt i)
  | .float x => if x.isNaN then none else some x.exact
  | _ => none

variable {a b c : Value}

theorem IsNumber.rational?_eq_none_iff (h : a.IsNumber) : a.rational? = none ↔ a.IsNaN := by
  rcases h with ⟨i, rfl⟩ | ⟨x, rfl⟩ <;> simp [rational?, IsNaN]

/-- The zeros of the doubles stand for the same number as the whole number zero. -/
theorem rational?_zeros (h : a = .float .zero ∨ a = .float .negativeZero) :
    a.rational? = (Value.int 0).rational? := by
  rcases h with rfl | rfl
  · exact congrArg some Binary64.exact_zero
  · exact congrArg some Binary64.exact_negativeZero

/-- Numbers compare by what they stand for, and what stands for nothing does not compare. -/
theorem compare?_of_number (ha : a.IsNumber) (hb : b.IsNumber) :
    a.compare? b = a.rational?.bind fun x => b.rational?.map fun y => compare x y := by
  rcases ha with ⟨i, rfl⟩ | ⟨x, rfl⟩ <;> rcases hb with ⟨k, rfl⟩ | ⟨y, rfl⟩
  · show some (compare i k) = some (compare (exactInt i) (exactInt k))
    rw [Binary64.compare_toInt]
    exact congrArg some
      (Binary64.compare_congr Binary64.exactInt_lt_iff Binary64.exactInt_lt_iff).symm
  · show Binary64.compareInt? i y = _
    cases hy : y.isNaN with
    | true => simp [Binary64.compareInt?, rational?, hy]
    | false => simp [Binary64.compareInt?_eq i hy, rational?, hy]
  · show (Binary64.compareInt? k x).map Ordering.swap = _
    cases hx : x.isNaN with
    | true => simp [Binary64.compareInt?, rational?, hx]
    | false =>
      have hswap : (compare (exactInt k) x.exact).swap = compare x.exact (exactInt k) :=
        Std.OrientedOrd.eq_swap.symm
      simp [Binary64.compareInt?_eq k hx, rational?, hx, hswap]
  · show Binary64.compare? x y = _
    cases hx : x.isNaN with
    | true => simp [Binary64.compare?, rational?, hx]
    | false =>
      cases hy : y.isNaN with
      | true => simp [Binary64.compare?, rational?, hy]
      | false => simp [Binary64.compare?_eq hx hy, rational?, hx, hy]

theorem compare?_eq_some_iff (ha : a.IsNumber) (hb : b.IsNumber) {o : Ordering} :
    a.compare? b = some o ↔
      ∃ x y, a.rational? = some x ∧ b.rational? = some y ∧ compare x y = o := by
  rw [compare?_of_number ha hb]
  simp only [Option.bind_eq_some_iff, Option.map_eq_some_iff]
  constructor
  · rintro ⟨x, hx, y, hy, h⟩
    exact ⟨x, y, hx, hy, h⟩
  · rintro ⟨x, y, hx, hy, h⟩
    exact ⟨x, hx, y, hy, h⟩

theorem compare?_eq_none_iff (ha : a.IsNumber) (hb : b.IsNumber) :
    a.compare? b = none ↔ a.IsNaN ∨ b.IsNaN := by
  rw [compare?_of_number ha hb, ← ha.rational?_eq_none_iff, ← hb.rational?_eq_none_iff]
  cases a.rational? <;> cases b.rational? <;> simp

/-- In an order two answers decide a third one if they agree or one of them is equality. -/
theorem cmp_trans {γ : Type} {cmp : γ → γ → Ordering} [Std.TransCmp cmp] {x y z : γ}
    {o o' : Ordering} (hxy : cmp x y = o) (hyz : cmp y z = o') :
    (o' = o ∨ o' = .eq → cmp x z = o) ∧ (o = .eq → cmp x z = o') := by
  refine ⟨?_, ?_⟩
  · rintro (rfl | rfl)
    · cases o' with
      | lt => exact Std.TransCmp.lt_trans hxy hyz
      | eq => exact Std.TransCmp.eq_trans hxy hyz
      | gt => exact Std.TransCmp.gt_trans hxy hyz
    · rw [← Std.TransCmp.congr_right hyz, hxy]
  · rintro rfl
    rw [Std.TransCmp.congr_left hxy, hyz]

theorem IsNumber.compare?_trans (ha : a.IsNumber) (hb : b.IsNumber) (hc : c.IsNumber)
    {o o' : Ordering} (hab : a.compare? b = some o) (hbc : b.compare? c = some o') :
    (o' = o ∨ o' = .eq → a.compare? c = some o) ∧ (o = .eq → a.compare? c = some o') := by
  obtain ⟨x, y, hx, hy, hxy⟩ := (compare?_eq_some_iff ha hb).1 hab
  obtain ⟨y', z, hy', hz, hyz⟩ := (compare?_eq_some_iff hb hc).1 hbc
  obtain rfl : y = y' := Option.some.inj (hy.symm.trans hy')
  have hac : a.compare? c = some (compare x z) :=
    (compare?_eq_some_iff ha hc).2 ⟨x, z, hx, hz, rfl⟩
  have htrans := cmp_trans hxy hyz
  exact ⟨fun h => hac.trans (congrArg some (htrans.1 h)),
    fun h => hac.trans (congrArg some (htrans.2 h))⟩

/-- Two numbers do not compare if one of them is a NaN, and otherwise as the rational numbers or
infinities that they stand for do, the zeros all standing for one. So equal numbers compare alike
with every number, and what holds of one number and a second and of the second and a third holds of
the first and the third. -/
theorem compare?_exact (ha : a.IsNumber) (hb : b.IsNumber) (hc : c.IsNumber) :
    (a.compare? b = none ↔ a.IsNaN ∨ b.IsNaN) ∧
    (¬ a.IsNaN → ¬ b.IsNaN → ∃ x y, a.rational? = some x ∧ b.rational? = some y ∧
      a.compare? b = some (compare x y)) ∧
    (a = .float .zero ∨ a = .float .negativeZero → a.rational? = (Value.int 0).rational?) ∧
    ∀ o o', a.compare? b = some o → b.compare? c = some o' →
      (o' = o ∨ o' = .eq → a.compare? c = some o) ∧ (o = .eq → a.compare? c = some o') := by
  refine ⟨compare?_eq_none_iff ha hb, fun hna hnb => ?_, rational?_zeros,
    fun o o' => ha.compare?_trans hb hc⟩
  obtain ⟨o, ho⟩ := Option.ne_none_iff_exists'.1
    (mt (compare?_eq_none_iff ha hb).1 (not_or.2 ⟨hna, hnb⟩))
  obtain ⟨x, y, hx, hy, rfl⟩ := (compare?_eq_some_iff ha hb).1 ho
  exact ⟨x, y, hx, hy, ho⟩

/-- The greatest whole number of 64 bits lies below the double `2 ^ 63`, and that below infinity. -/
theorem compare?_exact_infinity : (Value.int 9223372036854775807).compare?
    (.float ⟨0x7ff0000000000000⟩) = some .lt := by
  have hbound : IsNumber (.float ⟨0x43e0000000000000⟩) := .inr ⟨_, rfl⟩
  exact ((compare?_exact (.inl ⟨9223372036854775807, rfl⟩) hbound (.inr ⟨⟨0x7ff0000000000000⟩, rfl⟩)
    ).2.2.2 .lt .lt (by decide +kernel) (by decide +kernel)).1 (.inl rfl)

end Value

end RecordQuery
