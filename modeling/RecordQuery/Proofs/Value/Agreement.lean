import RecordQuery.Proofs.Value.Exact
import RecordQuery.Query.Test

/-!
# Filtering and sorting agree

Filters compare values by `Value.compare?`, and records are sorted by `Value.sortCompare`. Filters
compare values of one rank that are neither missing nor a NaN (`Value.compare?_isSome_iff`), they
do so transitively (`Value.compare?_trans`), and the values that they tell apart are sorted the same
way (`Value.sortCompare_of_compare?`).

So a test for a range that two values pass is passed by what is sorted between them, unless that is
a NaN next to a whole number (`Test.IsRange.holds_of_between`).
-/

namespace RecordQuery

/-! ## NaNs among the doubles -/

namespace Binary64

variable {x y z : Binary64}

theorem isNaN_iff_totalPlace :
    x.isNaN = false ↔ -(infinite : Int) - 1 ≤ x.totalPlace ∧ x.totalPlace ≤ infinite := by
  unfold isNaN totalPlace
  rw [decide_eq_false_iff_not]
  split <;> omega

/-- The NaNs are sorted below and above all other doubles. -/
theorem isNaN_of_between (hx : x.isNaN = false) (hz : z.isNaN = false)
    (hxy : x.totalPlace ≤ y.totalPlace) (hyz : y.totalPlace ≤ z.totalPlace) : y.isNaN = false := by
  rw [isNaN_iff_totalPlace] at *
  omega

end Binary64

namespace Value

variable {a b c v w : Value} {o o' : Ordering}

/-! ## What compares -/

/-- A value that compares with some other. -/
def Compares (v : Value) : Prop := v ≠ .null ∧ ¬ v.IsNaN

theorem isNumber_iff_rank : a.IsNumber ↔ a.rank = 2 := by
  constructor
  · rintro (⟨i, rfl⟩ | ⟨x, rfl⟩) <;> rfl
  · exact number_of_rank

/-- Values of one kind that are no numbers are compared as they are sorted. -/
theorem compare?_eq_sortCompare (hrank : a.rank = b.rank) (hnull : a ≠ .null)
    (hnumber : a.rank ≠ 2) : a.compare? b = some (sortCompare a b) := by
  cases a <;> cases b <;> simp_all [rank] <;> rfl

theorem rank_eq_of_compare? (h : a.compare? b = some o) : a.rank = b.rank := by
  cases a <;> cases b <;> first | rfl | cases h

theorem not_isNaN_of_compare? (h : a.compare? b = some o) : ¬ (a.IsNaN ∨ b.IsNaN) := by
  have hrank := rank_eq_of_compare? h
  have number {v : Value} : v.IsNaN → v.rank = 2 := by
    rintro ⟨x, rfl, -⟩
    rfl
  intro hnan
  have hnumber : a.rank = 2 := hnan.elim number fun hb => hrank.trans (number hb)
  rw [← compare?_eq_none_iff (isNumber_iff_rank.2 hnumber)
    (isNumber_iff_rank.2 (hrank ▸ hnumber)), h] at hnan
  cases hnan

/-- Values compare exactly if both compare with anything and they share their rank. -/
theorem compare?_isSome_iff :
    (∃ o, a.compare? b = some o) ↔ a.Compares ∧ b.Compares ∧ a.rank = b.rank := by
  constructor
  · rintro ⟨o, h⟩
    obtain ⟨ha, hb⟩ := not_or.1 (not_isNaN_of_compare? h)
    refine ⟨⟨?_, ha⟩, ⟨?_, hb⟩, rank_eq_of_compare? h⟩
    · rintro rfl
      cases h
    · rintro rfl
      cases a <;> cases h
  · rintro ⟨⟨hnull, ha⟩, ⟨-, hb⟩, hrank⟩
    by_cases hnumber : a.rank = 2
    · refine Option.ne_none_iff_exists'.1 ?_
      rw [Ne, compare?_eq_none_iff (isNumber_iff_rank.2 hnumber)
        (isNumber_iff_rank.2 (hrank ▸ hnumber))]
      exact not_or.2 ⟨ha, hb⟩
    · exact ⟨_, compare?_eq_sortCompare hrank hnull hnumber⟩

/-! ## Transitivity -/

theorem transCmp_fits (k : Kind) :
    Std.TransCmp fun a b : { v : Value // v.Fits k } => sortCompare a.1 b.1 where
  eq_swap := sortCompare_swap _ _
  isLE_trans {a b c} := Fits.sortCompare_trans a.2 b.2 c.2

/-- What holds of a value and a second and of the second and a third holds of the first and the
third, and equal values compare alike. -/
theorem compare?_trans (hab : a.compare? b = some o) (hbc : b.compare? c = some o') :
    (o' = o ∨ o' = .eq → a.compare? c = some o) ∧ (o = .eq → a.compare? c = some o') := by
  have hrank := rank_eq_of_compare? hab
  have hrank' := rank_eq_of_compare? hbc
  by_cases hnumber : a.rank = 2
  · refine IsNumber.compare?_trans ?_ ?_ ?_ hab hbc <;> rw [isNumber_iff_rank] <;> omega
  · have ha := (compare?_isSome_iff.1 ⟨o, hab⟩).1
    have hb := (compare?_isSome_iff.1 ⟨o', hbc⟩).1
    obtain ⟨k, hk⟩ := a.exists_fits
    let a' : { v : Value // v.Fits k } := ⟨a, hk a rfl⟩
    let b' : { v : Value // v.Fits k } := ⟨b, hk b (kind?_eq_of_rank_eq hrank hnumber)⟩
    let c' : { v : Value // v.Fits k } :=
      ⟨c, hk c (kind?_eq_of_rank_eq (hrank.trans hrank') hnumber)⟩
    rw [compare?_eq_sortCompare hrank ha.1 hnumber, Option.some.injEq] at hab
    rw [compare?_eq_sortCompare hrank' hb.1 (hrank ▸ hnumber), Option.some.injEq] at hbc
    rw [compare?_eq_sortCompare (hrank.trans hrank') ha.1 hnumber, Option.some.injEq,
      Option.some.injEq]
    exact @cmp_trans _ _ (transCmp_fits k) a' b' c' o o' hab hbc

/-! ## Sorting -/

/-- What a filter tells apart is sorted the same way. -/
theorem sortCompare_of_compare? (h : a.compare? b = some o) (ho : o ≠ .eq) :
    sortCompare a b = o := by
  have hfallback : (a.compare? b).getD (compare a.rank b.rank) = o := by
    rw [h]
    rfl
  cases a <;> cases b <;> try first | exact hfallback | cases h
  case float.float x y =>
    -- the order of all bits refines that of the places
    obtain ⟨-, hplace⟩ : (x.isNaN = false ∧ y.isNaN = false) ∧ compare x.place y.place = o := by
      simpa [compare?, Binary64.compare?] using h
    show compare x.totalPlace y.totalPlace = o
    cases o with
    | eq => exact absurd rfl ho
    | lt =>
      rw [compare_lt_iff_lt] at *
      exact lt_of_not_ge fun hle => absurd (Binary64.place_le hle) (not_le_of_gt hplace)
    | gt =>
      rw [compare_gt_iff_gt] at *
      exact lt_of_not_ge fun hle => absurd (Binary64.place_le hle) (not_le_of_gt hplace)

/-- Sorting does not put a value behind one that compares as greater. -/
theorem ne_gt_of_isLE (h : a.compare? b = some o) (hle : (sortCompare a b).isLE) : o ≠ .gt := by
  rintro rfl
  rw [sortCompare_of_compare? h (by decide)] at hle
  cases hle

theorem Blurred.symm (h : Blurred a b) : Blurred b a := by
  unfold Blurred at h
  split at h
  · exact h
  · exact h
  · exact h.elim

theorem not_blurred_of_fits {k : Kind} (ha : a.Fits k) (hb : b.Fits k) : ¬ Blurred a b := by
  rcases ha with rfl | ha
  · exact id
  rcases hb with rfl | hb
  · cases a <;> exact id
  cases a <;> cases ha <;> cases b <;> cases hb <;> exact id

/-- What is sorted between two values that compare with a third compares with something and shares
their rank, unless it is a NaN next to a whole number. -/
theorem compares_of_between (hac : ∃ o, a.compare? w = some o) (hcw : ∃ o, c.compare? w = some o)
    (hab : (sortCompare a b).isLE) (hbc : (sortCompare b c).isLE) (hblur : ¬ Blurred a b)
    (hblur' : ¬ Blurred b c) : b.Compares ∧ b.rank = w.rank := by
  obtain ⟨ha, hw, haw⟩ := compare?_isSome_iff.1 hac
  obtain ⟨hc, -, hcw⟩ := compare?_isSome_iff.1 hcw
  have hrank : b.rank = w.rank := by
    have := rank_le_of_isLE hab
    have := rank_le_of_isLE hbc
    omega
  refine ⟨⟨fun hnull => ?_, ?_⟩, hrank⟩
  · subst hnull
    cases w <;> cases hrank
    exact hw.1 rfl
  · rintro ⟨y, rfl, hy⟩
    have hnumber : w.rank = 2 := hrank.symm
    rcases number_of_rank (haw.trans hnumber) with ⟨i, rfl⟩ | ⟨x, rfl⟩
    · exact hblur hy
    rcases number_of_rank (hcw.trans hnumber) with ⟨i, rfl⟩ | ⟨z, rfl⟩
    · exact hblur' hy
    have hx : x.isNaN = false := by simpa [IsNaN] using ha.2
    have hz : z.isNaN = false := by simpa [IsNaN] using hc.2
    rw [Binary64.isNaN_of_between hx hz (isLE_float_float.1 hab) (isLE_float_float.1 hbc)] at hy
    cases hy

/-- Where two values are sorted one behind the other and both compare with a third, the first does
not compare as greater where the second does not, and as less where the second does. -/
theorem compare?_mono (hle : (sortCompare a b).isLE) (ha : a.compare? w = some o)
    (hb : b.compare? w = some o') : (o' ≠ .gt → o ≠ .gt) ∧ (o' = .lt → o = .lt) := by
  obtain ⟨hac, hw, haw⟩ := compare?_isSome_iff.1 ⟨o, ha⟩
  obtain ⟨hbc, -, hbw⟩ := compare?_isSome_iff.1 ⟨o', hb⟩
  obtain ⟨p, hp⟩ : ∃ p, a.compare? b = some p :=
    compare?_isSome_iff.2 ⟨hac, hbc, haw.trans hbw.symm⟩
  have hne := ne_gt_of_isLE hp hle
  have htrans := compare?_trans hp hb
  rw [ha] at htrans
  cases p <;> cases o' <;> simp_all

/-- What is sorted between two values that compare with a third compares with it, unless it is a NaN
next to a whole number, and lies on the same side where the two do. -/
theorem exists_compare?_of_between (ha : a.compare? w = some o) (hc : c.compare? w = some o')
    (hab : (sortCompare a b).isLE) (hbc : (sortCompare b c).isLE) (hblur : ¬ Blurred a b)
    (hblur' : ¬ Blurred b c) : ∃ p, b.compare? w = some p ∧ (o' = .lt → p = .lt) ∧
      (o' ≠ .gt → p ≠ .gt) ∧ (o = .gt → p = .gt) ∧ (o ≠ .lt → p ≠ .lt) := by
  obtain ⟨hb, hrank⟩ := compares_of_between ⟨o, ha⟩ ⟨o', hc⟩ hab hbc hblur hblur'
  obtain ⟨p, hp⟩ : ∃ p, b.compare? w = some p :=
    compare?_isSome_iff.2 ⟨hb, (compare?_isSome_iff.1 ⟨o, ha⟩).2.1, hrank⟩
  have hbelow := compare?_mono hbc hp hc
  have habove := compare?_mono hab ha hp
  exact ⟨p, hp, hbelow.2, hbelow.1, fun h => by_contra fun hne => habove.1 hne h, mt habove.2⟩

/-- Values on different sides of a third are sorted accordingly. -/
theorem sortCompare_of_sides (ha : a.compare? w = some o) (hb : b.compare? w = some o')
    (h : (o = .lt ∧ o' ≠ .lt) ∨ (o ≠ .gt ∧ o' = .gt)) : sortCompare a b = .lt := by
  have hb' : w.compare? b = some o'.swap := by
    rw [compare?_swap, hb]
    rfl
  have htrans := compare?_trans ha hb'
  refine sortCompare_of_compare? (o := .lt) ?_ (by decide)
  rcases h with ⟨rfl, ho'⟩ | ⟨ho, rfl⟩
  · refine htrans.1 ?_
    cases o' with
    | lt => exact absurd rfl ho'
    | eq => exact .inr rfl
    | gt => exact .inl rfl
  · cases o with
    | lt => exact htrans.1 (.inl rfl)
    | eq => exact htrans.2 rfl
    | gt => exact absurd rfl ho

end Value

/-! ## Ranges -/

namespace Test

/-- The tests that accept what lies on one side of a bound or between two. -/
def IsRange : Test → Prop
  | .lt _ | .lte _ | .gt _ | .gte _ | .between _ _ => True
  | _ => False

variable {t : Test} {a b c v w : Value}

theorem holds_lt : (lt w).holds v = true ↔ v.compare? w = some .lt := by
  simp [holds, Value.isLess]

theorem holds_gt : (gt w).holds v = true ↔ v.compare? w = some .gt := by
  simp [holds, Value.isGreater]

theorem holds_lte : (lte w).holds v = true ↔ ∃ o, v.compare? w = some o ∧ o ≠ .gt := by
  cases h : v.compare? w with
  | none => simp [holds, Value.isLess, Value.isEqual, h]
  | some o => cases o <;> simp [holds, Value.isLess, Value.isEqual, h]

theorem holds_gte : (gte w).holds v = true ↔ ∃ o, v.compare? w = some o ∧ o ≠ .lt := by
  cases h : v.compare? w with
  | none => simp [holds, Value.isGreater, Value.isEqual, h]
  | some o => cases o <;> simp [holds, Value.isGreater, Value.isEqual, h]

theorem holds_between {low high : Value} : (between low high).holds v = true ↔
    (gte low).holds v = true ∧ (lte high).holds v = true :=
  Bool.and_eq_true_iff

/-- What lies below a bound is sorted before what does not, and what does not lie above it before
what does. -/
theorem sortCompare_of_holds (h : ((lt w).holds a = true ∧ (gte w).holds b = true) ∨
    ((lte w).holds a = true ∧ (gt w).holds b = true)) : Value.sortCompare a b = .lt := by
  rcases h with ⟨ha, hb⟩ | ⟨ha, hb⟩
  · obtain ⟨o, hb, ho⟩ := holds_gte.1 hb
    exact Value.sortCompare_of_sides (holds_lt.1 ha) hb (.inl ⟨rfl, ho⟩)
  · obtain ⟨o, ha, ho⟩ := holds_lte.1 ha
    exact Value.sortCompare_of_sides ha (holds_gt.1 hb) (.inr ⟨ho, rfl⟩)

/-- A test for a range that two values pass is passed by what is sorted between them, unless that
is a NaN next to a whole number. -/
theorem IsRange.holds_of_between (ht : t.IsRange) (ha : t.holds a = true) (hc : t.holds c = true)
    (hab : (Value.sortCompare a b).isLE) (hbc : (Value.sortCompare b c).isLE)
    (hblur : ¬ Value.Blurred a b) (hblur' : ¬ Value.Blurred b c) : t.holds b = true := by
  have middle {w : Value} {o o' : Ordering} (ha : a.compare? w = some o)
      (hc : c.compare? w = some o') :=
    Value.exists_compare?_of_between ha hc hab hbc hblur hblur'
  have above {w : Value} (ha : (gte w).holds a = true) (hc : (gte w).holds c = true) :
      (gte w).holds b = true := by
    obtain ⟨o, ha, ho⟩ := holds_gte.1 ha
    obtain ⟨o', hc, -⟩ := holds_gte.1 hc
    obtain ⟨p, hp, -, -, -, hge⟩ := middle ha hc
    exact holds_gte.2 ⟨p, hp, hge ho⟩
  have below {w : Value} (ha : (lte w).holds a = true) (hc : (lte w).holds c = true) :
      (lte w).holds b = true := by
    obtain ⟨o, ha, -⟩ := holds_lte.1 ha
    obtain ⟨o', hc, ho'⟩ := holds_lte.1 hc
    obtain ⟨p, hp, -, hle, -, -⟩ := middle ha hc
    exact holds_lte.2 ⟨p, hp, hle ho'⟩
  cases t with
  | lt w =>
    obtain ⟨p, hp, hlt, -, -, -⟩ := middle (holds_lt.1 ha) (holds_lt.1 hc)
    rw [holds_lt, hp, hlt rfl]
  | gt w =>
    obtain ⟨p, hp, -, -, hgt, -⟩ := middle (holds_gt.1 ha) (holds_gt.1 hc)
    rw [holds_gt, hp, hgt rfl]
  | lte w => exact below ha hc
  | gte w => exact above ha hc
  | between low high =>
    rw [holds_between] at *
    exact ⟨above ha.1 hc.1, below ha.2 hc.2⟩
  | eq | neq | contains | startsWith | endsWith | isNull | isNotNull | among => exact ht.elim

end Test

end RecordQuery
