import RecordQuery.Proofs.Number.Mixed
import RecordQuery.Proofs.Query.Operand
import RecordQuery.Proofs.Time.Midnight
import RecordQuery.Proofs.Value.Reading
import RecordQuery.Record.Inference

/-!
# Columns that are widened

Where days and timestamps stand under one name its values are read as instants, and where whole
numbers and other numbers do as doubles. Days are ordered as before, since each is read as its
midnight. Whole numbers are ordered as before unless two of them are rounded to one double, which
happens beyond `2 ^ 53` only (`Record.compare_widened`).
-/

namespace RecordQuery

namespace Record

/-- A value of the kind of whole numbers, read as a whole number and as a double. -/
theorem convert_of_kind_int {v : Json} (h : v.kind? = some .int) :
    ∃ i : Int64, v = .int i ∧ convert .int v = .int i ∧
      convert .float v = .float (Binary64.ofInt i) := by
  cases v with
  | number n =>
    have hsome : n.int64?.isSome := by
      simp only [Json.kind?, Option.some.injEq] at h
      split_ifs at h
      assumption
    obtain ⟨i, hi⟩ := Option.isSome_iff_exists.1 hsome
    obtain rfl := Json.Number.int64?_eq_some hi
    refine ⟨i, rfl, ?_, rfl⟩
    show ((Json.Number.int i).int64?.map Value.int).getD .null = _
    rw [hi]
    rfl
  | string s =>
    simp only [Json.kind?, Text.kind, Option.some.injEq] at h
    split_ifs at h
  | null | bool | array | object => cases h

/-- A value of the kind of days, read as a day and as an instant. -/
theorem convert_of_kind_date {v : Json} (h : v.kind? = some .date) :
    ∃ d, convert .date v = .date d ∧ convert .datetime v = .datetime (Instant.midnight d) := by
  cases v with
  | string s =>
    have hsome : (Date.ofText? s).isSome := by
      simp only [Json.kind?, Text.kind, Option.some.injEq] at h
      split_ifs at h
      assumption
    obtain ⟨d, hd⟩ := Option.isSome_iff_exists.1 hsome
    have htrim := Date.ofText?_trim hd
    refine ⟨d, ?_, ?_⟩
    · simp [convert, Value.ofText?, htrim]
    · simp [convert, Value.ofText?, Instant.ofText?_of_date htrim]
  | number n =>
    simp only [Json.kind?, Option.some.injEq] at h
    split_ifs at h
  | null | bool | array | object => cases h

/-- Values of the kind of days compare as instants as they do as days. Values of the kind of whole
numbers compare as doubles as they do as whole numbers, unless both read as the same double, and up
to `2 ^ 53` no two of them do. -/
theorem compare_widened {v w : Json} :
    (v.kind? = some .date → w.kind? = some .date →
      (convert .datetime v).compare? (convert .datetime w) =
        (convert .date v).compare? (convert .date w) ∧
      (convert .datetime v).sortCompare (convert .datetime w) =
        (convert .date v).sortCompare (convert .date w)) ∧
    (v.kind? = some .int → w.kind? = some .int →
      ((convert .float v).compare? (convert .float w) =
        if convert .float v = convert .float w then some .eq
        else (convert .int v).compare? (convert .int w)) ∧
      ((convert .float v).sortCompare (convert .float w) =
        if convert .float v = convert .float w then .eq
        else (convert .int v).sortCompare (convert .int w)) ∧
      ∀ i k : Int, v = .int i → w = .int k → i.natAbs ≤ 2 ^ 53 → k.natAbs ≤ 2 ^ 53 →
        convert .float v = convert .float w → i = k) := by
  refine ⟨fun hv hw => ?_, fun hv hw => ?_⟩
  · obtain ⟨d, hd, hmidnight⟩ := convert_of_kind_date hv
    obtain ⟨e, he, hmidnight'⟩ := convert_of_kind_date hw
    rw [hd, he, hmidnight, hmidnight']
    have hcompare := Instant.compare_midnight d e
    exact ⟨congrArg some hcompare, hcompare⟩
  · obtain ⟨i, rfl, hi, hx⟩ := convert_of_kind_int hv
    obtain ⟨k, rfl, hk, hy⟩ := convert_of_kind_int hw
    rw [hi, hk, hx, hy]
    simp only [Value.float.injEq]
    refine ⟨?_, ?_, ?_⟩
    · show Binary64.compare? _ _ = if _ then some .eq else some (compare i k)
      rw [Binary64.compare?_ofInt, Binary64.compare_toInt]
      split_ifs <;> rfl
    · show Binary64.totalCompare _ _ = if _ then .eq else compare i k
      rw [Binary64.totalCompare_ofInt, Binary64.compare_toInt]
    · intro i' k' hi' hk' hsmall hsmall' h
      cases hi'
      cases hk'
      exact Binary64.ofInt_injOn hsmall hsmall' h

theorem compare_widened_days :
    (convert .datetime (.string " 2024-1-31")).compare?
        (convert .datetime (.string "2024-02-01")) =
      (convert .date (.string " 2024-1-31")).compare? (convert .date (.string "2024-02-01")) ∧
      (convert .float (.int (-3))).compare? (convert .float (.int 9007199254740991)) = some .lt := by
  constructor
  · exact (compare_widened.1 (by decide +kernel) (by decide +kernel)).1
  · rw [(compare_widened.2 rfl rfl).1]
    decide +kernel

/-- The first whole number that is no double is rounded to the one before it. -/
theorem whole_numbers_merged : ¬ ∀ v w : Json, v.kind? = some .int → w.kind? = some .int →
    (convert .float v).compare? (convert .float w) =
      (convert .int v).compare? (convert .int w) := by
  intro h
  have heq := h (.int 9007199254740992) (.int 9007199254740993) rfl rfl
  exact absurd heq (by decide +kernel)

end Record

end RecordQuery
