import RecordQuery.Text.Search

/-!
# Laws of searching

`Text.occursIn` finds a text exactly where it is a contiguous part of the other one. `Text.split`
takes apart what core's `List.intercalate` puts together, and nothing else gives the same text
(`split_eq_iff`). `Text.splitFirst` cuts at the first separator (`splitFirst_eq`).
-/

namespace RecordQuery.Text

theorem occursIn_iff {needle cs : List Char} : occursIn needle cs = true ↔ needle <:+: cs := by
  induction cs with
  | nil => simp [occursIn]
  | cons c cs ih => rw [occursIn, Bool.or_eq_true, ih, List.isPrefixOf_iff_prefix,
      List.infix_cons_iff]

theorem split_eq_splitOn (sep : Char) (cs : List Char) : split sep cs = cs.splitOn sep := by
  induction cs with
  | nil => rfl
  | cons c cs ih =>
    rw [List.splitOn_cons_eq_if_modifyHead, ← ih, split]
    by_cases h : c = sep
    · simp [h]
    · cases hparts : split sep cs with
      | nil => exact absurd hparts (split_ne_nil sep cs)
      | cons part parts => simp [h]

theorem not_mem_of_mem_split {sep : Char} {cs part : List Char} (h : part ∈ split sep cs) :
    sep ∉ part := by
  induction cs generalizing part with
  | nil =>
    obtain rfl : part = [] := by simpa [split] using h
    exact List.not_mem_nil
  | cons c cs ih =>
    rw [split] at h
    split at h
    · rcases List.mem_cons.1 h with rfl | h
      · exact List.not_mem_nil
      · exact ih h
    · split at h <;> grind

/-- The parts of a text are the only ones without the separator that give the text again. -/
theorem split_eq_iff {sep : Char} {cs : List Char} {parts : List (List Char)} :
    split sep cs = parts ↔
      parts ≠ [] ∧ (∀ part ∈ parts, sep ∉ part) ∧ cs = [sep].intercalate parts := by
  constructor
  · rintro rfl
    refine ⟨split_ne_nil sep cs, fun part => not_mem_of_mem_split, ?_⟩
    rw [split_eq_splitOn, List.intercalate_splitOn]
  · rintro ⟨hne, hfree, rfl⟩
    rw [split_eq_splitOn, List.splitOn_intercalate sep hfree hne]

theorem splitFirst_eq (sep : Char) (cs : List Char) :
    splitFirst sep cs = (cs.takeWhile (· ≠ sep),
      if sep ∈ cs then some (cs.dropWhile (· ≠ sep)).tail else none) := by
  induction cs with
  | nil => rfl
  | cons c cs ih =>
    rw [splitFirst, ih]
    by_cases h : c = sep
    · simp [h]
    · simp [h, Ne.symm h]

end RecordQuery.Text
