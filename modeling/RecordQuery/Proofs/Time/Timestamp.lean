import RecordQuery.Proofs.Time.Digits
import RecordQuery.Proofs.Time.Midnight

/-!
# Spellings of one instant

A timestamp is a day and a time of day in digits (`Time.Timestamp`). It is what the strict reader of
timestamps takes with a `Z` behind it (`Instant.ofOffsetText?_succeeds_iff`). With `T` or a space
between the two parts it is read as the same instant whether it stands alone, before `Z` or before
`+00:00` (`Instant.ofText?_spellings`): without a time offset the strict reader does not take it,
and of the lenient ones only that of its separator does.
-/

namespace RecordQuery

namespace Time

/-! ## Time offsets -/

theorem not_mem_of_offsetSeconds {cs : List Char} {o : Int} (h : offsetSeconds cs = some (o, [])) :
    'Z' ∉ cs := by
  simp only [offsetSeconds, Option.bind_eq_bind, Option.bind_eq_some_iff, Prod.exists,
    number_eq_some_iff] at h
  obtain ⟨_, _, ⟨hs, hhs, rfl, -⟩, _, _, hc, _, rest, ⟨ms, hms, rfl, -⟩, h⟩ := h
  rw [char_eq_some] at hc
  subst hc
  obtain rfl : rest = [] := by
    split at h
    · cases h
      rfl
    · cases h
  rw [List.append_nil, List.mem_append, List.mem_cons]
  rintro (hz | hz | hz)
  · exact absurd (hhs.2 _ hz) (by decide)
  · exact absurd hz (by decide)
  · exact absurd (hms.2 _ hz) (by decide)

/-- Of the time offsets only `Z` ends in it. -/
theorem offset_concat {cs : List Char} {o : Int} (h : offset (cs ++ ['Z']) = some (o, [])) :
    cs = [] ∧ o = 0 := by
  have hlast : 'Z' ∈ cs ++ ['Z'] := List.mem_append_right _ List.mem_cons_self
  have hsigned {sign : Char} {cs' : List Char} {o : Int} (hsign : sign ≠ 'Z')
      (hcs : cs ++ ['Z'] = sign :: cs') : offsetSeconds cs' ≠ some (o, []) := by
    rw [hcs] at hlast
    exact fun h => not_mem_of_offsetSeconds h (List.mem_of_ne_of_mem hsign.symm hlast)
  unfold offset at h
  split at h
  · next heq =>
    cases h
    exact ⟨by simpa using congrArg List.length heq, rfl⟩
  · next heq =>
    cases h
    have hcs : cs = [] := by simpa using congrArg List.length heq
    subst hcs
    cases heq
  · next heq => exact absurd h (hsigned (by decide) heq)
  · next heq =>
    obtain ⟨o, ho⟩ := Reader.exists_of_map h
    exact absurd ho (hsigned (by decide) heq)
  · next heq =>
    obtain ⟨o, ho⟩ := Reader.exists_of_map h
    exact absurd ho (hsigned (by decide) heq)
  · cases h

/-! ## Timestamps -/

/-- A day and a time of day, written in digits. -/
structure Timestamp where
  day : DayText
  clock : ClockText

namespace Timestamp

/-- A day and a time of day with a separator between them. -/
def chars (t : Timestamp) (sep : Char) : List Char := t.day.chars ++ sep :: t.clock.chars

/-- The text of a timestamp. -/
def text (t : Timestamp) (sep : Char) : String := String.ofList (t.chars sep)

/-- The point of universal time. -/
def instant (t : Timestamp) : Instant :=
  ⟨t.day.date.sinceEpoch * 86400 + t.clock.seconds, t.clock.nanos⟩

theorem instantOf_eq (t : Timestamp) :
    instantOf t.day.date (t.clock.seconds, t.clock.nanos) 0 = t.instant := by
  rw [instantOf, Int.sub_zero]
  rfl

theorem offsetInstant_chars (t : Timestamp) {sep : Char} (hsep : sep = 'T' ∨ sep = 't' ∨ sep = ' ')
    {tail : List Char} (htail : AfterFraction tail) :
    offsetInstant (t.chars sep ++ tail) = (offset tail).map fun o =>
      (instantOf t.day.date (t.clock.seconds, t.clock.nanos) o.1, o.2) := by
  have hday : strictDate (t.day.chars ++ sep :: (t.clock.chars ++ tail)) =
      some (t.day.date, sep :: (t.clock.chars ++ tail)) :=
    strictDate_eq_some_iff.2 ⟨t.day, rfl, rfl⟩
  rw [chars, List.append_assoc, List.cons_append, offsetInstant, hday]
  rcases hsep with rfl | rfl | rfl <;>
    simp only [Option.bind_eq_bind, Option.bind_some, strictTime_chars t.clock htail] <;>
    cases offset tail <;> rfl

theorem lettered_chars (t : Timestamp) : lettered (t.chars 'T') = some (t.instant, []) := by
  have hend : AfterFraction [] := by simp [AfterFraction]
  have hclock := lenientTime_chars t.clock hend
  rw [List.append_nil] at hclock
  simp only [chars, lettered, date_chars, Option.bind_eq_bind, Option.bind_some, char_self, hclock,
    Option.pure_def, t.instantOf_eq]

theorem lettered_space (t : Timestamp) : lettered (t.chars ' ') = none := by
  have hchar : char 'T' (' ' :: t.clock.chars) = none := rfl
  simp only [chars, lettered, date_chars, Option.bind_eq_bind, Option.bind_some, hchar,
    Option.bind_none]

theorem spaced_chars (t : Timestamp) : spaced (t.chars ' ') = some (t.instant, []) := by
  have hend : AfterFraction [] := by simp [AfterFraction]
  have hclock := lenientTime_chars t.clock hend
  rw [List.append_nil] at hclock
  have htrim : Text.trimStart (' ' :: t.clock.chars) = t.clock.chars :=
    trimStart_digits t.clock.hour_digits
  simp only [chars, spaced, date_chars, Option.bind_eq_bind, Option.bind_some, htrim, hclock,
    Option.pure_def, t.instantOf_eq]

end Timestamp

end Time

open Time

namespace Instant

/-- A timestamp needs a time offset to be read as one with a time offset, and both ways to write
that there is none are the same. -/
theorem ofOffsetText?_text (t : Timestamp) {sep : Char} (hsep : sep = 'T' ∨ sep = 't' ∨ sep = ' ') :
    ofOffsetText? (t.text sep) = none ∧ ofOffsetText? (t.text sep ++ "Z") = some t.instant ∧
      ofOffsetText? (t.text sep ++ "+00:00") = some t.instant := by
  have hread {tail : String} (htail : AfterFraction tail.toList) :
      ofOffsetText? (t.text sep ++ tail) = all? (fun cs => (offset cs).map fun o =>
        (instantOf t.day.date (t.clock.seconds, t.clock.nanos) o.1, o.2)) tail.toList := by
    rw [ofOffsetText?, Timestamp.text, String.toList_append, String.toList_ofList, all?,
      t.offsetInstant_chars hsep htail, all?]
  refine ⟨?_, ?_, ?_⟩
  · have hend : AfterFraction "".toList := by simp [AfterFraction]
    have hnone := hread hend
    rwa [String.append_empty] at hnone
  · rw [hread (by simp [AfterFraction]), ← t.instantOf_eq]
    rfl
  · rw [hread (by simp [AfterFraction]), ← t.instantOf_eq]
    rfl

theorem ofLocalText?_text (t : Timestamp) {sep : Char} (hsep : sep = 'T' ∨ sep = ' ') :
    ofLocalText? (t.text sep) = some t.instant := by
  rw [ofLocalText?, Timestamp.text, String.toList_ofList]
  rcases hsep with rfl | rfl
  · rw [all?_eq_some.2 t.lettered_chars]
    rfl
  · rw [all?_eq_some.2 t.spaced_chars, all?, t.lettered_space]
    rfl

/-- What `Z` makes a timestamp with a time offset is a timestamp. -/
theorem ofOffsetText?_succeeds_iff {s : String} : (∃ i, ofOffsetText? (s ++ "Z") = some i) ↔
    ∃ (t : Timestamp) (sep : Char), (sep = 'T' ∨ sep = 't' ∨ sep = ' ') ∧ s = t.text sep := by
  constructor
  · rintro ⟨i, hi⟩
    rw [ofOffsetText?, all?_eq_some] at hi
    obtain ⟨d, sep, cs₁, time, cs₂, o, hd, hsep, htime, ho, -⟩ := offsetInstant_parts hi
    obtain ⟨day, hcs, -⟩ := strictDate_eq_some_iff.1 hd
    obtain ⟨clock, rfl, -⟩ := strictTime_takes htime
    refine ⟨⟨day, clock⟩, sep, hsep, ?_⟩
    -- of the time offset nothing stands in front of the `Z`
    rcases List.eq_nil_or_concat cs₂ with rfl | ⟨cs₃, c, rfl⟩
    · cases ho
    · rw [List.concat_eq_append] at ho hcs
      have hsplit : s.toList ++ ['Z'] = (day.chars ++ sep :: clock.chars ++ cs₃) ++ [c] := by
        rw [String.toList_append] at hcs
        simpa using hcs
      obtain ⟨hs, hc⟩ := List.append_inj' hsplit rfl
      obtain rfl : 'Z' = c := List.head_eq_of_cons_eq hc
      obtain ⟨rfl, -⟩ := offset_concat ho
      rw [← String.toList_inj, hs, Timestamp.text, String.toList_ofList, List.append_nil]
      rfl
  · rintro ⟨t, sep, hsep, rfl⟩
    exact ⟨_, (ofOffsetText?_text t hsep).2.1⟩

/-- All spellings of one point of time are read as that point. What `Z` makes a timestamp with a
time offset is a day and a time of day in digits, a 60th second and a fraction of any length
included. With `T` or a space between the two it is read as the same instant with `Z`, with `+00:00`
and without a time offset. A day alone is read as its midnight. -/
theorem ofText?_spellings :
    (∀ s : String, (∃ i, ofOffsetText? (s ++ "Z") = some i) ↔
      ∃ (t : Timestamp) (sep : Char), (sep = 'T' ∨ sep = 't' ∨ sep = ' ') ∧ s = t.text sep) ∧
    (∀ (t : Timestamp) (sep : Char), sep = 'T' ∨ sep = ' ' →
      ofText? (t.text sep) = some t.instant ∧ ofText? (t.text sep ++ "Z") = some t.instant ∧
        ofText? (t.text sep ++ "+00:00") = some t.instant) ∧
    ∀ (s : String) (d : Date), Date.ofText? s = some d → ofText? s = some (midnight d) := by
  refine ⟨fun s => ofOffsetText?_succeeds_iff, fun t sep hsep => ?_, fun s d => ofText?_of_date⟩
  obtain ⟨hnone, hzulu, hzero⟩ := ofOffsetText?_text t (hsep.imp_right .inr)
  refine ⟨?_, ?_, ?_⟩
  · rw [ofText?, hnone, ofLocalText?_text t hsep]
    rfl
  · rw [ofText?, hzulu]
    rfl
  · rw [ofText?, hzero]
    rfl

/-- The last second of June 2015, which was a leap second, with a fraction of eleven digits. -/
def leapSecond : Timestamp where
  day := ⟨['2', '0', '1', '5'], ['0', '6'], ['3', '0'], ⟨2015, 6, 30, by decide, by decide⟩,
    by decide, by decide, by decide, by decide⟩
  clock := ⟨['2', '3'], ['5', '9'], ['6', '0'], "12345678999".toList, by decide, by decide,
    by decide, List.all_eq_true.1 (by decide), by decide, by decide, by decide⟩

theorem ofText?_spellings_leapSecond :
    ofText? "2015-06-30T23:59:60.12345678999" = some ⟨1435708799, 1123456789⟩ ∧
    ofText? "2015-06-30 23:59:60.12345678999" = some ⟨1435708799, 1123456789⟩ ∧
    ofText? "2015-06-30 23:59:60.12345678999Z" = some ⟨1435708799, 1123456789⟩ ∧
    ofText? "2015-06-30T23:59:60.12345678999+00:00" = some ⟨1435708799, 1123456789⟩ ∧
    ofText? " 2015-6-30" = some ⟨1435622400, 0⟩ := by
  obtain ⟨-, hspellings, hday⟩ := ofText?_spellings
  obtain ⟨hlettered, -, hzero⟩ := hspellings leapSecond 'T' (.inl rfl)
  obtain ⟨hspaced, hzulu, -⟩ := hspellings leapSecond ' ' (.inr rfl)
  have hdate : Date.ofText? " 2015-6-30" = some ⟨2015, 6, 30, by decide, by decide⟩ := by decide
  exact ⟨hlettered, hspaced, hzulu, hzero, hday _ _ hdate⟩

end Instant

end RecordQuery
