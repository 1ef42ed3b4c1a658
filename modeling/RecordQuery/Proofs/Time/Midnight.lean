import RecordQuery.Proofs.Time.Reading
import RecordQuery.Proofs.Value.Order

/-!
# Days and their midnights

Days are counted from the start of 1970 in the order of the calendar (`Date.compare_eq`), so days
stand to each other as their midnights do (`Instant.compare_midnight`).

A text that reads as a day is read as its midnight where an instant is asked for
(`Instant.ofText?_of_date`): a day is read without passing a colon (`Time.date_leavesColons`), and
every timestamp has one.
-/

namespace RecordQuery

/-! ## Counting days -/

namespace Date

/-- The number of days before a year, counted from the start of the year 1. -/
def daysBeforeYear (year : Int) : Int :=
  365 * (year - 1) + (year - 1) / 4 - (year - 1) / 100 + (year - 1) / 400

theorem sinceEpoch_eq (d : Date) :
    d.sinceEpoch = daysBeforeYear d.year + daysBefore d.year (d.month - 1) + d.day - 719163 := rfl

theorem daysBefore_twelve (year : Int) :
    daysBefore year 12 = if isLeapYear year then 366 else 365 := by
  simp only [daysBefore, daysInMonth]
  split <;> rfl

theorem daysBeforeYear_add_one (year : Int) :
    daysBeforeYear (year + 1) = daysBeforeYear year + daysBefore year 12 := by
  rw [daysBefore_twelve, isLeapYear, daysBeforeYear, daysBeforeYear]
  by_cases h4 : year % 4 = 0 <;> by_cases h100 : year % 100 = 0 <;>
    by_cases h400 : year % 400 = 0 <;> simp [h4, h100, h400] <;> omega

theorem daysBeforeYear_mono {y z : Int} (h : y ≤ z) : daysBeforeYear y ≤ daysBeforeYear z := by
  unfold daysBeforeYear
  omega

theorem daysBefore_mono (year : Int) {m n : Nat} (h : m ≤ n) :
    daysBefore year m ≤ daysBefore year n := by
  induction h with
  | refl => exact Nat.le_refl _
  | step _ ih => exact Nat.le_trans ih (Nat.le_add_right _ _)

theorem month_mem (d : Date) : 1 ≤ d.month ∧ d.month ≤ 12 := by
  have hday := Nat.le_trans d.day_mem.1 d.day_mem.2
  by_contra h
  have hnone : daysInMonth d.year d.month = 0 := by
    unfold daysInMonth
    split <;> omega
  omega

/-- The days of a year up to a day lie in the months up to its own. -/
theorem day_le_daysBefore (d : Date) :
    daysBefore d.year (d.month - 1) + d.day ≤ daysBefore d.year d.month := by
  obtain ⟨m, hm⟩ : ∃ m, d.month = m + 1 := ⟨d.month - 1, by have := d.month_mem; omega⟩
  have hday := d.day_mem.2
  rw [hm] at hday ⊢
  exact Nat.add_le_add_left hday _

/-- A day of an earlier year is an earlier day. -/
theorem sinceEpoch_lt_of_year {a b : Date} (h : a.year < b.year) : a.sinceEpoch < b.sinceEpoch := by
  have hyear := daysBeforeYear_add_one a.year
  have hnext := daysBeforeYear_mono (show a.year + 1 ≤ b.year from h)
  have hmonth := Nat.le_trans a.day_le_daysBefore (daysBefore_mono a.year a.month_mem.2)
  have hday := b.day_mem.1
  rw [sinceEpoch_eq, sinceEpoch_eq]
  omega

/-- A day of an earlier month of the same year is an earlier day. -/
theorem sinceEpoch_lt_of_month {a b : Date} (hy : a.year = b.year) (h : a.month < b.month) :
    a.sinceEpoch < b.sinceEpoch := by
  have hmonth := a.day_le_daysBefore
  have hnext := daysBefore_mono a.year (show a.month ≤ b.month - 1 by omega)
  have hday := b.day_mem.1
  rw [sinceEpoch_eq, sinceEpoch_eq, ← hy]
  omega

theorem sinceEpoch_lt {a b : Date} (h : compare a b = .lt) : a.sinceEpoch < b.sinceEpoch := by
  simp only [compare, Ordering.then_eq_lt, Std.LawfulEqOrd.compare_eq_iff_eq] at h
  rcases h with hy | ⟨hy, hm | ⟨hm, hd⟩⟩
  · exact sinceEpoch_lt_of_year (Int.compare_eq_lt.1 hy)
  · exact sinceEpoch_lt_of_month hy (Nat.compare_eq_lt.1 hm)
  · have hday := Nat.compare_eq_lt.1 hd
    rw [sinceEpoch_eq, sinceEpoch_eq, hy, hm]
    omega

theorem eq_of_compare {a b : Date} (h : compare a b = .eq) : a = b := by
  simp only [compare, Ordering.then_eq_eq, Std.LawfulEqOrd.compare_eq_iff_eq] at h
  obtain ⟨hy, hm, hd⟩ := h
  cases a
  cases b
  simp_all

/-- Days are ordered as their numbers are. -/
theorem compare_eq (a b : Date) : compare a b = Ord.compare a.sinceEpoch b.sinceEpoch := by
  cases h : compare a b with
  | lt => exact (Int.compare_eq_lt.2 (sinceEpoch_lt h)).symm
  | eq => rw [eq_of_compare h, Std.LawfulEqOrd.compare_eq_iff_eq.2 rfl]
  | gt =>
    have hswap : compare b a = .lt := by
      rw [@Std.OrientedCmp.eq_swap _ compare _ b a, h]
      rfl
    exact (Int.compare_eq_gt.2 (sinceEpoch_lt hswap)).symm

end Date

/-- Midnights are ordered as their days are. -/
theorem Instant.compare_midnight (a b : Date) :
    compare (midnight a) (midnight b) = Date.compare a b := by
  rw [Date.compare_eq]
  show (Ord.compare (a.sinceEpoch * 86400) (b.sinceEpoch * 86400)).then .eq = _
  rw [Ordering.then_eq]
  rcases Int.lt_trichotomy a.sinceEpoch b.sinceEpoch with h | h | h
  · rw [Int.compare_eq_lt.2 h, Int.compare_eq_lt.2 (by omega)]
  · rw [h, Std.LawfulEqOrd.compare_eq_iff_eq.2 rfl, Std.LawfulEqOrd.compare_eq_iff_eq.2 rfl]
  · rw [Int.compare_eq_gt.2 h, Int.compare_eq_gt.2 (by omega)]

/-! ## Texts of days -/

namespace Time

/-- A colon is left for what is read next. -/
def Reader.LeavesColons {α : Type} (r : Reader α) : Prop :=
  ∀ ⦃cs a rest⦄, r cs = some (a, rest) → ':' ∈ cs → ':' ∈ rest

theorem number_leavesColons {least : Nat} {most : Option Nat} :
    (number least most).LeavesColons := by
  intro cs n rest h hcolon
  obtain ⟨ds, rfl, -, hdigits⟩ := number_takes h
  rcases List.mem_append.1 hcolon with hmem | hmem
  · exact absurd (hdigits _ hmem) (by decide)
  · exact hmem

theorem colon_mem_trimStart {cs : List Char} (h : ':' ∈ cs) : ':' ∈ Text.trimStart cs := by
  rw [← List.takeWhile_append_dropWhile (p := Text.isBlank) (l := cs), List.mem_append] at h
  rcases h with hmem | hmem
  · exact absurd (List.mem_takeWhile_imp hmem) (by decide)
  · exact hmem

theorem field_leavesColons : field.LeavesColons := fun _ _ _ h hcolon =>
  number_leavesColons h (colon_mem_trimStart hcolon)

theorem char_leavesColons {c : Char} (hc : c ≠ ':') : (char c).LeavesColons := by
  intro cs a rest h hcolon
  cases cs with
  | nil => cases h
  | cons d cs =>
    simp only [char] at h
    split at h
    · next hd =>
      cases h
      rcases List.mem_cons.1 hcolon with heq | hmem
      · exact absurd (hd.symm.trans heq.symm) hc
      · exact hmem
    · cases h

theorem year_leavesColons : year.LeavesColons := by
  intro cs y rest h hcolon
  have hstart := colon_mem_trimStart hcolon
  unfold year at h
  split at h
  · next hcs =>
    obtain ⟨n, hn⟩ := Reader.exists_of_map h
    rw [hcs] at hstart
    exact number_leavesColons hn (List.mem_of_ne_of_mem (by decide) hstart)
  · next hcs =>
    obtain ⟨n, hn⟩ := Reader.exists_of_map h
    rw [hcs] at hstart
    exact number_leavesColons hn (List.mem_of_ne_of_mem (by decide) hstart)
  · obtain ⟨n, hn⟩ := Reader.exists_of_map h
    exact number_leavesColons hn hstart

theorem date_leavesColons : date.LeavesColons := by
  intro cs d rest h hcolon
  obtain ⟨y, cs₁, cs₂, m, cs₃, cs₄, n, hy, hc₁, hm, hc₂, hn⟩ := date_parts h
  have hcs₂ := char_leavesColons (by decide) hc₁ (year_leavesColons hy hcolon)
  exact field_leavesColons hn (char_leavesColons (by decide) hc₂ (field_leavesColons hm hcs₂))

theorem mem_of_char {c : Char} {cs rest : List Char} {a : Unit} (h : char c cs = some (a, rest)) :
    c ∈ cs := by
  cases cs with
  | nil => cases h
  | cons d cs =>
    simp only [char] at h
    split at h
    · next hd => exact hd ▸ List.mem_cons_self
    · cases h

theorem colon_mem_of_lenientTime {cs rest : List Char} {t : Nat × Nat}
    (h : lenientTime cs = some (t, rest)) : ':' ∈ cs := by
  simp only [lenientTime, Option.bind_eq_bind, Option.bind_eq_some_iff, Prod.exists] at h
  obtain ⟨_, cs₁, hh, _, cs₂, hc, -⟩ := h
  exact (field_endsVisible.consumes hh).subset (mem_of_char hc)

theorem colon_mem_of_strictTime {cs rest : List Char} {t : Nat × Nat}
    (h : strictTime cs = some (t, rest)) : ':' ∈ cs := by
  simp only [strictTime, Option.bind_eq_bind, Option.bind_eq_some_iff, Prod.exists] at h
  obtain ⟨_, cs₁, hh, _, cs₂, hc, -⟩ := h
  exact (number_consumes hh).subset (mem_of_char hc)

/-- In every timestamp there is a colon. -/
theorem colon_mem_of_offsetInstant {cs rest : List Char} {i : Instant}
    (h : offsetInstant cs = some (i, rest)) : ':' ∈ cs := by
  obtain ⟨d, sep, cs₁, time, cs₂, o, hd, -, htime, -⟩ := offsetInstant_parts h
  exact (strictDate_consumes hd).subset
    (List.mem_cons_of_mem _ (colon_mem_of_strictTime htime))

theorem colon_mem_of_lettered {cs rest : List Char} {i : Instant}
    (h : lettered cs = some (i, rest)) : ':' ∈ cs := by
  simp only [lettered, Option.bind_eq_bind, Option.bind_eq_some_iff, Prod.exists] at h
  obtain ⟨_, cs₁, hd, _, cs₂, hc, _, _, _, htime, -⟩ := h
  exact (date_endsVisible.consumes hd).subset
    ((char_consumes _ hc).subset (colon_mem_of_lenientTime htime))

theorem colon_mem_of_spaced {cs rest : List Char} {i : Instant}
    (h : spaced cs = some (i, rest)) : ':' ∈ cs := by
  simp only [spaced, Option.bind_eq_bind, Option.bind_eq_some_iff, Prod.exists] at h
  obtain ⟨_, cs₁, hd, _, _, _, htime, -⟩ := h
  exact (date_endsVisible.consumes hd).subset
    ((List.dropWhile_suffix _).subset (colon_mem_of_lenientTime htime))

/-- A reader that needs a colon takes no text as a whole that another one takes without. -/
theorem all?_eq_none {α β : Type} {r : Reader α} {r' : Reader β} (hr : r.LeavesColons)
    (hr' : ∀ {cs rest : List Char} {b : β}, r' cs = some (b, rest) → ':' ∈ cs) {cs : List Char}
    {a : α} (h : all? r cs = some a) : all? r' cs = none := by
  rw [Option.eq_none_iff_forall_ne_some]
  intro b hb
  exact List.not_mem_nil (hr (all?_eq_some.1 h) (hr' (all?_eq_some.1 hb)))

end Time

/-- A text that reads as a day reads as the start of that day. -/
theorem Instant.ofText?_of_date {s : String} {d : Date} (h : Date.ofText? s = some d) :
    ofText? s = some (midnight d) := by
  have hoffset : ofOffsetText? s = none :=
    Time.all?_eq_none Time.date_leavesColons Time.colon_mem_of_offsetInstant h
  have hlettered := Time.all?_eq_none Time.date_leavesColons Time.colon_mem_of_lettered h
  have hspaced := Time.all?_eq_none Time.date_leavesColons Time.colon_mem_of_spaced h
  rw [ofText?, hoffset, ofLocalText?, hlettered, hspaced, h]
  rfl

end RecordQuery
