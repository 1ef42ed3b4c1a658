import Mathlib.Algebra.Order.Ring.Nat
import RecordQuery.Proofs.Time.Reading

/-!
# Days and times of day in digits

A day in four, two and two digits (`Time.DayText`) and a time of day in two digits each, with the
digits of a fraction of a second (`Time.ClockText`), carry the proof that the calendar and the clock
have them. The strict readers take exactly these (`Time.strictDate_eq_some_iff`,
`Time.strictTime_takes`), and the lenient ones read them in the same way (`Time.date_chars`,
`Time.lenientTime_chars`). Of a fraction of any length the nanoseconds are its value cut off behind
the ninth digit (`Time.nanosOf`).
-/

namespace RecordQuery

namespace Time

/-! ## Digits -/

/-- So many digits. -/
def Digits (n : Nat) (ds : List Char) : Prop := ds.length = n ∧ ∀ d ∈ ds, d.isDigit = true

instance (n : Nat) (ds : List Char) : Decidable (Digits n ds) :=
  decidable_of_iff (ds.length = n ∧ ds.all Char.isDigit = true) (and_congr_right' List.all_eq_true)

/-- The number that digits stand for. -/
def value (ds : List Char) : Nat := Nat.ofDigitChars 10 ds 0

theorem value_append (ds es : List Char) :
    value (ds ++ es) = value ds * 10 ^ es.length + value es := by
  rw [value, Nat.ofDigitChars_append, Nat.ofDigitChars_eq_ofDigitChars_zero, Nat.mul_comm]
  rfl

theorem value_lt {ds : List Char} (h : ∀ d ∈ ds, d.isDigit = true) :
    value ds < 10 ^ ds.length := by
  induction ds with
  | nil => exact Nat.one_pos
  | cons d ds ih =>
    have hd : d.toNat ≤ 57 := (Char.isDigit_iff_toNat.1 (h d List.mem_cons_self)).2
    have hds := ih fun d hd => h d (List.mem_cons_of_mem _ hd)
    have hone : value [d] = d.toNat - 48 := by simp [value, Nat.ofDigitChars_cons]
    have hcons : value (d :: ds) = value [d] * 10 ^ ds.length + value ds :=
      value_append [d] ds
    have hpow : (d.toNat - 48) * 10 ^ ds.length ≤ 9 * 10 ^ ds.length :=
      Nat.mul_le_mul_right _ (by omega)
    rw [hcons, hone, List.length_cons, Nat.pow_succ]
    omega

section

variable {n least v : Nat} {ds cs rest : List Char}

theorem leadingDigits_digits (h : Digits n ds) : leadingDigits (some n) (ds ++ rest) = ds := by
  rw [leadingDigits, List.takeWhile_append_of_pos h.2, ← h.1, List.take_left]

theorem number_digits (h : Digits n ds) (hleast : least ≤ n) :
    number least (some n) (ds ++ rest) = some (value ds, rest) := by
  rw [number, leadingDigits_digits h, if_neg (by have := h.1; omega), List.drop_left]
  rfl

/-- A number of a fixed number of digits is so many digits. -/
theorem number_eq_some_iff :
    number n (some n) cs = some (v, rest) ↔ ∃ ds, Digits n ds ∧ cs = ds ++ rest ∧ v = value ds := by
  constructor
  · intro h
    rw [number, Option.ite_none_left_eq_some, Option.some.injEq, Prod.mk.injEq] at h
    obtain ⟨hlength, rfl, rfl⟩ := h
    have hle : (leadingDigits (some n) cs).length ≤ n := List.length_take_le _ _
    exact ⟨leadingDigits (some n) cs,
      ⟨by omega, fun d => isDigit_of_mem_leadingDigits⟩,
      List.prefix_iff_eq_append.1 (leadingDigits_isPrefix _ cs) |>.symm, rfl⟩
  · rintro ⟨ds, hds, rfl, rfl⟩
    exact number_digits hds (Nat.le_refl n)

theorem head?_digits (h : Digits (n + 1) ds) :
    ∃ d ds', ds = d :: ds' ∧ d.isDigit = true := by
  cases ds with
  | nil => cases h.1
  | cons d ds => exact ⟨d, ds, rfl, h.2 d List.mem_cons_self⟩

theorem trimStart_digits (h : Digits (n + 1) ds) : Text.trimStart (ds ++ rest) = ds ++ rest := by
  obtain ⟨d, ds, rfl, hd⟩ := head?_digits h
  refine Text.trimStart_eq_self fun c hc => ?_
  obtain rfl : d = c := Option.some.inj hc
  exact Text.isBlank_of_isDigit hd

theorem field_digits (h : Digits 2 ds) : field (ds ++ rest) = some (value ds, rest) := by
  rw [field, trimStart_digits h, number_digits h (by decide)]

theorem year_digits (h : Digits 4 ds) : year (ds ++ rest) = some ((value ds : Int), rest) := by
  have hnumber : number 1 (some 4) (ds ++ rest) = some (value ds, rest) :=
    number_digits h (by decide)
  obtain ⟨d, ds, rfl, hd⟩ := head?_digits h
  unfold year
  rw [trimStart_digits h]
  split
  · next heq =>
    cases heq
    cases hd
  · next heq =>
    cases heq
    cases hd
  · rw [hnumber]
    rfl

end

/-! ## Days -/

theorem char_self (c : Char) (cs : List Char) : char c (c :: cs) = some ((), cs) := if_pos rfl

theorem char_eq_some {c : Char} {cs rest : List Char} :
    char c cs = some ((), rest) ↔ cs = c :: rest := by
  cases cs with
  | nil => simp [char]
  | cons d cs => simp [char]

/-- A day in four, two and two digits. -/
structure DayText where
  year : List Char
  month : List Char
  day : List Char
  date : Date
  year_digits : Digits 4 year
  month_digits : Digits 2 month
  day_digits : Digits 2 day
  /-- The digits stand for a day of the calendar. -/
  isDate : Date.ofNumbers? (value year) (value month) (value day) = some date

/-- A day with hyphens between year, month and day. -/
def DayText.chars (t : DayText) : List Char := t.year ++ '-' :: (t.month ++ '-' :: t.day)

theorem date_chars (t : DayText) (rest : List Char) :
    date (t.chars ++ rest) = some (t.date, rest) := by
  simp only [DayText.chars, List.append_assoc, List.cons_append, date, Option.bind_eq_bind,
    year_digits t.year_digits, char_self, field_digits t.month_digits, field_digits t.day_digits,
    Option.bind_some, t.isDate, Option.pure_def]

theorem strictDate_eq_some_iff {cs rest : List Char} {d : Date} :
    strictDate cs = some (d, rest) ↔ ∃ t : DayText, cs = t.chars ++ rest ∧ d = t.date := by
  simp only [strictDate, Option.bind_eq_bind, Option.bind_eq_some_iff, Prod.exists,
    Option.pure_def, Option.some.injEq, Prod.mk.injEq, number_eq_some_iff]
  constructor
  · rintro ⟨_, _, ⟨ys, hys, rfl, rfl⟩, _, _, hc₁, _, _, ⟨ms, hms, rfl, rfl⟩, _, _, hc₂, _, _,
      ⟨ds, hds, rfl, rfl⟩, d, hd, rfl, rfl⟩
    rw [char_eq_some] at hc₁ hc₂
    subst hc₁ hc₂
    exact ⟨⟨ys, ms, ds, d, hys, hms, hds, hd⟩, by simp [DayText.chars], rfl⟩
  · rintro ⟨t, rfl, rfl⟩
    refine ⟨_, _, ⟨_, t.year_digits, ?_, rfl⟩, _, _, char_self _ _, _, _,
      ⟨_, t.month_digits, rfl, rfl⟩, _, _, char_self _ _, _, _, ⟨_, t.day_digits, rfl, rfl⟩, _,
      t.isDate, rfl, rfl⟩
    simp [DayText.chars]

/-! ## Fractions -/

/-- A fraction behind its point, if there is one. -/
def fractionChars : List Char → List Char
  | [] => []
  | d :: ds => '.' :: d :: ds

/-- The nanoseconds of a fraction; what is smaller is cut off. -/
def nanosOf (ds : List Char) : Nat := value ds * 10 ^ 9 / 10 ^ ds.length

/-- Nothing that could go on with a fraction of a second. -/
def AfterFraction (rest : List Char) : Prop := ∀ c ∈ rest.head?, c.isDigit = false ∧ c ≠ '.'

theorem nanosOf_eq {ds : List Char} (h : ∀ d ∈ ds, d.isDigit = true) :
    value (ds.take 9) * 10 ^ (9 - (ds.take 9).length) = nanosOf ds := by
  rw [nanosOf, List.length_take]
  rcases Nat.le_total ds.length 9 with hle | hle
  · have hpow : 10 ^ 9 = 10 ^ (9 - ds.length) * 10 ^ ds.length := by
      rw [← Nat.pow_add, Nat.sub_add_cancel hle]
    rw [List.take_of_length_le hle, Nat.min_eq_right hle, hpow, ← Nat.mul_assoc,
      Nat.mul_div_cancel _ (Nat.pow_pos (by decide))]
  · -- the digits behind the ninth are less than one nanosecond
    have hpow : 10 ^ ds.length = 10 ^ (ds.drop 9).length * 10 ^ 9 := by
      rw [← Nat.pow_add, List.length_drop, Nat.sub_add_cancel hle]
    have hlt : value (ds.drop 9) < 10 ^ (ds.drop 9).length :=
      value_lt fun d hd => h d (List.mem_of_mem_drop hd)
    have hsplit : value ds = value (ds.take 9) * 10 ^ (ds.drop 9).length + value (ds.drop 9) := by
      rw [← value_append, List.take_append_drop]
    rw [Nat.min_eq_left hle, hpow, Nat.mul_div_mul_right _ _ (by decide), hsplit, Nat.mul_comm,
      Nat.mul_comm (value (ds.take 9)), Nat.mul_add_div (Nat.pow_pos (by decide)),
      Nat.div_eq_of_lt hlt]
    omega

/-- All digits behind the point are read, and nine of them count. -/
theorem nanos_eq (cs : List Char) : nanos cs =
    if cs.takeWhile Char.isDigit = [] then none
    else some (nanosOf (cs.takeWhile Char.isDigit), cs.dropWhile Char.isDigit) := by
  have hdigits : ∀ d ∈ cs.takeWhile Char.isDigit, d.isDigit = true :=
    fun d hd => List.mem_takeWhile_imp hd
  have hle : (leadingDigits (some 9) cs).length ≤ (cs.takeWhile Char.isDigit).length :=
    (List.take_sublist _ _).length_le
  -- what nine digits leave of the digits is passed over
  have hrest : (cs.drop (leadingDigits (some 9) cs).length).dropWhile Char.isDigit =
      cs.dropWhile Char.isDigit := by
    have hdrop : ((cs.takeWhile Char.isDigit ++ cs.dropWhile Char.isDigit).drop
        (leadingDigits (some 9) cs).length).dropWhile Char.isDigit = cs.dropWhile Char.isDigit := by
      rw [List.drop_append_of_le_length hle,
        List.dropWhile_append_of_pos fun d hd => hdigits d (List.mem_of_mem_drop hd),
        List.dropWhile_idempotent]
    rwa [List.takeWhile_append_dropWhile] at hdrop
  have hempty : leadingDigits (some 9) cs = [] ↔ cs.takeWhile Char.isDigit = [] := by
    simp [leadingDigits]
  simp only [nanos, hrest, List.isEmpty_iff, hempty]
  split
  · rfl
  · exact congrArg (fun n => some (n, _)) (nanosOf_eq hdigits)

theorem fraction_chars {ds rest : List Char} (h : ∀ d ∈ ds, d.isDigit = true)
    (hrest : AfterFraction rest) :
    fraction (fractionChars ds ++ rest) = some (nanosOf ds, rest) := by
  cases ds with
  | nil =>
    unfold fraction
    split
    · next heq =>
      rw [fractionChars, List.nil_append] at heq
      exact absurd rfl (hrest '.' (by rw [heq]; rfl)).2
    · rfl
  | cons d ds =>
    have hstop : rest.takeWhile Char.isDigit = [] ∧ rest.dropWhile Char.isDigit = rest := by
      cases rest with
      | nil => exact ⟨rfl, rfl⟩
      | cons c rest =>
        have hc := (hrest c rfl).1
        exact ⟨List.takeWhile_cons_of_neg (by simp [hc]), List.dropWhile_cons_of_neg (by simp [hc])⟩
    show nanos (d :: ds ++ rest) = _
    rw [nanos_eq, List.takeWhile_append_of_pos h, List.dropWhile_append_of_pos h, hstop.1, hstop.2,
      List.append_nil, if_neg (List.cons_ne_nil d ds)]

theorem fraction_takes {cs rest : List Char} {n : Nat} (h : fraction cs = some (n, rest)) :
    ∃ ds, (∀ d ∈ ds, d.isDigit = true) ∧ cs = fractionChars ds ++ rest ∧ n = nanosOf ds := by
  unfold fraction at h
  split at h
  · next cs =>
    rw [nanos_eq, Option.ite_none_left_eq_some, Option.some.injEq, Prod.mk.injEq] at h
    obtain ⟨hne, rfl, rfl⟩ := h
    refine ⟨cs.takeWhile Char.isDigit, fun d hd => List.mem_takeWhile_imp hd, ?_, rfl⟩
    have hpoint : fractionChars (cs.takeWhile Char.isDigit) = '.' :: cs.takeWhile Char.isDigit := by
      obtain ⟨d, ds, hds⟩ := List.exists_cons_of_ne_nil hne
      rw [hds]
      rfl
    rw [hpoint, List.cons_append, List.takeWhile_append_dropWhile]
  · cases h
    exact ⟨[], by simp, rfl, rfl⟩

/-! ## Times of day -/

theorem timeOfDay_eq_some_iff {h m s n : Nat} {time : Nat × Nat} :
    timeOfDay h m s n = some time ↔ h ≤ 23 ∧ m ≤ 59 ∧ s ≤ 60 ∧
      time = (h * 3600 + m * 60 + min s 59, n + if s = 60 then 1000000000 else 0) := by
  unfold timeOfDay
  split
  · next hfits =>
    by_cases hleap : s = 60
    · subst hleap
      simp [hfits, eq_comm (a := time)]
    · have hmin : min s 59 = s := by omega
      simp [hfits, hleap, hmin, eq_comm (a := time)]
  · next hfits => exact ⟨nofun, fun h => absurd ⟨h.1, h.2.1, h.2.2.1⟩ hfits⟩

/-- A time of day in two digits each for hours, minutes and seconds, with the digits of a
fraction. -/
structure ClockText where
  hour : List Char
  minute : List Char
  second : List Char
  fraction : List Char
  hour_digits : Digits 2 hour
  minute_digits : Digits 2 minute
  second_digits : Digits 2 second
  fraction_digits : ∀ d ∈ fraction, d.isDigit = true
  hour_le : value hour ≤ 23
  minute_le : value minute ≤ 59
  second_le : value second ≤ 60

namespace ClockText

/-- A time of day with colons between hours, minutes and seconds. -/
def chars (t : ClockText) : List Char :=
  t.hour ++ ':' :: (t.minute ++ ':' :: (t.second ++ fractionChars t.fraction))

/-- The whole seconds since midnight; a 60th second is the 59th, run over by a second. -/
def seconds (t : ClockText) : Nat :=
  value t.hour * 3600 + value t.minute * 60 + min (value t.second) 59

/-- The nanoseconds beyond the whole seconds. -/
def nanos (t : ClockText) : Nat :=
  nanosOf t.fraction + if value t.second = 60 then 1000000000 else 0

theorem timeOfDay_eq (t : ClockText) :
    timeOfDay (value t.hour) (value t.minute) (value t.second) (nanosOf t.fraction) =
      some (t.seconds, t.nanos) :=
  timeOfDay_eq_some_iff.2 ⟨t.hour_le, t.minute_le, t.second_le, rfl⟩

end ClockText

theorem lenientTime_chars (t : ClockText) {rest : List Char} (hrest : AfterFraction rest) :
    lenientTime (t.chars ++ rest) = some ((t.seconds, t.nanos), rest) := by
  simp only [ClockText.chars, List.append_assoc, List.cons_append, lenientTime,
    Option.bind_eq_bind, field_digits t.hour_digits, char_self, field_digits t.minute_digits,
    field_digits t.second_digits, Option.bind_some, fraction_chars t.fraction_digits hrest,
    t.timeOfDay_eq, Option.pure_def]

theorem strictTime_chars (t : ClockText) {rest : List Char} (hrest : AfterFraction rest) :
    strictTime (t.chars ++ rest) = some ((t.seconds, t.nanos), rest) := by
  simp only [ClockText.chars, List.append_assoc, List.cons_append, strictTime,
    Option.bind_eq_bind, number_digits t.hour_digits (Nat.le_refl 2), char_self,
    number_digits t.minute_digits (Nat.le_refl 2), number_digits t.second_digits (Nat.le_refl 2),
    Option.bind_some, fraction_chars t.fraction_digits hrest, t.timeOfDay_eq, Option.pure_def]

theorem strictTime_takes {cs rest : List Char} {time : Nat × Nat}
    (h : strictTime cs = some (time, rest)) :
    ∃ t : ClockText, cs = t.chars ++ rest ∧ time = (t.seconds, t.nanos) := by
  simp only [strictTime, Option.bind_eq_bind, Option.bind_eq_some_iff, Prod.exists,
    Option.pure_def, Option.some.injEq, Prod.mk.injEq, number_eq_some_iff] at h
  obtain ⟨_, _, ⟨hs, hhs, rfl, rfl⟩, _, _, hc₁, _, _, ⟨ms, hms, rfl, rfl⟩, _, _, hc₂, _, _,
    ⟨ss, hss, rfl, rfl⟩, n, _, hf, _, _, htime, ⟨rfl, rfl⟩, rfl⟩ := h
  rw [char_eq_some] at hc₁ hc₂
  subst hc₁ hc₂
  obtain ⟨fs, hfs, rfl, rfl⟩ := fraction_takes hf
  obtain ⟨hle, mle, sle, htime⟩ := timeOfDay_eq_some_iff.1 htime
  exact ⟨⟨hs, ms, ss, fs, hhs, hms, hss, hfs, hle, mle, sle⟩, by simp [ClockText.chars], htime⟩

end Time

end RecordQuery
