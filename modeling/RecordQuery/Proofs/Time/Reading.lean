import RecordQuery.Proofs.Text.Blank
import RecordQuery.Time.Reader

/-!
# What the readers of dates and instants take

A reader leaves an end of the text that it is given (`Time.Reader.Consumes`), and most readers end on
a character that is not blank (`Time.Reader.EndsVisible`). So blanks behind a day or a timestamp
always make it unreadable. Blanks in front of a day are passed over and those in front of a
timestamp with a time offset are not. Either way what can be read can be read when trimmed, with the
same result (`Date.ofText?_trim`, `Instant.ofOffsetText?_trim`).
-/

namespace RecordQuery

namespace Time

variable {α : Type}

namespace Reader

/-- What is left is an end of the text. -/
def Consumes (r : Reader α) : Prop := ∀ ⦃cs a rest⦄, r cs = some (a, rest) → rest <:+ cs

/-- Something is read, and its last character is not blank. -/
def EndsVisible (r : Reader α) : Prop := ∀ ⦃cs a rest⦄, r cs = some (a, rest) →
  ∃ front c, cs = front ++ c :: rest ∧ Text.isBlank c = false

theorem EndsVisible.consumes {r : Reader α} (h : r.EndsVisible) : r.Consumes := by
  intro cs a rest hr
  obtain ⟨front, c, rfl, -⟩ := h hr
  exact ⟨front ++ [c], by simp⟩

/-- A reader that ends on a visible character does so in every longer text that ends in its own. -/
theorem EndsVisible.of_suffix {r : Reader α} (hr : r.EndsVisible) {cs cs' rest : List Char} {a : α}
    (h : r cs' = some (a, rest)) (hs : cs' <:+ cs) :
    ∃ front c, cs = front ++ c :: rest ∧ Text.isBlank c = false := by
  obtain ⟨front, c, rfl, hc⟩ := hr h
  obtain ⟨before, rfl⟩ := hs
  exact ⟨before ++ front, c, by simp, hc⟩

theorem exists_of_map {β : Type} {r : Reader α} {f : α × List Char → β} {cs rest : List Char}
    {b : β} (h : ((r cs).map fun p => (f p, p.2)) = some (b, rest)) :
    ∃ a, r cs = some (a, rest) := by
  obtain ⟨⟨a, _⟩, ha, hrest⟩ := Option.map_eq_some_iff.1 h
  cases hrest
  exact ⟨a, ha⟩

end Reader

open Reader

theorem all?_eq_some {r : Reader α} {cs : List Char} {a : α} :
    all? r cs = some a ↔ r cs = some (a, []) := by
  unfold all?
  split
  · next b hb => simp [hb]
  · next h => simpa using h a

/-! ## Numbers -/

theorem leadingDigits_isPrefix (most : Option Nat) (cs : List Char) :
    leadingDigits most cs <+: cs := by
  cases most with
  | none => exact List.takeWhile_prefix _
  | some n => exact (List.take_prefix n _).trans (List.takeWhile_prefix _)

theorem isDigit_of_mem_leadingDigits {most : Option Nat} {cs : List Char} {d : Char}
    (h : d ∈ leadingDigits most cs) : d.isDigit = true := by
  cases most with
  | none => exact List.mem_takeWhile_imp h
  | some n => exact List.mem_takeWhile_imp (List.mem_of_mem_take h)

/-- A number takes digits, at least as many as it must. -/
theorem number_takes {least : Nat} {most : Option Nat} {cs rest : List Char} {n : Nat}
    (h : number least most cs = some (n, rest)) :
    ∃ ds, cs = ds ++ rest ∧ least ≤ ds.length ∧ ∀ d ∈ ds, d.isDigit = true := by
  simp only [number] at h
  split at h
  · cases h
  · next hlen =>
    cases h
    refine ⟨leadingDigits most cs, ?_, by omega, fun d => isDigit_of_mem_leadingDigits⟩
    exact (List.prefix_iff_eq_append.1 (leadingDigits_isPrefix most cs)).symm

theorem number_consumes {least : Nat} {most : Option Nat} : (number least most).Consumes := by
  intro cs n rest h
  obtain ⟨ds, rfl, -⟩ := number_takes h
  exact List.suffix_append ds rest

theorem number_endsVisible {least : Nat} {most : Option Nat} (h : 0 < least) :
    (number least most).EndsVisible := by
  intro cs n rest hr
  obtain ⟨ds, rfl, hlen, hds⟩ := number_takes hr
  rcases List.eq_nil_or_concat ds with rfl | ⟨front, c, rfl⟩
  · simp at hlen
    omega
  · exact ⟨front, c, by simp, Text.isBlank_of_isDigit (hds c (by simp))⟩

theorem field_endsVisible : field.EndsVisible := by
  intro cs n rest h
  exact (number_endsVisible Nat.one_pos).of_suffix h (List.dropWhile_suffix _)

theorem char_consumes (c : Char) : (char c).Consumes := by
  intro cs a rest h
  cases cs with
  | nil => cases h
  | cons d cs =>
    simp only [char] at h
    split at h
    · cases h
      exact List.suffix_cons _ _
    · cases h

/-! ## Days -/

theorem year_consumes : year.Consumes := by
  intro cs y rest h
  have hstart : Text.trimStart cs <:+ cs := List.dropWhile_suffix _
  unfold year at h
  split at h
  · next cs' hcs =>
    obtain ⟨n, hn⟩ := exists_of_map h
    exact ((number_consumes hn).trans (List.suffix_cons '-' cs')).trans (hcs ▸ hstart)
  · next cs' hcs =>
    obtain ⟨n, hn⟩ := exists_of_map h
    exact ((number_consumes hn).trans (List.suffix_cons '+' cs')).trans (hcs ▸ hstart)
  · obtain ⟨n, hn⟩ := exists_of_map h
    exact (number_consumes hn).trans hstart

theorem year_trimStart (cs : List Char) : year (Text.trimStart cs) = year cs := by
  unfold year
  rw [Text.trimStart_trimStart]

theorem date_trimStart (cs : List Char) : date (Text.trimStart cs) = date cs := by
  unfold date
  rw [year_trimStart]

/-- The steps by which a day is read. -/
theorem date_parts {cs rest : List Char} {d : Date} (h : date cs = some (d, rest)) :
    ∃ y cs₁ cs₂ m cs₃ cs₄ n, year cs = some (y, cs₁) ∧ char '-' cs₁ = some ((), cs₂) ∧
      field cs₂ = some (m, cs₃) ∧ char '-' cs₃ = some ((), cs₄) ∧ field cs₄ = some (n, rest) := by
  simp only [date, Option.bind_eq_bind, Option.bind_eq_some_iff, Prod.exists, Option.pure_def,
    Option.some.injEq, Prod.mk.injEq] at h
  obtain ⟨y, cs₁, hy, _, cs₂, hc₁, m, cs₃, hm, _, cs₄, hc₂, n, cs₅, hn, _, _, _, rfl⟩ := h
  exact ⟨y, cs₁, cs₂, m, cs₃, cs₄, n, hy, hc₁, hm, hc₂, hn⟩

theorem date_endsVisible : date.EndsVisible := by
  intro cs d rest h
  obtain ⟨y, cs₁, cs₂, m, cs₃, cs₄, n, hy, hc₁, hm, hc₂, hn⟩ := date_parts h
  exact field_endsVisible.of_suffix hn ((char_consumes _ hc₂).trans
    ((field_endsVisible.consumes hm).trans ((char_consumes _ hc₁).trans (year_consumes hy))))

/-! ## Timestamps with a time offset -/

theorem fraction_consumes : fraction.Consumes := by
  intro cs n rest h
  unfold fraction at h
  split at h
  · next cs =>
    simp only [nanos] at h
    split at h
    · cases h
    · cases h
      exact ((List.dropWhile_suffix _).trans (List.drop_suffix _ _)).trans (List.suffix_cons '.' cs)
  · cases h
    exact List.suffix_refl _

theorem strictTime_consumes : strictTime.Consumes := by
  intro cs t rest h
  simp only [strictTime, Option.bind_eq_bind, Option.bind_eq_some_iff, Prod.exists,
    Option.pure_def, Option.some.injEq, Prod.mk.injEq] at h
  obtain ⟨_, cs₁, hh, _, cs₂, hc₁, _, cs₃, hm, _, cs₄, hc₂, _, cs₅, hs, _, cs₆, hf, _, _, _, _,
    rfl⟩ := h
  exact (fraction_consumes hf).trans ((number_consumes hs).trans ((char_consumes _ hc₂).trans
    ((number_consumes hm).trans ((char_consumes _ hc₁).trans (number_consumes hh)))))

theorem offsetSeconds_endsVisible : offsetSeconds.EndsVisible := by
  intro cs o rest h
  simp only [offsetSeconds, Option.bind_eq_bind, Option.bind_eq_some_iff, Prod.exists] at h
  obtain ⟨_, cs₁, hh, _, cs₂, hc, _, cs₃, hm, h⟩ := h
  split at h
  · cases h
    exact (number_endsVisible Nat.two_pos).of_suffix hm
      ((char_consumes _ hc).trans (number_consumes hh))
  · cases h

theorem offset_endsVisible : offset.EndsVisible := by
  intro cs o rest h
  unfold offset at h
  split at h
  · cases h
    exact ⟨[], 'Z', rfl, by decide⟩
  · cases h
    exact ⟨[], 'z', rfl, by decide⟩
  · exact offsetSeconds_endsVisible.of_suffix h (List.suffix_cons _ _)
  · obtain ⟨n, hn⟩ := exists_of_map h
    exact offsetSeconds_endsVisible.of_suffix hn (List.suffix_cons _ _)
  · obtain ⟨n, hn⟩ := exists_of_map h
    exact offsetSeconds_endsVisible.of_suffix hn (List.suffix_cons _ _)
  · cases h

/-- A timestamp is a day, a letter or a space, a time of day and a time offset. -/
theorem offsetInstant_parts {cs rest : List Char} {i : Instant}
    (h : offsetInstant cs = some (i, rest)) : ∃ d sep cs₁ time cs₂ o,
      strictDate cs = some (d, sep :: cs₁) ∧ (sep = 'T' ∨ sep = 't' ∨ sep = ' ') ∧
      strictTime cs₁ = some (time, cs₂) ∧ offset cs₂ = some (o, rest) ∧
      i = instantOf d time o := by
  have tail : ∀ {d : Date} {cs₁ : List Char},
      ((strictTime cs₁).bind fun t => (offset t.2).bind fun o =>
        pure (instantOf d t.1 o.1, o.2)) = some (i, rest) →
      ∃ time cs₂ o, strictTime cs₁ = some (time, cs₂) ∧ offset cs₂ = some (o, rest) ∧
        i = instantOf d time o := by
    intro d cs₁ ht
    obtain ⟨⟨time, cs₂⟩, htime, ht⟩ := Option.bind_eq_some_iff.1 ht
    obtain ⟨⟨o, _⟩, ho, ht⟩ := Option.bind_eq_some_iff.1 ht
    cases ht
    exact ⟨time, cs₂, o, htime, ho, rfl⟩
  simp only [offsetInstant, Option.bind_eq_bind, Option.bind_eq_some_iff, Prod.exists] at h
  obtain ⟨d, cs₁, hd, h⟩ := h
  split at h
  · obtain ⟨time, cs₂, o, htime, ho, rfl⟩ := tail h
    exact ⟨d, _, _, time, cs₂, o, hd, .inl rfl, htime, ho, rfl⟩
  · obtain ⟨time, cs₂, o, htime, ho, rfl⟩ := tail h
    exact ⟨d, _, _, time, cs₂, o, hd, .inr (.inl rfl), htime, ho, rfl⟩
  · obtain ⟨time, cs₂, o, htime, ho, rfl⟩ := tail h
    exact ⟨d, _, _, time, cs₂, o, hd, .inr (.inr rfl), htime, ho, rfl⟩
  · cases h

theorem strictDate_consumes : strictDate.Consumes := by
  intro cs d rest h
  simp only [strictDate, Option.bind_eq_bind, Option.bind_eq_some_iff, Prod.exists,
    Option.pure_def, Option.some.injEq, Prod.mk.injEq] at h
  obtain ⟨_, cs₁, hy, _, cs₂, hc₁, _, cs₃, hm, _, cs₄, hc₂, _, cs₅, hn, _, _, _, rfl⟩ := h
  exact (number_consumes hn).trans ((char_consumes _ hc₂).trans ((number_consumes hm).trans
    ((char_consumes _ hc₁).trans (number_consumes hy))))

/-- A strict day begins with a digit. -/
theorem head?_of_strictDate {cs rest : List Char} {d : Date}
    (h : strictDate cs = some (d, rest)) : ∃ c, cs.head? = some c ∧ c.isDigit = true := by
  simp only [strictDate, Option.bind_eq_bind, Option.bind_eq_some_iff, Prod.exists] at h
  obtain ⟨y, cs₁, hy, -⟩ := h
  obtain ⟨ds, rfl, hlen, hds⟩ := number_takes hy
  cases ds with
  | nil => cases hlen
  | cons c ds => exact ⟨c, rfl, hds c List.mem_cons_self⟩

theorem offsetInstant_endsVisible : offsetInstant.EndsVisible := by
  intro cs i rest h
  obtain ⟨d, sep, cs₁, time, cs₂, o, hd, -, htime, ho, -⟩ := offsetInstant_parts h
  exact offset_endsVisible.of_suffix ho ((strictTime_consumes htime).trans
    ((List.suffix_cons sep cs₁).trans (strictDate_consumes hd)))

end Time

/-! ## Trimming -/

/-- What a reader reads of a whole text and ends on a visible character needs no trimming behind. -/
theorem Time.Reader.EndsVisible.trimChars_eq {α : Type} {r : Reader α} (hr : r.EndsVisible)
    {cs : List Char} {a : α} (h : all? r cs = some a) : Text.trimChars cs = Text.trimStart cs := by
  obtain ⟨front, c, rfl, hc⟩ := hr (all?_eq_some.1 h)
  exact Text.trimChars_eq_trimStart hc

theorem Date.ofText?_trim {s : String} {d : Date} (h : ofText? s = some d) :
    ofText? (Text.trim s) = some d := by
  unfold ofText? at h ⊢
  rw [Text.toList_trim, Time.date_endsVisible.trimChars_eq h, Time.all?_eq_some,
    Time.date_trimStart, ← Time.all?_eq_some, h]

theorem Instant.ofOffsetText?_trim {s : String} {i : Instant} (h : ofOffsetText? s = some i) :
    ofOffsetText? (Text.trim s) = some i := by
  unfold ofOffsetText? at h ⊢
  have hfront : Text.trimStart s.toList = s.toList := by
    obtain ⟨d, sep, cs₁, time, cs₂, o, hd, -⟩ := Time.offsetInstant_parts (Time.all?_eq_some.1 h)
    obtain ⟨c, hc, hdigit⟩ := Time.head?_of_strictDate hd
    refine Text.trimStart_eq_self fun c' hc' => ?_
    obtain rfl : c = c' := Option.some.inj (hc.symm.trans hc')
    exact Text.isBlank_of_isDigit hdigit
  rw [Text.toList_trim, Time.offsetInstant_endsVisible.trimChars_eq h, hfront, h]

end RecordQuery
