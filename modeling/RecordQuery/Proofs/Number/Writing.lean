import RecordQuery.Number.Text
import RecordQuery.Proofs.Number.Shortest
import RecordQuery.Proofs.Text.Lowercase

/-!
# Written numbers are read back

However a number is laid out, its text is a decimal of the same value
(`Decimal.Layout.decimal?_place`), and so a finite double that is written and read is the same
double again, its sign included (`Number.binary64?_write`). A whole number that is written is read
as itself, and as a double it is the nearest one (`Number.integer?_toString`,
`Number.binary64?_toString`). What is written has no blanks and no capitals (`Number.plain_write`).
-/

namespace RecordQuery

namespace Number

/-! ## Digits -/

theorem isDigit_of_mem_toDigits {n : Nat} : ∀ c ∈ Nat.toDigits 10 n, c.isDigit = true :=
  fun _ hc => Nat.isDigit_of_mem_toDigits (by decide) (by decide) hc

theorem digits?_toDigits (n : Nat) : digits? (Nat.toDigits 10 n) = some n := by
  have hall : (Nat.toDigits 10 n).all Char.isDigit = true :=
    List.all_eq_true.2 isDigit_of_mem_toDigits
  rw [digits?, if_pos ⟨Nat.toDigits_ne_nil, hall⟩, Nat.ofDigitChars_ten_toDigits]

theorem exponent?_power (e : Int) : exponent? (Decimal.power e) = some e := by
  unfold Decimal.power exponent?
  rcases Int.lt_or_le e 0 with h | h
  · simp only [if_pos h, splitSign, digits?_toDigits]
    show some (-(e.natAbs : Int)) = some e
    congr 1
    omega
  · simp only [if_neg (Int.not_lt.2 h), splitSign, digits?_toDigits]
    show some (e.natAbs : Int) = some e
    congr 1
    omega

/-- Digits are taken up to what is no digit. -/
theorem span_digits {ds rest : List Char} (hds : ∀ c ∈ ds, c.isDigit = true)
    (hrest : ∀ c ∈ rest.head?, c.isDigit = false) :
    (ds ++ rest).takeWhile Char.isDigit = ds ∧ (ds ++ rest).dropWhile Char.isDigit = rest := by
  rw [List.takeWhile_append_of_pos hds, List.dropWhile_append_of_pos hds]
  cases rest with
  | nil => simp
  | cons c cs => simp [hrest c rfl]

/-! ## Decimals -/

/-- What may stand behind the digits of a number: its power, or nothing. -/
def Ends (tail : List Char) (e : Int) : Prop :=
  exponent? tail = some e ∧ ∀ c ∈ tail.head?, c.isDigit = false ∧ c ≠ '.'

theorem ends_nil : Ends [] 0 := ⟨rfl, nofun⟩

theorem ends_power (e : Int) : Ends (Decimal.power e) e :=
  ⟨exponent?_power e, fun c hc => by cases hc; decide⟩

variable {whole part tail : List Char} {e : Int}

theorem decimal?_whole (hwhole : ∀ c ∈ whole, c.isDigit = true) (hne : whole ≠ [])
    (htail : Ends tail e) :
    decimal? (whole ++ tail) = some ⟨Nat.ofDigitChars 10 whole 0, e⟩ := by
  obtain ⟨hexp, hhead⟩ := htail
  obtain ⟨htake, hdrop⟩ := span_digits hwhole fun c hc => (hhead c hc).1
  unfold decimal?
  rw [htake, hdrop]
  cases tail with
  | nil =>
    cases hexp
    simp [hne, exponent?]
  | cons c cs =>
    have hc : c ≠ '.' := (hhead c rfl).2
    simp [hne, hexp, hc]

theorem decimal?_point (hwhole : ∀ c ∈ whole, c.isDigit = true)
    (hpart : ∀ c ∈ part, c.isDigit = true) (hne : whole ≠ []) (htail : Ends tail e) :
    decimal? (whole ++ '.' :: (part ++ tail)) =
      some ⟨Nat.ofDigitChars 10 (whole ++ part) 0, e - part.length⟩ := by
  obtain ⟨hexp, hhead⟩ := htail
  have hpoint : ∀ c ∈ ('.' :: (part ++ tail)).head?, c.isDigit = false := by
    rintro c ⟨⟩
    decide
  obtain ⟨htake, hdrop⟩ := span_digits hwhole hpoint
  obtain ⟨htake', hdrop'⟩ := span_digits hpart fun c hc => (hhead c hc).1
  unfold decimal?
  rw [htake, hdrop]
  simp [hne, hexp, htake', hdrop']

end Number

namespace Decimal

open Number (Ends ends_nil ends_power)

theorem toRat_congr {d : Decimal} {digits : Nat} {exponent : Int} (h : digits = d.digits)
    (h' : exponent = d.exponent) : toRat ⟨digits, exponent⟩ = d.toRat := by
  rw [h, h']

theorem isDigit_of_mem_zeros {n : Nat} : ∀ c ∈ List.replicate n '0', c.isDigit = true := by
  intro c hc
  rw [List.eq_of_mem_replicate hc]
  rfl

/-- A whole number may end in `.0`. -/
theorem decimal?_pointZero {whole : List Char} (hwhole : ∀ c ∈ whole, c.isDigit = true)
    (hne : whole ≠ []) (pointZero : Bool) : ∃ d,
    Number.decimal? (whole ++ if pointZero then ['.', '0'] else []) = some d ∧
      d.toRat = Nat.ofDigitChars 10 whole 0 := by
  cases pointZero with
  | false => exact ⟨_, Number.decimal?_whole hwhole hne ends_nil, by simp [toRat]⟩
  | true =>
    refine ⟨_, Number.decimal?_point hwhole (isDigit_of_mem_zeros (n := 1)) hne ends_nil, ?_⟩
    rw [toRat, Nat.ofDigitChars_append, Nat.ofDigitChars_replicate_zero]
    push_cast
    norm_num
    ring

/-- A decimal laid out with a point: behind its digits, among them or before them. -/
theorem decimal?_plain {d : Decimal} {ds : List Char} {e : Int}
    (hdigits : ∀ c ∈ ds, c.isDigit = true) (hvalue : Nat.ofDigitChars 10 ds 0 = d.digits)
    (hne : ds ≠ []) (he : e = d.exponent + ds.length - 1) (pointZero : Bool) : ∃ d',
    Number.decimal?
      (if 0 ≤ d.exponent then
        ds ++ List.replicate d.exponent.toNat '0' ++ (if pointZero then ['.', '0'] else [])
      else if 0 ≤ e then ds.take (e + 1).toNat ++ '.' :: ds.drop (e + 1).toNat
      else '0' :: '.' :: List.replicate (-(e + 1)).toNat '0' ++ ds) = some d' ∧
      d'.toRat = d.toRat := by
  by_cases hwhole : 0 ≤ d.exponent
  · have hall : ∀ c ∈ ds ++ List.replicate d.exponent.toNat '0', c.isDigit = true :=
      List.forall_mem_append.2 ⟨hdigits, isDigit_of_mem_zeros⟩
    obtain ⟨d', hread, hval⟩ := decimal?_pointZero hall (by simp [hne]) pointZero
    rw [if_pos hwhole]
    refine ⟨d', hread, ?_⟩
    obtain ⟨k, hk⟩ := Int.eq_ofNat_of_zero_le hwhole
    rw [hval, toRat, Nat.ofDigitChars_append, hvalue, Nat.ofDigitChars_replicate_zero, hk,
      Int.toNat_natCast, zpow_natCast, mul_comm]
    push_cast
    rfl
  rw [if_neg hwhole]
  by_cases hfirst : 0 ≤ e
  · have htake : ds.take (e + 1).toNat ≠ [] := by
      simp only [ne_eq, List.take_eq_nil_iff, hne, or_false]
      omega
    have hdrop : ∀ c ∈ ds.drop (e + 1).toNat, c.isDigit = true := fun c hc =>
      hdigits c (List.mem_of_mem_drop hc)
    have hread := Number.decimal?_point (fun c hc => hdigits c (List.mem_of_mem_take hc)) hdrop
      htake ends_nil
    rw [List.append_nil, List.take_append_drop, List.length_drop] at hread
    rw [if_pos hfirst]
    exact ⟨_, hread, toRat_congr hvalue (by omega)⟩
  · have hpart : ∀ c ∈ List.replicate (-(e + 1)).toNat '0' ++ ds, c.isDigit = true :=
      List.forall_mem_append.2 ⟨isDigit_of_mem_zeros, hdigits⟩
    have hread := Number.decimal?_point (isDigit_of_mem_zeros (n := 1)) hpart (by decide) ends_nil
    rw [List.append_nil, ← List.append_assoc, ← List.replicate_add, Nat.ofDigitChars_append,
      Nat.ofDigitChars_replicate_zero, Nat.mul_zero, List.length_append,
      List.length_replicate] at hread
    rw [if_neg hfirst]
    exact ⟨_, hread, toRat_congr hvalue (by omega)⟩

/-- A decimal that is laid out is read as one of the same value. -/
theorem Layout.decimal?_place (l : Layout) (d : Decimal) : ∃ d',
    Number.decimal? (l.place d) = some d' ∧ d'.toRat = d.toRat := by
  unfold place
  extract_lets ds e plain
  have hdigits : ∀ c ∈ ds, c.isDigit = true := Number.isDigit_of_mem_toDigits
  have hvalue : Nat.ofDigitChars 10 ds 0 = d.digits := Nat.ofDigitChars_ten_toDigits
  have hne : ds ≠ [] := Nat.toDigits_ne_nil
  have he : e = d.exponent + ds.length - 1 := rfl
  clear_value plain e ds
  by_cases hd : d.digits = 0
  · obtain ⟨d', hread, hval⟩ := decimal?_pointZero (isDigit_of_mem_zeros (n := 1)) (by decide)
      l.pointZero
    rw [if_pos hd]
    refine ⟨d', hread, ?_⟩
    rw [hval, toRat, hd, Nat.ofDigitChars_replicate_zero]
    simp
  rw [if_neg hd]
  by_cases hplain : plain = true
  · rw [if_pos hplain]
    exact decimal?_plain hdigits hvalue hne he l.pointZero
  · -- with a power the exponent is that of the first digit
    rw [if_neg hplain]
    split
    · rw [List.length_singleton] at he
      exact ⟨_, Number.decimal?_whole hdigits hne (ends_power e), toRat_congr hvalue (by omega)⟩
    · next c rest _ =>
      rw [List.forall_mem_cons] at hdigits
      have hread := Number.decimal?_point (List.forall_mem_singleton.2 hdigits.1) hdigits.2
        (List.cons_ne_nil c []) (ends_power e)
      rw [List.length_cons] at he
      exact ⟨_, hread, toRat_congr hvalue (by omega)⟩
    · exact absurd rfl hne

end Decimal

namespace Number

/-! ## Doubles -/

theorem splitSign_of_decimal? {cs : List Char} {d : Decimal} (h : decimal? cs = some d) :
    splitSign cs = (false, cs) := by
  unfold splitSign
  split
  · cases h
  · cases h
  · rfl

theorem binary64?_of_decimal? {cs : List Char} {d : Decimal} (h : decimal? cs = some d)
    (negative : Bool) :
    binary64? ((if negative then ['-'] else []) ++ cs) = some (d.toBinary64 negative) := by
  unfold binary64?
  cases negative with
  | false =>
    have hsign := splitSign_of_decimal? h
    simp [hsign, h]
  | true => simp [splitSign, h]

/-- However a finite double is laid out, it is read back. -/
theorem binary64?_write (l : Decimal.Layout) {x : Binary64} (hx : x.isFinite = true) :
    binary64? (l.write x).toList = some x := by
  have hfinite : x.magnitude < Binary64.infinite := of_decide_eq_true hx
  obtain ⟨d, hread, hvalue⟩ := l.decimal?_place (Decimal.shortest l.tie x.magnitude)
  have hwrite : (l.write x).toList =
      (if x.isNegative then ['-'] else []) ++
        l.place (Decimal.shortest l.tie x.magnitude) := by
    simp [Decimal.Layout.write, Binary64.isNaN_eq_false_of_isFinite hx, hx]
  rw [hwrite, binary64?_of_decimal? hread, Decimal.toBinary64,
    Decimal.toMagnitude_shortest hfinite hvalue, Binary64.ofMagnitude_magnitude]

/-! ## Whole numbers -/

theorem toList_toString (i : Int) :
    (toString i).toList = (if i < 0 then ['-'] else []) ++ Nat.toDigits 10 i.natAbs := by
  cases i with
  | ofNat n =>
    have hnat : toString (Int.ofNat n) = n.repr := rfl
    rw [hnat, Nat.toList_repr]
    rfl
  | negSucc n =>
    have hneg : toString (Int.negSucc n) = "-" ++ (n + 1).repr := rfl
    rw [hneg, String.toList_append, Nat.toList_repr, if_pos (Int.negSucc_lt_zero n)]
    rfl

theorem splitSign_toString (i : Int) :
    splitSign (toString i).toList = (decide (i < 0), Nat.toDigits 10 i.natAbs) := by
  rw [toList_toString]
  by_cases hi : i < 0
  · rw [if_pos hi, decide_eq_true hi]
    rfl
  · have hread := decimal?_whole (isDigit_of_mem_toDigits (n := i.natAbs)) Nat.toDigits_ne_nil
      ends_nil
    rw [List.append_nil] at hread
    rw [if_neg hi, decide_eq_false hi, List.nil_append, splitSign_of_decimal? hread]

theorem isInt64_toInt (i : Int64) : isInt64 i.toInt = true := by
  rw [isInt64, Bool.and_eq_true, decide_eq_true_eq, decide_eq_true_eq]
  exact ⟨i.le_toInt, i.toInt_lt⟩

theorem integer?_toString (i : Int64) : integer? (toString i).toList = some i := by
  have hvalue : (if decide (i.toInt < 0) = true then -(i.toInt.natAbs : Int) else i.toInt.natAbs) =
      i.toInt := by
    simp only [decide_eq_true_eq]
    split_ifs <;> omega
  change integer? (toString i.toInt).toList = some i
  unfold integer?
  rw [splitSign_toString]
  dsimp only
  rw [digits?_toDigits]
  dsimp only
  rw [hvalue, if_pos (isInt64_toInt i), Int64.ofInt_toInt]

/-- A whole number is read as the double nearest to it. -/
theorem binary64?_toString {i : Int} (hi : isInt64 i = true) :
    binary64? (toString i).toList = some (Binary64.ofInt i) := by
  have hread := decimal?_whole (isDigit_of_mem_toDigits (n := i.natAbs)) Nat.toDigits_ne_nil
    ends_nil
  rw [List.append_nil, Nat.ofDigitChars_ten_toDigits] at hread
  have hwidth : Decimal.width i.natAbs ≤ 19 := by
    simp only [isInt64, Bool.and_eq_true, decide_eq_true_eq] at hi
    rw [Decimal.width_le_iff (by decide)]
    omega
  have hmagnitude : Decimal.toMagnitude ⟨i.natAbs, 0⟩ = Binary64.roundRatio i.natAbs 1 := by
    unfold Decimal.toMagnitude
    by_cases h0 : i.natAbs = 0
    · simp [h0, Binary64.roundRatio]
    · dsimp only
      rw [if_neg h0, if_neg (by omega), if_neg (by omega)]
      simp
  unfold binary64?
  rw [splitSign_toString]
  dsimp only
  rw [hread]
  dsimp only
  rw [Decimal.toBinary64, hmagnitude]
  rfl

/-! ## Characters -/

theorem plain_toDigits (n : Nat) : Text.Plain (Nat.toDigits 10 n) :=
  Text.plain_of_isDigit isDigit_of_mem_toDigits

theorem plain_toString (i : Int) : Text.Plain (toString i).toList := by
  rw [toList_toString]
  refine .append ?_ (plain_toDigits _)
  split <;> decide

theorem plain_power (e : Int) : Text.Plain (Decimal.power e) := by
  have hmark : Text.Plain ['e', if e < 0 then '-' else '+'] := by
    split <;> decide
  exact hmark.append (plain_toDigits _)

theorem plain_place (l : Decimal.Layout) (d : Decimal) : Text.Plain (l.place d) := by
  have hzero : Text.Plain (if l.pointZero = true then ['.', '0'] else []) := by
    split <;> decide
  have hzeros (n : Nat) : Text.Plain (List.replicate n '0') :=
    Text.plain_of_isDigit Decimal.isDigit_of_mem_zeros
  have hone : Text.Plain ['0'] := by decide
  have hpoint : Text.Plain ['.'] := by decide
  unfold Decimal.Layout.place
  extract_lets ds e plain
  have hds : Text.Plain ds := plain_toDigits _
  clear_value plain e ds
  split
  · exact hone.append hzero
  split
  · split
    · exact (hds.append (hzeros _)).append hzero
    split
    · have htake : Text.Plain (ds.take (e + 1).toNat) := fun c hc => hds c (List.mem_of_mem_take hc)
      have hdrop : Text.Plain (ds.drop (e + 1).toNat) := fun c hc => hds c (List.mem_of_mem_drop hc)
      exact htake.append (hpoint.append hdrop)
    · exact (hone.append (hpoint.append (hzeros _))).append hds
  · split
    · exact hds.append (plain_power e)
    · next c rest _ =>
      have hc : Text.Plain [c] := List.forall_mem_singleton.2 (List.forall_mem_cons.1 hds).1
      have hrest : Text.Plain rest := (List.forall_mem_cons.1 hds).2
      exact (hc.append (hpoint.append hrest)).append (plain_power e)
    · exact hds

theorem plain_write (l : Decimal.Layout) {x : Binary64} (hx : x.isNaN = false)
    (hinfinity : Text.Plain l.infinity.toList) : Text.Plain (l.write x).toList := by
  have hsign : Text.Plain (if x.isNegative then ['-'] else []) := by
    split <;> decide
  unfold Decimal.Layout.write
  extract_lets sign
  rw [hx, if_neg (by decide)]
  split
  · rw [String.toList_ofList]
    exact hsign.append hinfinity
  · rw [String.toList_ofList]
    exact hsign.append (plain_place l _)

end Number

end RecordQuery
