import RecordQuery.Proofs.Json.Token

/-!
# Reading written numbers

A number ends where something stands that cannot go on with it, and inside a document only a comma,
a closing bracket or the end follows it (`Json.Delimited`). `Json.Number.ReadAs n m` says that the
text of `n` is read as `m` wherever it stands in a document.

Whole numbers of 64 bits, with a sign or without, are read as themselves (`Json.Number.readAs_int`).
Nothing is said about doubles: reading rounds more than once, so they need not come back.
-/

namespace RecordQuery.Json

/-- What may follow a number inside a document: nothing, a comma or a closing bracket. -/
def Delimited (rest : List UInt8) : Prop :=
  ∀ b ∈ rest.head?, b = 0x2C ∨ b = 0x5D ∨ b = 0x7D

theorem delimited_nil : Delimited [] := fun _ h => nomatch h

theorem delimited_cons {b : UInt8} {bs : List UInt8} (h : b = 0x2C ∨ b = 0x5D ∨ b = 0x7D) :
    Delimited (b :: bs) := by
  rintro _ ⟨⟩
  exact h

/-- The text of a number is read as a number, wherever it stands in a document. -/
structure Number.ReadAs (n m : Number) : Prop where
  head : ∃ b bs, bytesOf n.text = b :: bs ∧ isSpace b = false ∧ b ≠ 0x5D
  read : ∀ {fuel room offset : Nat} {rest : List UInt8}, Delimited rest → ∃ stop,
    readValue (fuel + 1) room ⟨bytesOf n.text ++ rest, offset⟩ =
      (.number m stop, some ⟨rest, stop⟩)

theorem Number.ReadAs.unique {n m m' : Number} (h : n.ReadAs m) (h' : n.ReadAs m') : m = m' := by
  obtain ⟨stop, hread⟩ := @h.read 0 0 0 [] delimited_nil
  obtain ⟨stop', hread'⟩ := @h'.read 0 0 0 [] delimited_nil
  rw [hread] at hread'
  cases hread'
  rfl

/-! ## Digits -/

/-- The byte of a digit. -/
def digitByte (c : Char) : UInt8 := UInt8.ofNat c.toNat

theorem toNat_digitByte {c : Char} (h : c.isDigit) : (digitByte c).toNat = c.toNat := by
  have hle : c.toNat ≤ 57 := (Char.isDigit_iff_toNat.1 h).2
  exact UInt8.toNat_ofNat_of_lt' (show c.toNat < 256 by omega)

theorem isDigitByte_digitByte {c : Char} (h : c.isDigit) : isDigitByte (digitByte c) = true := by
  have hbounds : 48 ≤ c.toNat ∧ c.toNat ≤ 57 := Char.isDigit_iff_toNat.1 h
  rw [isDigitByte, Bool.and_eq_true, decide_eq_true_iff, decide_eq_true_iff, UInt8.le_iff_toNat_le,
    UInt8.le_iff_toNat_le, toNat_digitByte h]
  exact hbounds

theorem digitValue_digitByte {c : Char} (h : c.isDigit) :
    digitValue (digitByte c) = c.toNat - '0'.toNat := by
  rw [digitValue, toNat_digitByte h]
  rfl

theorem charBytes_digits {cs : List Char} (h : ∀ c ∈ cs, c.isDigit) :
    charBytes cs = cs.map digitByte := by
  induction cs with
  | nil => rfl
  | cons c cs ih =>
    have hc : c.toNat ≤ 57 := (Char.isDigit_iff_toNat.1 (h c List.mem_cons_self)).2
    rw [List.map_cons, ← ih fun c hc => h c (List.mem_cons_of_mem _ hc), charBytes,
      List.flatMap_cons, utf8EncodeChar_ascii (show c.toNat < 0x80 by omega)]
    rfl

theorem le_ofDigitChars (cs : List Char) (n : Nat) : n ≤ Nat.ofDigitChars 10 cs n := by
  induction cs generalizing n with
  | nil => exact Nat.le_refl n
  | cons c cs ih =>
    rw [Nat.ofDigitChars_cons]
    exact Nat.le_trans (by omega) (ih _)

/-- Digits whose number fits into 64 bits are all read. -/
theorem wholeDigits_digits {cs : List Char} (h : ∀ c ∈ cs, c.isDigit) {rest : List UInt8}
    (hrest : Delimited rest) (significand offset : Nat)
    (hfits : Nat.ofDigitChars 10 cs significand < UInt64.size) :
    wholeDigits significand 0 (cs.map digitByte ++ rest) offset =
      (Nat.ofDigitChars 10 cs significand, 0, ⟨rest, offset + cs.length⟩) := by
  induction cs generalizing significand offset with
  | nil =>
    cases rest with
    | nil => rfl
    | cons b bs =>
      have hb : isDigitByte b = false := by
        rcases hrest b rfl with rfl | rfl | rfl <;> rfl
      simp [wholeDigits, hb, Nat.ofDigitChars]
  | cons c cs ih =>
    have hc := h c List.mem_cons_self
    rw [Nat.ofDigitChars_cons] at hfits ⊢
    have hfit : fits significand (digitByte c) = true := by
      rw [fits, digitValue_digitByte hc, decide_eq_true_iff]
      exact Nat.lt_of_le_of_lt (le_ofDigitChars cs _) hfits
    rw [List.map_cons, List.cons_append, wholeDigits, isDigitByte_digitByte hc, hfit,
      digitValue_digitByte hc]
    simp only [Bool.not_true, Bool.false_eq_true, if_false, decide_true, Bool.and_true, if_true]
    rw [ih (fun c hc => h c (List.mem_cons_of_mem _ hc)) _ _ hfits, List.length_cons,
      Nat.add_right_comm, Nat.add_assoc]

/-- Only zero is written with a zero in front. -/
theorem head?_toDigits_ne {n : Nat} (h : 0 < n) : (Nat.toDigits 10 n).head? ≠ some '0' := by
  induction n using Nat.strongRecOn with
  | ind n ih =>
    by_cases hn : n < 10
    · have hdigits : ∀ d < 10, 0 < d → Nat.digitChar d ≠ '0' := by decide
      rw [Nat.toDigits_of_lt_base hn, List.head?_cons, ne_eq, Option.some.injEq]
      exact hdigits n hn h
    · rw [Nat.toDigits_of_base_le (by decide) (Nat.le_of_not_lt hn),
        List.head?_append_of_ne_nil _ Nat.toDigits_ne_nil]
      exact ih (n / 10) (by omega) (by omega)

/-! ## Whole numbers -/

theorem bytesOf_toString (n : Nat) :
    bytesOf (toString n) = (Nat.toDigits 10 n).map digitByte := by
  have hdigits : ∀ c ∈ Nat.toDigits 10 n, c.isDigit := fun c hc =>
    Nat.isDigit_of_mem_toDigits (by decide) (by decide) hc
  rw [Nat.toString_eq_repr, Nat.repr_eq_ofList_toDigits, bytesOf_ofList, charBytes_digits hdigits]

/-- The digits of a number of 64 bits are read back, with or without a minus before them. -/
theorem readNumber_toString {n : Nat} (hn : n < UInt64.size) (negative : Bool)
    {rest : List UInt8} (hrest : Delimited rest) (offset : Nat) : ∃ stop,
    readNumber negative ⟨bytesOf (toString n) ++ rest, offset⟩ =
      .ok (wholeNumber negative n, ⟨rest, stop⟩) := by
  have hdigits : ∀ c ∈ Nat.toDigits 10 n, c.isDigit := fun c hc =>
    Nat.isDigit_of_mem_toDigits (by decide) (by decide) hc
  have hvalue : Nat.ofDigitChars 10 (Nat.toDigits 10 n) 0 = n :=
    Nat.ofDigitChars_toDigits (by decide) (by decide)
  rw [bytesOf_toString]
  rcases hcs : Nat.toDigits 10 n with _ | ⟨c, cs⟩
  · exact absurd hcs Nat.toDigits_ne_nil
  rw [hcs] at hdigits hvalue
  have hc := hdigits c List.mem_cons_self
  rw [Nat.ofDigitChars_cons, Nat.mul_zero, Nat.zero_add, ← digitValue_digitByte hc] at hvalue
  have hwhole := wholeDigits_digits (fun c hc => hdigits c (List.mem_cons_of_mem _ hc)) hrest
    (digitValue (digitByte c)) (offset + 1) (hvalue.symm ▸ hn)
  rw [hvalue] at hwhole
  -- a zero in front is the whole number, so nothing stands behind it
  have hfront : ¬ (digitByte c = 0x30 ∧ offset + 1 + cs.length ≠ offset + 1) := by
    rintro ⟨hzero, hlength⟩
    have hc0 : c = '0' := Char.toNat_inj.1 (by rw [← toNat_digitByte hc, hzero]; rfl)
    have hn0 : n = 0 := by
      by_contra hpos
      exact head?_toDigits_ne (Nat.pos_of_ne_zero hpos) (by rw [hcs, hc0]; rfl)
    subst hn0
    cases hcs
    exact hlength rfl
  refine ⟨offset + 1 + cs.length, ?_⟩
  rw [readNumber, List.map_cons, List.cons_append]
  simp only [isDigitByte_digitByte hc, hwhole, Bool.not_true, Bool.false_eq_true, if_false, hfront,
    if_true]
  cases rest with
  | nil => rfl
  | cons b bs =>
    rcases hrest b rfl with rfl | rfl | rfl <;> rfl

theorem head_bytesOf_toString (n : Nat) : ∃ b bs,
    bytesOf (toString n) = b :: bs ∧ isDigitByte b = true := by
  rw [bytesOf_toString]
  rcases hcs : Nat.toDigits 10 n with _ | ⟨c, cs⟩
  · exact absurd hcs Nat.toDigits_ne_nil
  · have hc : c.isDigit := Nat.isDigit_of_mem_toDigits (by decide) (by decide)
      (hcs ▸ List.mem_cons_self : c ∈ Nat.toDigits 10 n)
    exact ⟨_, _, rfl, isDigitByte_digitByte hc⟩

theorem numberTree_ok {negative : Bool} {c after : Cursor} {n : Number}
    (h : readNumber negative c = .ok (n, after)) :
    numberTree negative c = (.number n after.offset, some after) := by
  rw [numberTree, h]

theorem Number.readAs_nat {n : Nat} (hn : n < UInt64.size) : (Number.int n).ReadAs (.int n) := by
  obtain ⟨b, bs, hbytes, hb⟩ := head_bytesOf_toString n
  have hne (b' : UInt8) (hb' : isDigitByte b' = false) : b ≠ b' := by
    rintro rfl
    rw [hb] at hb'
    cases hb'
  have hspace : isSpace b = false := by
    simp [isSpace, hne 0x20 rfl, hne 0x0A rfl, hne 0x09 rfl,
      hne 0x0D rfl]
  refine ⟨⟨b, bs, hbytes, hspace, hne _ rfl⟩, fun {fuel room offset rest} hrest => ?_⟩
  obtain ⟨stop, hread⟩ := readNumber_toString hn false hrest offset
  refine ⟨stop, ?_⟩
  have hvalue : readValue (fuel + 1) room ⟨b :: (bs ++ rest), offset⟩ =
      numberTree false ⟨b :: (bs ++ rest), offset⟩ := by
    rw [readValue, Cursor.settle, skipSpace, hspace]
    simp [hne 0x6E rfl, hne 0x74 rfl, hne 0x66 rfl, hne 0x2D rfl, hb]
  have htext : bytesOf (Number.int n).text ++ rest = b :: (bs ++ rest) :=
    congrArg (· ++ rest) hbytes
  rw [htext, hvalue, numberTree_ok (by rw [← List.cons_append, ← hbytes]; exact hread)]
  rfl

theorem Number.readAs_neg {n : Nat} (hpos : 0 < n) (hn : n ≤ 0x8000000000000000) :
    (Number.int (-n)).ReadAs (.int (-n)) := by
  have hbytes : bytesOf (Number.int (-n)).text = 0x2D :: bytesOf (toString n) := by
    obtain ⟨m, rfl⟩ : ∃ m, n = m + 1 := ⟨n - 1, by omega⟩
    exact bytesOf_append "-" (toString (m + 1))
  refine ⟨⟨_, _, hbytes, rfl, by decide⟩, fun {fuel room offset rest} hrest => ?_⟩
  obtain ⟨stop, hread⟩ := readNumber_toString (show n < UInt64.size from
    Nat.lt_of_le_of_lt hn (by decide)) true hrest (offset + 1)
  have hwhole : wholeNumber true n = .int (-n) := by
    simp [wholeNumber, hpos, hn]
  have hvalue : readValue (fuel + 1) room ⟨0x2D :: (bytesOf (toString n) ++ rest), offset⟩ =
      numberTree true ⟨bytesOf (toString n) ++ rest, offset + 1⟩ := by
    rw [readValue]
    rfl
  rw [hwhole] at hread
  exact ⟨stop, by rw [hbytes, List.cons_append, hvalue, numberTree_ok hread]⟩

/-- Whole numbers of 64 bits, with a sign or without, are read as themselves. -/
theorem Number.readAs_int {i : Int} (hlow : -0x8000000000000000 ≤ i) (hhigh : i < UInt64.size) :
    (Number.int i).ReadAs (.int i) := by
  rcases Int.lt_or_le i 0 with hneg | hpos
  · obtain ⟨n, rfl⟩ := Int.exists_eq_neg_ofNat (Int.le_of_lt hneg)
    exact readAs_neg (by omega) (by omega)
  · obtain ⟨n, rfl⟩ := Int.eq_ofNat_of_zero_le hpos
    exact readAs_nat (by omega)

end RecordQuery.Json
