import Mathlib.Data.List.Infix
import RecordQuery.Proofs.Text.Blank
import RecordQuery.Text.Lowercase

/-!
# Laws of the lower case

The lower case form of a part of a text is seldom in doubt: only a capital sigma looks at what
stands around it. `Text.lowerBetween` is the form of a text between two others, and it is the same
as that of the text alone exactly if every capital sigma ends a word there where it ends one in the
text alone (`Text.SigmasKeep`, `Text.lowerBetween_eq_iff`).

So a text at the front or at the end of another one is found there in lower case exactly if its
sigmas keep their forms (`Text.lower_prefix_iff`, `Text.lower_suffix_iff`), and where they do it is
found in the middle as well (`Text.lower_infix`).

Texts of visible ASCII characters without capitals are their own lower case form
(`Text.Plain.lowercase_eq`). The other way round, an ASCII word is the lower case form of nothing
but its own spellings in ASCII, unless it has a `k`, which is the lower case form of the Kelvin sign
as well (`Text.Kless.lowercase_eq_iff`).
-/

namespace RecordQuery.Text

/-- A character in lower case between others, those before it the nearest one first. -/
def lowerImage (before : List Char) (c : Char) (after : List Char) : List Char :=
  if c = 'Σ' then [if endsWord before after then 'ς' else 'σ']
  else if c = 'İ' then ['i', '\u0307']
  else [lowerChar c]

/-- A text in lower case between others, those before it the nearest one first. -/
def lowerBetween (before : List Char) : List Char → List Char → List Char
  | [], _ => []
  | c :: cs, after => lowerImage before c (cs ++ after) ++ lowerBetween (c :: before) cs after

/-- Every capital sigma ends a word between others exactly if it ends one in the text alone. -/
def SigmasKeep (before cs after : List Char) : Prop :=
  ∀ front rest, cs = front ++ 'Σ' :: rest →
    endsWord (front.reverse ++ before) (rest ++ after) = endsWord front.reverse rest

theorem sigmasKeep_of_notMem {before cs after : List Char} (h : 'Σ' ∉ cs) :
    SigmasKeep before cs after := by
  rintro front rest rfl
  exact absurd (List.mem_append_right front List.mem_cons_self) h

/-! ## Parts -/

theorem lowerAfter_append (before cs after : List Char) :
    lowerAfter before (cs ++ after) =
      lowerBetween before cs after ++ lowerAfter (cs.reverse ++ before) after := by
  induction cs generalizing before with
  | nil => rfl
  | cons c cs ih =>
    have hstep : lowerAfter before (c :: (cs ++ after)) =
        lowerImage before c (cs ++ after) ++ lowerAfter (c :: before) (cs ++ after) := rfl
    rw [List.cons_append, hstep, ih, lowerBetween, List.append_assoc, List.reverse_cons,
      List.append_assoc, List.singleton_append]

theorem lowerBetween_nil (before cs : List Char) :
    lowerBetween before cs [] = lowerAfter before cs := by
  have happend := lowerAfter_append before cs []
  rwa [List.append_nil, lowerAfter, List.append_nil, eq_comm] at happend

theorem length_lowerImage (before before' : List Char) (c : Char) (after after' : List Char) :
    (lowerImage before c after).length = (lowerImage before' c after').length := by
  unfold lowerImage
  split
  · rfl
  · rfl

theorem length_lowerBetween (before before' cs after after' : List Char) :
    (lowerBetween before cs after).length = (lowerBetween before' cs after').length := by
  induction cs generalizing before before' with
  | nil => rfl
  | cons c cs ih =>
    rw [lowerBetween, lowerBetween, List.length_append, List.length_append,
      length_lowerImage before before' c (cs ++ after) (cs ++ after'), ih]

theorem lowerImage_eq_iff {before before' : List Char} {c : Char} {after after' : List Char} :
    lowerImage before c after = lowerImage before' c after' ↔
      (c = 'Σ' → endsWord before after = endsWord before' after') := by
  unfold lowerImage
  by_cases hc : c = 'Σ'
  · cases endsWord before after <;> cases endsWord before' after' <;> simp [hc]
  · simp [hc]

/-- Between others a text has another lower case form only through its sigmas. -/
theorem lowerBetween_eq_lowerBetween_iff {before before' cs after after' : List Char} :
    lowerBetween before cs after = lowerBetween before' cs after' ↔
      ∀ front rest, cs = front ++ 'Σ' :: rest →
        endsWord (front.reverse ++ before) (rest ++ after) =
          endsWord (front.reverse ++ before') (rest ++ after') := by
  induction cs generalizing before before' with
  | nil => simp [lowerBetween]
  | cons c cs ih =>
    have hlength := length_lowerImage before before' c (cs ++ after) (cs ++ after')
    have hsplit : lowerBetween before (c :: cs) after = lowerBetween before' (c :: cs) after' ↔
        lowerImage before c (cs ++ after) = lowerImage before' c (cs ++ after') ∧
          lowerBetween (c :: before) cs after = lowerBetween (c :: before') cs after' := by
      constructor
      · exact fun h => List.append_inj h hlength
      · rintro ⟨himage, hrest⟩
        rw [lowerBetween, lowerBetween, himage, hrest]
    rw [hsplit, lowerImage_eq_iff, ih]
    constructor
    · rintro ⟨hc, hrest⟩ front rest heq
      cases front with
      | nil =>
        obtain ⟨rfl, rfl⟩ := List.cons.inj heq
        exact hc rfl
      | cons d front =>
        obtain ⟨rfl, hcs⟩ := List.cons.inj heq
        simpa using hrest front rest hcs
    · intro h
      refine ⟨?_, fun front rest heq => ?_⟩
      · rintro rfl
        exact h [] cs rfl
      · simpa using h (c :: front) rest (by rw [heq]; rfl)

/-- Between others a text has the lower case form that it has alone exactly if its sigmas keep
their forms. -/
theorem lowerBetween_eq_iff {before cs after : List Char} :
    lowerBetween before cs after = lowerAfter [] cs ↔ SigmasKeep before cs after := by
  rw [← lowerBetween_nil, lowerBetween_eq_lowerBetween_iff]
  simp [SigmasKeep]

/-! ## Finding -/

theorem length_lowerBetween_eq (before cs after : List Char) :
    (lowerBetween before cs after).length = (lowerAfter [] cs).length := by
  rw [← lowerBetween_nil]
  exact length_lowerBetween _ _ _ _ _

theorem lower_prefix_iff {cs rest : List Char} :
    lowerAfter [] cs <+: lowerAfter [] (cs ++ rest) ↔ SigmasKeep [] cs rest := by
  rw [lowerAfter_append, ← lowerBetween_eq_iff]
  constructor
  · rintro ⟨t, ht⟩
    exact (List.append_inj ht (length_lowerBetween_eq [] cs rest).symm).1.symm
  · intro h
    rw [h]
    exact List.prefix_append _ _

theorem lower_suffix_iff {front cs : List Char} :
    lowerAfter [] cs <:+ lowerAfter [] (front ++ cs) ↔ SigmasKeep front.reverse cs [] := by
  rw [lowerAfter_append, List.append_nil, ← lowerBetween_nil front.reverse, ← lowerBetween_eq_iff]
  constructor
  · rintro ⟨t, ht⟩
    exact (List.append_inj' ht (length_lowerBetween_eq front.reverse cs []).symm).2.symm
  · intro h
    rw [h]
    exact List.suffix_append _ _

theorem lower_infix {front cs rest : List Char} (h : SigmasKeep front.reverse cs rest) :
    lowerAfter [] cs <:+: lowerAfter [] (front ++ (cs ++ rest)) := by
  rw [lowerAfter_append, lowerAfter_append, List.append_nil, lowerBetween_eq_iff.2 h,
    ← List.append_assoc]
  exact List.infix_append _ _ _

/-! ## Plain texts -/

/-- The characters are visible, of ASCII, and no capitals. -/
def Plain (cs : List Char) : Prop := ∀ c ∈ cs, 33 ≤ c.toNat ∧ c.toNat ≤ 126 ∧ c.toLower = c

instance (cs : List Char) : Decidable (Plain cs) :=
  List.decidableBAll (fun c : Char => 33 ≤ c.toNat ∧ c.toNat ≤ 126 ∧ c.toLower = c) cs

theorem plain_of_isDigit {cs : List Char} (h : ∀ c ∈ cs, c.isDigit = true) : Plain cs := by
  intro c hc
  have hbounds : 48 ≤ c.toNat ∧ c.toNat ≤ 57 := Char.isDigit_iff_toNat.1 (h c hc)
  have hlower : c.toLower = c := by
    rw [← Char.toNat_inj, toNat_toLower, if_neg (by omega)]
  exact ⟨by omega, by omega, hlower⟩

theorem Plain.append {cs ds : List Char} (hc : Plain cs) (hd : Plain ds) : Plain (cs ++ ds) :=
  List.forall_mem_append.2 ⟨hc, hd⟩

theorem Plain.trim_eq {s : String} (h : Plain s.toList) : trim s = s := by
  have hblank : ∀ c ∈ s.toList, isBlank c = false := by
    intro c hc
    obtain ⟨hlow, hhigh, -⟩ := h c hc
    exact isBlank_of_visible ⟨hlow, hhigh⟩
  rw [← String.toList_inj, toList_trim, trimChars_eq_self hblank]

theorem Plain.lowerAfter_eq {cs : List Char} (h : Plain cs) (before : List Char) :
    lowerAfter before cs = cs := by
  induction cs generalizing before with
  | nil => rfl
  | cons c cs ih =>
    obtain ⟨⟨-, hhigh, hlower⟩, hcs⟩ := List.forall_mem_cons.1 h
    have hsigma : c ≠ 'Σ' := by
      rintro rfl
      exact absurd hhigh (by decide)
    have hdotted : c ≠ 'İ' := by
      rintro rfl
      exact absurd hhigh (by decide)
    have hchar : lowerChar c = c := by
      rw [lowerChar, if_pos (by omega), hlower]
    rw [lowerAfter, ih hcs, if_neg hsigma, if_neg hdotted, hchar]
    rfl

theorem Plain.lowercase_eq {s : String} (h : Plain s.toList) : lowercase s = s := by
  rw [lowercase, h.lowerAfter_eq, String.ofList_toList]

/-! ## ASCII words -/

/-- The lower case forms of a run lie outside ASCII, but for the letters of ASCII itself and for the
Kelvin sign, whose lower case form is `k`. -/
theorem LowerRow.outside_ascii {r : LowerRow} (hr : r ∈ lowerRows) :
    r.last < 0x80 ∨ 0x80 ≤ r.image ∨ r.first = r.last ∧ r.image = 'k'.toNat := by
  have hall : ∀ r ∈ lowerRows,
      r.last < 0x80 ∨ 0x80 ≤ r.image ∨ r.first = r.last ∧ r.image = 'k'.toNat := by
    decide +kernel
  exact hall r hr

/-- A number that is no code point stands for the null character. -/
theorem toNat_ofNat (n : Nat) : (Char.ofNat n).toNat = n ∨ (Char.ofNat n).toNat = 0 := by
  by_cases hn : n.isValidChar
  · left
    rw [Char.ofNat, dif_pos hn]
    rfl
  · right
    rw [Char.ofNat, dif_neg hn]
    rfl

/-- A word of ASCII without `k`, whose lower case form other characters have as well. -/
def Kless (cs : List Char) : Prop := ∀ c ∈ cs, 0 < c.toNat ∧ c.toNat < 0x80 ∧ c ≠ 'k'

instance (cs : List Char) : Decidable (Kless cs) :=
  List.decidableBAll (fun c : Char => 0 < c.toNat ∧ c.toNat < 0x80 ∧ c ≠ 'k') cs

/-- A character whose lower case form is of ASCII is so itself, unless the form is `k`. -/
theorem toNat_lt_of_lowerChar {c : Char} (hpos : 0 < (lowerChar c).toNat)
    (hlt : (lowerChar c).toNat < 0x80) (hk : lowerChar c ≠ 'k') : c.toNat < 0x80 := by
  by_contra hc
  rw [lowerChar, if_neg hc] at hpos hlt hk
  split at hlt
  · next n hn =>
    obtain ⟨r, hr, himage⟩ := List.exists_of_findSome?_eq_some hn
    rw [LowerRow.image?, Option.ite_none_right_eq_some, Option.some.injEq] at himage
    obtain ⟨⟨hfirst, hlast, -⟩, himage⟩ := himage
    have hcode := toNat_ofNat n
    simp only [hn] at hpos hk
    rcases LowerRow.outside_ascii hr with h | h | ⟨hone, h⟩
    · omega
    · omega
    · refine hk ?_
      rw [← himage, h, show c.toNat - r.first = 0 by omega]
      rfl
  · exact hc hlt

theorem lowerImage_append_eq_cons_iff {before after rest w : List Char} {c d : Char}
    (hw : Kless (d :: w)) :
    lowerImage before c after ++ rest = d :: w ↔ c.toLower = d ∧ rest = w := by
  obtain ⟨⟨hpos, hlt, hk⟩, hrest⟩ := List.forall_mem_cons.1 hw
  have hne : ∀ {x : Char}, 0x80 ≤ x.toNat → x ≠ d := by
    rintro x hx rfl
    exact absurd hlt (Nat.not_lt_of_le hx)
  unfold lowerImage
  split
  · next hc =>
    -- no form of a sigma is of ASCII
    have himage : (if endsWord before after then 'ς' else 'σ') ≠ d := by
      split <;> exact hne (by decide)
    have hsigma : c.toLower ≠ d := hc ▸ hne (by decide)
    simp [himage, hsigma]
  · split
    · next hc =>
      -- the letter is followed by a combining dot
      have hdotted : c.toLower ≠ d := hc ▸ hne (by decide)
      have hdot : '\u0307' :: rest ≠ w := by
        rintro rfl
        exact absurd (hrest _ List.mem_cons_self).2.1 (by decide)
      simp [hdotted, hdot]
    · rw [List.singleton_append, List.cons.injEq]
      refine and_congr_left fun _ => ⟨?_, ?_⟩
      · rintro rfl
        rw [lowerChar, if_pos (toNat_lt_of_lowerChar hpos hlt hk)]
      · rintro rfl
        have hc : c.toNat < 0x80 := by
          rw [toNat_toLower] at hlt
          split at hlt <;> omega
        rw [lowerChar, if_pos hc]

theorem Kless.lowerAfter_eq_iff {w : List Char} (hw : Kless w) {before cs : List Char} :
    lowerAfter before cs = w ↔ cs.map Char.toLower = w := by
  induction cs generalizing before w with
  | nil => rfl
  | cons c cs ih =>
    have hstep : lowerAfter before (c :: cs) =
        lowerImage before c cs ++ lowerAfter (c :: before) cs := rfl
    rw [hstep, List.map_cons]
    cases w with
    | nil =>
      have himage : lowerImage before c cs ≠ [] := by
        unfold lowerImage
        split_ifs <;> simp
      simp [himage]
    | cons d w =>
      rw [lowerImage_append_eq_cons_iff hw, ih (List.forall_mem_cons.1 hw).2, List.cons.injEq]

/-- Such a word is the lower case form of exactly the texts that are the word but for the case of
ASCII letters. -/
theorem Kless.lowercase_eq_iff {s w : String} (hw : Kless w.toList) :
    lowercase s = w ↔ asciiFold s = w := by
  rw [lowercase, asciiFold, ← String.toList_inj, ← String.toList_inj, String.toList_ofList,
    String.toList_ofList, hw.lowerAfter_eq_iff]

end RecordQuery.Text
