import Mathlib.Data.List.DropRight
import Mathlib.Data.List.TakeWhile
import RecordQuery.Text.AsciiCase
import RecordQuery.Text.Blank

/-!
# Laws of trimming

A text is blank exactly when nothing is left of it after trimming (`isBlankText_iff`). Trimming a
second time changes nothing (`trim_trim`), nor does trimming a text without blanks
(`trimChars_eq_self`). A letter is not blank in either case, so trimming and folding the case of
ASCII letters can change places (`trim_asciiFold`), and folding neither makes a text blank nor keeps
it from being so (`isBlankText_asciiFold`).
-/

namespace RecordQuery.Text

theorem trimChars_eq (cs : List Char) :
    trimChars cs = (cs.dropWhile isBlank).rdropWhile isBlank := rfl

theorem trimChars_eq_nil_iff {cs : List Char} : trimChars cs = [] ↔ ∀ c ∈ cs, isBlank c = true := by
  rw [trimChars_eq, List.rdropWhile_eq_nil_iff]
  constructor
  · intro h c hc
    rw [← List.takeWhile_append_dropWhile (p := isBlank) (l := cs), List.mem_append] at hc
    exact hc.elim List.mem_takeWhile_imp (h c)
  · intro h c hc
    exact h c ((List.dropWhile_sublist _).mem hc)

/-- A text is blank exactly when trimming leaves nothing. -/
theorem isBlankText_iff {s : String} : isBlankText s = true ↔ trim s = "" := by
  rw [isBlankText, List.all_eq_true, ← trimChars_eq_nil_iff, trim, ← String.toList_inj]
  simp

theorem dropWhile_trimChars (cs : List Char) : (trimChars cs).dropWhile isBlank = trimChars cs := by
  obtain ⟨rest, hrest⟩ := List.rdropWhile_prefix isBlank (l := cs.dropWhile isBlank)
  rw [← trimChars_eq] at hrest
  cases h : trimChars cs with
  | nil => rfl
  | cons c front =>
    -- the first character that stays is the first one that is not blank
    have hc := List.head?_dropWhile_not isBlank cs
    rw [← hrest, h] at hc
    rw [List.dropWhile_cons_of_neg (by simpa using hc)]

theorem trimChars_trimChars (cs : List Char) : trimChars (trimChars cs) = trimChars cs := by
  rw [trimChars_eq (trimChars cs), dropWhile_trimChars, trimChars_eq, List.rdropWhile_idempotent]

@[simp]
theorem toList_trim (s : String) : (trim s).toList = trimChars s.toList := by simp [trim]

@[simp]
theorem trim_trim (s : String) : trim (trim s) = trim s := by
  rw [trim, toList_trim, trimChars_trimChars, trim]

/-! ## Texts without blanks at their ends -/

/-- A printing ASCII character other than the space is not blank. -/
theorem isBlank_of_visible {c : Char} (h : 33 ≤ c.toNat ∧ c.toNat ≤ 126) : isBlank c = false := by
  simp only [isBlank, inRanges, blankRanges, List.any_cons, List.any_nil]
  grind

theorem isBlank_of_isDigit {c : Char} (h : c.isDigit = true) : isBlank c = false := by
  simp only [Char.isDigit, Bool.and_eq_true, decide_eq_true_eq] at h
  have hlow : 48 ≤ c.toNat := h.1
  have hhigh : c.toNat ≤ 57 := h.2
  exact isBlank_of_visible (by omega)

theorem trimStart_eq_self {cs : List Char} (h : ∀ c, cs.head? = some c → isBlank c = false) :
    trimStart cs = cs := by
  cases cs with
  | nil => rfl
  | cons c cs => exact List.dropWhile_cons_of_neg (by simp [h c rfl])

theorem trimStart_trimStart (cs : List Char) : trimStart (trimStart cs) = trimStart cs :=
  List.dropWhile_idempotent isBlank cs

/-- Where the last character is not blank, there is only the front to trim. -/
theorem trimChars_eq_trimStart {front : List Char} {c : Char} (h : isBlank c = false) :
    trimChars (front ++ [c]) = trimStart (front ++ [c]) := by
  rw [trimChars_eq, trimStart, List.dropWhile_append]
  split <;> simp [h, List.rdropWhile_concat_neg]

theorem trimChars_eq_self {cs : List Char} (h : ∀ c ∈ cs, isBlank c = false) :
    trimChars cs = cs := by
  rcases List.eq_nil_or_concat cs with rfl | ⟨front, c, rfl⟩
  · rfl
  · rw [List.concat_eq_append] at *
    rw [trimChars_eq_trimStart (h c (by simp)), trimStart_eq_self]
    exact fun d hd => h d (List.mem_of_head? hd)

/-! ## The case of letters -/

/-- The code point of a letter in lower case. -/
theorem toNat_toLower (c : Char) :
    c.toLower.toNat = if 65 ≤ c.toNat ∧ c.toNat ≤ 90 then c.toNat + 32 else c.toNat := by
  by_cases h : 65 ≤ c.toNat ∧ c.toNat ≤ 90
  · have hv : c.val ≥ 'A'.val ∧ c.val ≤ 'Z'.val := h
    have hlower : c.toLower.val = c.val + ('a'.val - 'A'.val) := congrArg Char.val (dif_pos hv)
    rw [if_pos h, Char.toNat, hlower]
    exact Nat.mod_eq_of_lt (by have := h.2; change c.toNat + 32 < 2 ^ 32; omega)
  · have hv : ¬ (c.val ≥ 'A'.val ∧ c.val ≤ 'Z'.val) := h
    have hlower : c.toLower = c := dif_neg hv
    rw [if_neg h, hlower]

@[simp]
theorem toLower_toLower (c : Char) : c.toLower.toLower = c.toLower := by
  have h := toNat_toLower c
  rw [← Char.toNat_inj, toNat_toLower c.toLower, if_neg]
  split at h <;> omega

theorem isBlank_toLower (c : Char) : isBlank c.toLower = isBlank c := by
  simp only [isBlank, toNat_toLower]
  split
  · simp only [inRanges, blankRanges, List.any_cons, List.any_nil]
    grind
  · rfl

theorem trimChars_map_toLower (cs : List Char) :
    trimChars (cs.map Char.toLower) = (trimChars cs).map Char.toLower := by
  have hf : isBlank ∘ Char.toLower = isBlank := funext isBlank_toLower
  rw [trimChars, List.dropWhile_map, hf, ← List.map_reverse, List.dropWhile_map, hf,
    ← List.map_reverse, trimChars]

theorem trim_asciiFold (s : String) : trim (asciiFold s) = asciiFold (trim s) := by
  rw [trim, toList_asciiFold, trimChars_map_toLower, asciiFold, toList_trim]

@[simp]
theorem asciiFold_asciiFold (s : String) : asciiFold (asciiFold s) = asciiFold s := by
  simp [asciiFold, Function.comp_def]

@[simp]
theorem isBlankText_asciiFold (s : String) : isBlankText (asciiFold s) = isBlankText s := by
  simp [isBlankText, isBlank_toLower, List.all_map, Function.comp_def]

@[simp]
theorem isBlankText_trim (s : String) : isBlankText (trim s) = isBlankText s := by
  rw [Bool.eq_iff_iff, isBlankText_iff, isBlankText_iff, trim_trim]

end RecordQuery.Text
