/-!
# ASCII case

Field names, operators, connectives, directions and the keys of submitted queries are compared
ignoring the case of the 26 ASCII letters and of nothing else: `Text.asciiFold` maps `A`–`Z` to
`a`–`z`, and `Text.sameIgnoringCase` compares two texts after folding.
-/

namespace RecordQuery.Text

/-- A text with its ASCII letters in lower case. -/
def asciiFold (s : String) : String := String.ofList (s.toList.map Char.toLower)

/-- Whether two texts are equal up to the case of ASCII letters. -/
def sameIgnoringCase (s t : String) : Bool := s.toList.map Char.toLower == t.toList.map Char.toLower

@[simp]
theorem toList_asciiFold (s : String) : (asciiFold s).toList = s.toList.map Char.toLower := by
  simp [asciiFold]

theorem sameIgnoringCase_iff {s t : String} :
    sameIgnoringCase s t = true ↔ asciiFold s = asciiFold t := by
  simp [sameIgnoringCase, asciiFold, String.ofList_inj]

theorem sameIgnoringCase_refl (s : String) : sameIgnoringCase s s = true := by
  simp [sameIgnoringCase]

theorem sameIgnoringCase_symm {s t : String} (h : sameIgnoringCase s t = true) :
    sameIgnoringCase t s = true := by
  rw [sameIgnoringCase_iff] at *; exact h.symm

theorem sameIgnoringCase_trans {s t u : String} (h : sameIgnoringCase s t = true)
    (h' : sameIgnoringCase t u = true) : sameIgnoringCase s u = true := by
  rw [sameIgnoringCase_iff] at *; exact h.trans h'

theorem sameIgnoringCase_comm (s t : String) : sameIgnoringCase s t = sameIgnoringCase t s := by
  rw [Bool.eq_iff_iff]
  exact ⟨sameIgnoringCase_symm, sameIgnoringCase_symm⟩

theorem sameIgnoringCase_congr_left {s t : String} (h : sameIgnoringCase s t = true) (u : String) :
    sameIgnoringCase s u = sameIgnoringCase t u := by
  rw [Bool.eq_iff_iff]
  exact ⟨sameIgnoringCase_trans (sameIgnoringCase_symm h), sameIgnoringCase_trans h⟩

theorem sameIgnoringCase_congr_right {s t : String} (h : sameIgnoringCase s t = true)
    (u : String) : sameIgnoringCase u s = sameIgnoringCase u t := by
  rw [sameIgnoringCase_comm u s, sameIgnoringCase_comm u t, sameIgnoringCase_congr_left h]

end RecordQuery.Text
