import RecordQuery.Text.Ranges

/-!
# Blank characters

`Text.isBlank` holds exactly on the characters with the Unicode property White_Space.
`Text.trim` drops the blank characters at both ends of a text and `Text.trimStart` those at its
beginning. Names, operators, directions and all operands but text ones are trimmed before they are
looked at.
-/

namespace RecordQuery.Text

/-- The code points with the property White_Space, as closed ranges. -/
def blankRanges : List (Nat × Nat) :=
  [(0x09, 0x0D), (0x20, 0x20), (0x85, 0x85), (0xA0, 0xA0), (0x1680, 0x1680), (0x2000, 0x200A),
   (0x2028, 0x2029), (0x202F, 0x202F), (0x205F, 0x205F), (0x3000, 0x3000)]

/-- Whether a character is white space. -/
def isBlank (c : Char) : Bool := inRanges blankRanges c.toNat

theorem isBlank_of_isWhitespace {c : Char} (h : c.isWhitespace = true) : isBlank c = true := by
  simp only [Char.isWhitespace, Bool.or_eq_true, decide_eq_true_eq] at h
  rcases h with ((h | h) | h) | h <;> subst h <;> decide

/-- The characters from the first one that is not blank. -/
def trimStart (cs : List Char) : List Char := cs.dropWhile isBlank

/-- The characters without the blank ones at either end. -/
def trimChars (cs : List Char) : List Char :=
  ((cs.dropWhile isBlank).reverse.dropWhile isBlank).reverse

/-- A text without the blank characters at either end. -/
def trim (s : String) : String := String.ofList (trimChars s.toList)

/-- Whether a text holds blank characters only. -/
def isBlankText (s : String) : Bool := s.toList.all isBlank

end RecordQuery.Text
