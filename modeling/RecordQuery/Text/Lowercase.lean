import RecordQuery.Text.CaseTables
import RecordQuery.Text.Ranges

/-!
# Lower case

`Text.lowercase` is the full lower case mapping of Unicode without a locale. Each character goes to
its own lower case form, with two rules beyond the table: capital I with a dot above becomes `i`
followed by the combining dot, and a capital sigma becomes the final form at the end of a word,
that is, when a cased letter stands before it and none after it, case ignorable characters between
them not counting (`Text.endsWord`). Text fields and their operands are compared in this form unless
a condition asks for case.
-/

namespace RecordQuery.Text

/-- Whether a character is skipped when the letters around a sigma are sought. -/
def isCaseIgnorable (c : Char) : Bool := inRanges caseIgnorableRanges c.toNat

/-- Whether a character is a letter with case and not case ignorable. -/
def isCased (c : Char) : Bool := inRanges casedRanges c.toNat

/-- Whether the first character that is not case ignorable is cased. -/
def startsCased (cs : List Char) : Bool :=
  match cs.dropWhile isCaseIgnorable with
  | [] => false
  | c :: _ => isCased c

/-- Whether a sigma between `before` (nearest character first) and `after` ends a word. -/
def endsWord (before after : List Char) : Bool := startsCased before && !startsCased after

/-- The lower case code point of a capital letter in one row of the table. -/
def LowerRow.image? (r : LowerRow) (n : Nat) : Option Nat :=
  if r.first ≤ n ∧ n ≤ r.last ∧ (n - r.first) % r.step = 0 then some (r.image + (n - r.first))
  else none

/-- The lower case form of a character outside its context. -/
def lowerChar (c : Char) : Char :=
  if c.toNat < 0x80 then c.toLower
  else
    match lowerRows.findSome? (·.image? c.toNat) with
    | some n => Char.ofNat n
    | none => c

/-- The lower case form of `cs`, where `before` holds the characters in front of it, the nearest
one first. -/
def lowerAfter (before : List Char) : List Char → List Char
  | [] => []
  | c :: cs =>
    let image :=
      if c = 'Σ' then [if endsWord before cs then 'ς' else 'σ']
      else if c = 'İ' then ['i', '\u0307']
      else [lowerChar c]
    image ++ lowerAfter (c :: before) cs

/-- The lower case form of a text. -/
def lowercase (s : String) : String := String.ofList (lowerAfter [] s.toList)

end RecordQuery.Text
