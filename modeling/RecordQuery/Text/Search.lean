/-!
# Parts of texts

`Text.split` cuts a text at every occurrence of a character and `Text.splitFirst` at the first one
only; `Text.behind?` is what follows a text at the front of another, and `Text.occursIn` says
whether a text stands somewhere in another. Texts are lists of characters here.
-/

namespace RecordQuery.Text

/-- The parts between the occurrences of a character; there is always at least one. -/
def split (sep : Char) : List Char → List (List Char)
  | [] => [[]]
  | c :: cs =>
    if c = sep then [] :: split sep cs
    else
      match split sep cs with
      | [] => [[c]]
      | part :: parts => (c :: part) :: parts

theorem split_ne_nil (sep : Char) (cs : List Char) : split sep cs ≠ [] := by
  cases cs with
  | nil => simp [split]
  | cons c cs =>
    unfold split
    split
    · simp
    · split <;> simp

/-- The characters before the first occurrence of a character and, if there is one, those behind
it. -/
def splitFirst (sep : Char) : List Char → List Char × Option (List Char)
  | [] => ([], none)
  | c :: cs =>
    if c = sep then ([], some cs)
    else
      let (before, after) := splitFirst sep cs
      (c :: before, after)

/-- What follows a text at the front of another. -/
def behind? : List Char → List Char → Option (List Char)
  | [], cs => some cs
  | _ :: _, [] => none
  | f :: front, c :: cs => if f = c then behind? front cs else none

theorem behind?_eq_some_iff {front cs rest : List Char} :
    behind? front cs = some rest ↔ cs = front ++ rest := by
  induction front generalizing cs with
  | nil => simp [behind?]
  | cons f front ih =>
    cases cs with
    | nil => simp [behind?]
    | cons c cs =>
      by_cases h : f = c
      · simp [behind?, h, ih]
      · simp [behind?, h, Ne.symm h]

/-- Whether one text stands somewhere in another. -/
def occursIn (needle : List Char) : List Char → Bool
  | [] => needle.isEmpty
  | c :: cs => needle.isPrefixOf (c :: cs) || occursIn needle cs

end RecordQuery.Text
