import RecordQuery.Number.Decimal

/-!
# Reading numbers

`Number.integer?` reads a signed whole number of 64 bits and `Number.binary64?` a double precision
number; both take the whole text and allow no blanks. A number is digits with at most one point
among, before or after them, and an exponent if wanted; `inf`, `infinity` and `nan` in any case are
read too. It is rounded once, to the nearest double. `Number.natural?` reads an unsigned number
below a bound, as the command line has them.
-/

namespace RecordQuery.Number

/-- The number of a text that holds digits only, and at least one. -/
def digits? (cs : List Char) : Option Nat :=
  if cs ≠ [] ∧ cs.all Char.isDigit then some (Nat.ofDigitChars 10 cs 0) else none

/-- A sign, and what comes after it. -/
def splitSign : List Char → Bool × List Char
  | '-' :: cs => (true, cs)
  | '+' :: cs => (false, cs)
  | cs => (false, cs)

/-- Whether a whole number fits into 64 bits with a sign. -/
def isInt64 (i : Int) : Bool := -0x8000000000000000 ≤ i && i < 0x8000000000000000

/-- A signed whole number of 64 bits. -/
def integer? (cs : List Char) : Option Int64 :=
  let (negative, ds) := splitSign cs
  match digits? ds with
  | none => none
  | some n =>
    let i : Int := if negative then -(n : Int) else n
    if isInt64 i then some (.ofInt i) else none

/-- An unsigned whole number below a bound; a plus sign may stand before it. -/
def natural? (bound : Nat) (cs : List Char) : Option Nat :=
  let ds := match cs with
    | '+' :: ds => ds
    | ds => ds
  match digits? ds with
  | none => none
  | some n => if n < bound then some n else none

/-- The power of ten after the exponent mark, or none of it where the text ends. -/
def exponent? : List Char → Option Int
  | [] => some 0
  | c :: cs =>
    if c = 'e' ∨ c = 'E' then
      let (negative, ds) := splitSign cs
      (digits? ds).map fun n => if negative then -(n : Int) else n
    else none

/-- An unsigned decimal number with at least one digit before or after the point. -/
def decimal? (cs : List Char) : Option Decimal :=
  let whole := cs.takeWhile Char.isDigit
  let rest := cs.dropWhile Char.isDigit
  let (part, rest) := match rest with
    | '.' :: cs => (cs.takeWhile Char.isDigit, cs.dropWhile Char.isDigit)
    | _ => ([], rest)
  if whole = [] ∧ part = [] then none
  else (exponent? rest).map fun e => ⟨Nat.ofDigitChars 10 (whole ++ part) 0, e - part.length⟩

/-- A double precision number. -/
def binary64? (cs : List Char) : Option Binary64 :=
  let (negative, cs) := splitSign cs
  match decimal? cs with
  | some d => some (d.toBinary64 negative)
  | none =>
    let word := String.ofList (cs.map Char.toLower)
    if word = "inf" ∨ word = "infinity" then some (Binary64.ofMagnitude negative Binary64.infinite)
    else if word = "nan" then some (Binary64.ofMagnitude negative Binary64.notANumber)
    else none

end RecordQuery.Number
