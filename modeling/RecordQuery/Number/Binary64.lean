/-!
# Double precision numbers

A `Binary64` is the 64 bits of a double precision number. The lower 63 bits, its `magnitude`, order
the absolute values: the finite magnitudes lie below `Binary64.infinite`, the magnitudes above it
are those that are no number. A finite magnitude stands for `significand * 2 ^ scale`.

Two comparisons are built on this. `Binary64.compare?` compares the numbers that the bits stand for,
so that both zeros are equal and what is no number compares with nothing. `Binary64.totalCompare`
tells all bit patterns apart.

`Binary64.ofRatio` is the number nearest to a fraction, ties to the even neighbour, and arithmetic is
the exact result rounded in this way.

`Binary64.compareInt?` compares a whole number of 64 bits with a double. It needs no number that is
neither: doubles out of the range of whole numbers are sorted out first, the others are cut to a
whole number, and what was cut off decides where that is the same.
-/

namespace RecordQuery

/-- A double precision number, given by its bits. -/
structure Binary64 where
  bits : UInt64
  deriving DecidableEq, Inhabited

namespace Binary64

/-- The first bit of a significand with all its digits, which the bits of a number leave out. -/
def leadingBit : Nat := 0x10000000000000

/-- The bit of the sign. -/
def signBit : Nat := 0x8000000000000000

/-- The magnitude of infinity, the least magnitude that is not finite. -/
def infinite : Nat := 2047 * leadingBit

/-- The magnitude that stands for no number where one has to be chosen. -/
def notANumber : Nat := infinite + leadingBit / 2

/-- Whether the sign bit is set. -/
def isNegative (x : Binary64) : Bool := decide (signBit ≤ x.bits.toNat)

/-- The bits without the sign. -/
def magnitude (x : Binary64) : Nat := x.bits.toNat % signBit

/-- The bits of a sign and a magnitude. -/
def ofMagnitude (negative : Bool) (magnitude : Nat) : Binary64 :=
  ⟨UInt64.ofNat (magnitude + if negative then signBit else 0)⟩

/-- Whether the bits stand for no number. -/
def isNaN (x : Binary64) : Bool := decide (infinite < x.magnitude)

/-- Whether the bits stand for a number and not for an infinity. -/
def isFinite (x : Binary64) : Bool := decide (x.magnitude < infinite)

/-- The whole number `m` of a finite magnitude `m * 2 ^ q`. -/
def significand (magnitude : Nat) : Nat :=
  if magnitude < leadingBit then magnitude else leadingBit + magnitude % leadingBit

/-- The exponent `q` of a finite magnitude `m * 2 ^ q`. -/
def scale (magnitude : Nat) : Int :=
  if magnitude < leadingBit then -1074 else (magnitude / leadingBit : Nat) - 1075

/-! ## Order -/

/-- The place of a number among all numbers; the two zeros share theirs. -/
def place (x : Binary64) : Int :=
  if x.isNegative then -(x.magnitude : Int) else x.magnitude

/-- Compares two numbers; nothing compares with what is no number. -/
def compare? (x y : Binary64) : Option Ordering :=
  if x.isNaN || y.isNaN then none else some (compare x.place y.place)

/-- Whether both are numbers and the first is less. -/
def isLess (x y : Binary64) : Bool := compare? x y == some .lt

/-- Whether both are numbers and the first is not less. -/
def isAtLeast (x y : Binary64) : Bool := compare? x y == some .gt || compare? x y == some .eq

/-- The place of a bit pattern among all bit patterns. -/
def totalPlace (x : Binary64) : Int :=
  if x.isNegative then -(x.magnitude : Int) - 1 else x.magnitude

/-- Compares two bit patterns: negative ones below positive ones, and by magnitude. -/
def totalCompare (x y : Binary64) : Ordering := compare x.totalPlace y.totalPlace

/-! ## Rounding -/

/-- The whole number nearest to `num / den`, ties to the even one. -/
def roundEven (num den : Nat) : Nat :=
  let q := num / den
  match compare (2 * (num % den)) den with
  | .lt => q
  | .gt => q + 1
  | .eq => if q % 2 = 0 then q else q + 1

/-- The greatest `k` with `2 ^ k ≤ num / den`, for positive `num` and `den`. -/
def floorLog2 (num den : Nat) : Int :=
  let l : Int := (num.log2 : Int) - den.log2
  if den * Nat.pow 2 l.toNat ≤ num * Nat.pow 2 (-l).toNat then l else l - 1

/-- The magnitude nearest to `num / den`, ties to the even one; infinite when it is too large. -/
def roundRatio (num den : Nat) : Nat :=
  if num = 0 then 0
  else
    let s := max (floorLog2 num den - 52) (-1074)
    let n := roundEven (num * Nat.pow 2 (-s).toNat) (den * Nat.pow 2 s.toNat)
    min infinite ((s + 1074).toNat * leadingBit + n)

/-- The number nearest to a fraction. -/
def ofRatio (negative : Bool) (num den : Nat) : Binary64 :=
  ofMagnitude negative (roundRatio num den)

/-- The number nearest to a whole number. -/
def ofInt (i : Int) : Binary64 := ofRatio (i < 0) i.natAbs 1

/-- A finite magnitude as a fraction. -/
def ratio (magnitude : Nat) : Nat × Nat :=
  let q := scale magnitude
  (significand magnitude * Nat.pow 2 q.toNat, Nat.pow 2 (-q).toNat)

/-- The rounded product of two finite magnitudes. -/
def mul (a b : Nat) : Nat :=
  roundRatio ((ratio a).1 * (ratio b).1) ((ratio a).2 * (ratio b).2)

/-- The rounded quotient of two finite magnitudes, the second not zero. -/
def div (a b : Nat) : Nat :=
  roundRatio ((ratio a).1 * (ratio b).2) ((ratio a).2 * (ratio b).1)

/-- The magnitude nearest to a power of ten. -/
def powerOfTen (n : Nat) : Nat := roundRatio (Nat.pow 10 n) 1

/-- A finite number as a fraction. -/
def signedRatio (x : Binary64) : Int × Nat :=
  let (num, den) := ratio x.magnitude
  (if x.isNegative then -(num : Int) else num, den)

/-- The number with its sign turned around. -/
def negate (x : Binary64) : Binary64 := ofMagnitude (!x.isNegative) x.magnitude

/-- The rounded difference of two numbers. Between equal numbers it is the zero without a sign, but
for the negative zero less the other one. -/
def sub (x y : Binary64) : Binary64 :=
  if x.isNaN || y.isNaN then ofMagnitude false notANumber
  else if !x.isFinite then
    if !y.isFinite && x.isNegative == y.isNegative then ofMagnitude false notANumber else x
  else if !y.isFinite then y.negate
  else
    let (a, b) := signedRatio x
    let (c, d) := signedRatio y
    let num := a * d - c * b
    ofRatio (if num = 0 then x.isNegative && !y.isNegative else num < 0) num.natAbs (b * d)

/-! ## Whole numbers -/

/-- The whole number next to a magnitude in the direction of zero. An infinity has the one behind
the greatest magnitude. -/
def wholePart (m : Nat) : Nat :=
  let q := scale m
  if 0 ≤ q then significand m * Nat.pow 2 q.toNat else significand m / Nat.pow 2 (-q).toNat

/-- The whole number next to a number in the direction of zero. -/
def whole (x : Binary64) : Int :=
  if x.isNegative then -(wholePart x.magnitude : Int) else wholePart x.magnitude

/-- How many bits of a significand a number has, the others being the leading one. -/
def fractionSize : Nat := 52

/-- A magnitude with the bits behind the point cleared. -/
def cut (m : Nat) : Nat :=
  let n := (-scale m).toNat
  if fractionSize < n then 0 else m / Nat.pow 2 n * Nat.pow 2 n

/-- A number with what stands behind the point cut off; it keeps its sign. -/
def truncate (x : Binary64) : Binary64 := ofMagnitude x.isNegative (cut x.magnitude)

/-- The whole number of 64 bits that a number is made into: its whole part, or the nearest one where
that is out of range, and zero for what is no number. -/
def toInt64 (x : Binary64) : Int64 :=
  if x.isNaN then 0
  else .ofInt (max (-0x8000000000000000) (min 0x7FFFFFFFFFFFFFFF x.whole))

/-- The zero without a sign. -/
def zero : Binary64 := ⟨0⟩

/-- The number `2 ^ 63`, the first one above all whole numbers of 64 bits. -/
def int64Bound : Binary64 := ⟨0x43E0000000000000⟩

/-- Compares a whole number of 64 bits with a number. -/
def compareInt? (i : Int64) (x : Binary64) : Option Ordering :=
  if x.isNaN then none
  else if x.isAtLeast int64Bound then some .lt
  else if x.isLess int64Bound.negate then some .gt
  else
    match compare i x.truncate.toInt64 with
    | .eq => compare? zero (x.sub x.truncate)
    | order => some order

end Binary64

end RecordQuery
