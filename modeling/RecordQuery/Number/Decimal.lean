import RecordQuery.Number.Binary64

/-!
# Decimal texts of double precision numbers

`Decimal.shortest` selects the decimal that a number is written as: the fewest digits that read back
to it, among those the nearest. `Decimal.Layout` holds the decisions of a written form, and
`Layout.write` follows them. `Decimal.toBinary64` is the number nearest to a decimal.
-/

namespace RecordQuery

/-- The decimal `digits * 10 ^ exponent`. -/
structure Decimal where
  digits : Nat
  exponent : Int
  deriving DecidableEq

namespace Decimal

/-! ## Selecting digits -/

/-- Compares `a * 10 ^ i` with `n * 2 ^ j`. -/
def compareScaled (a : Nat) (i : Int) (n : Nat) (j : Int) : Ordering :=
  compare (a * Nat.pow 10 i.toNat * Nat.pow 2 (-j).toNat)
    (n * Nat.pow 2 j.toNat * Nat.pow 10 (-i).toNat)

/-- Whether the gap below a finite magnitude is half the gap above it. -/
def narrowBelow (magnitude : Nat) : Bool :=
  decide (2 * Binary64.leadingBit ≤ magnitude ∧ magnitude % Binary64.leadingBit = 0)

/-- Whether `d` lies among the reals that round to a finite magnitude: between the points halfway to
its two neighbours, these included when the significand is even. -/
def readsBack (magnitude : Nat) (d : Decimal) : Bool :=
  let m := Binary64.significand magnitude
  let q := Binary64.scale magnitude - 2
  let low := if narrowBelow magnitude then 4 * m - 1 else 4 * m - 2
  let atLow := compareScaled d.digits d.exponent low q
  let atHigh := compareScaled d.digits d.exponent (4 * m + 2) q
  let ends := m % 2 = 0
  (atLow == .gt || (ends && atLow == .eq)) && (atHigh == .lt || (ends && atHigh == .eq))

/-- The number of decimal digits of `n`, none for zero. -/
def width (n : Nat) : Nat := if n = 0 then 0 else (Nat.toDigits 10 n).length

/-- The whole part of `m * 2 ^ q / 10 ^ e`. -/
def floorScaled (m : Nat) (q e : Int) : Nat :=
  (m * Nat.pow 2 q.toNat * Nat.pow 10 (-e).toNat) / (Nat.pow 2 (-q).toNat * Nat.pow 10 e.toNat)

/-- The least `k` with `m * 2 ^ q < 10 ^ k`, for positive `m`: the number of digits before the point
or minus the number of zeros after it. -/
def leading (m : Nat) (q : Int) : Int :=
  if 0 ≤ q then width (m * Nat.pow 2 q.toNat)
  else
    let whole := m / Nat.pow 2 (-q).toNat
    if whole ≠ 0 then width whole
    else
      -- With `z` zeros more than needed every digit is before the point.
      let z := (-q).toNat
      (width (m * Nat.pow 10 z / Nat.pow 2 (-q).toNat) : Int) - z

/-- What becomes of a value in the middle of two decimals of one length. -/
inductive Tie where
  | even
  | up

/-- The decimals with `n` digits next to `m * 2 ^ q`: the nearer of those that read back. -/
def candidate (tie : Tie) (magnitude : Nat) (k : Int) (n : Nat) : Option Decimal :=
  let m := Binary64.significand magnitude
  let q := Binary64.scale magnitude
  let e := k - n
  let low : Decimal := ⟨floorScaled m q e, e⟩
  let high : Decimal := ⟨low.digits + 1, e⟩
  match readsBack magnitude low, readsBack magnitude high with
  | true, false => some low
  | false, true => some high
  | false, false => none
  | true, true =>
    -- Twice the value against the sum of the two.
    match compareScaled (low.digits + high.digits) e (2 * m) q, tie with
    | .gt, _ => some low
    | .lt, _ => some high
    | .eq, .even => some (if low.digits % 2 = 0 then low else high)
    | .eq, .up => some high

/-- Drops the last zeros of the digits, at most `fuel` of them. -/
def stripZeros : Nat → Decimal → Decimal
  | 0, d => d
  | fuel + 1, d =>
    if d.digits ≠ 0 ∧ d.digits % 10 = 0 then stripZeros fuel ⟨d.digits / 10, d.exponent + 1⟩ else d

/-- The exact decimal of a finite magnitude. -/
def exact (magnitude : Nat) : Decimal :=
  let m := Binary64.significand magnitude
  let q := Binary64.scale magnitude
  ⟨m * Nat.pow 2 q.toNat * Nat.pow 5 (-q).toNat, -((-q).toNat : Int)⟩

/-- The shortest decimal that reads back to a finite magnitude and, among those, the nearest. -/
def shortest (tie : Tie) (magnitude : Nat) : Decimal :=
  if magnitude = 0 then ⟨0, 0⟩
  else
    let k := leading (Binary64.significand magnitude) (Binary64.scale magnitude)
    let d := ((List.range 17).findSome? fun n => candidate tie magnitude k (n + 1)).getD
      (exact magnitude)
    stripZeros (width d.digits) d

/-! ## Layout -/

/-- The decisions of a written form. The exponent of a number is that of its first digit. -/
structure Layout where
  /-- The least exponent that is written with a point instead of a power. -/
  plainFrom : Int
  /-- The exponents from here on are written with a power; without it none is. -/
  plainBelow : Option Int
  /-- Whether a whole number written with a point ends in `.0`. -/
  pointZero : Bool
  tie : Tie
  nan : String
  infinity : String

/-- A power, with its sign. -/
def power (e : Int) : List Char :=
  'e' :: (if e < 0 then '-' else '+') :: Nat.toDigits 10 e.natAbs

/-- Lays out a decimal with a point or with a power. -/
def Layout.place (l : Layout) (d : Decimal) : List Char :=
  let ds := Nat.toDigits 10 d.digits
  let e := d.exponent + ds.length - 1
  let plain := match l.plainBelow with
    | none => true
    | some top => decide (l.plainFrom ≤ e ∧ e < top)
  if d.digits = 0 then '0' :: (if l.pointZero then ['.', '0'] else [])
  else if plain then
    if 0 ≤ d.exponent then
      ds ++ List.replicate d.exponent.toNat '0' ++ (if l.pointZero then ['.', '0'] else [])
    else if 0 ≤ e then ds.take (e + 1).toNat ++ '.' :: ds.drop (e + 1).toNat
    else '0' :: '.' :: List.replicate (-(e + 1)).toNat '0' ++ ds
  else
    match ds with
    | [c] => c :: power e
    | c :: rest => c :: '.' :: rest ++ power e
    | [] => []

/-- The written form of a number. -/
def Layout.write (l : Layout) (x : Binary64) : String :=
  let sign := if x.isNegative then ['-'] else []
  if x.isNaN then l.nan
  else if !x.isFinite then String.ofList (sign ++ l.infinity.toList)
  else String.ofList (sign ++ l.place (shortest l.tie x.magnitude))

/-! ## Reading -/

/-- The magnitude nearest to a decimal. An exponent that takes the value out of the range of finite
numbers is decided without computing the power. -/
def toMagnitude (d : Decimal) : Nat :=
  if d.digits = 0 then 0
  else if 310 < width d.digits + d.exponent then Binary64.infinite
  else if width d.digits + d.exponent < -330 then 0
  else
    Binary64.roundRatio (d.digits * Nat.pow 10 d.exponent.toNat) (Nat.pow 10 (-d.exponent).toNat)

/-- The number nearest to a decimal with a sign. -/
def toBinary64 (negative : Bool) (d : Decimal) : Binary64 :=
  Binary64.ofMagnitude negative d.toMagnitude

end Decimal

end RecordQuery
