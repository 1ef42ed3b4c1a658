/-!
# Universally unique identifiers

A `Uuid` is a number of 128 bits. `Uuid.ofText?` reads 32 hexadecimal digits in one run, or in five
groups with hyphens between them, these alone, in braces or after `urn:uuid:`; `Uuid.toText` writes
the five groups in lower case.
-/

namespace RecordQuery

/-- A number of 128 bits. -/
structure Uuid where
  value : Fin 0x100000000000000000000000000000000
  deriving DecidableEq

namespace Uuid

/-- The value of a hexadecimal digit. -/
def hexValue? (c : Char) : Option Nat :=
  if '0' ≤ c ∧ c ≤ '9' then some (c.toNat - '0'.toNat)
  else if 'a' ≤ c ∧ c ≤ 'f' then some (c.toNat - 'a'.toNat + 10)
  else if 'A' ≤ c ∧ c ≤ 'F' then some (c.toNat - 'A'.toNat + 10)
  else none

/-- The number of 32 hexadecimal digits. -/
def ofDigits? (cs : List Char) : Option Uuid :=
  if cs.length = 32 then
    (cs.mapM hexValue?).map fun ds => ⟨Fin.ofNat _ (ds.foldl (fun n d => 16 * n + d) 0)⟩
  else none

/-- The lengths of the groups. -/
def groups : List Nat := [8, 4, 4, 4, 12]

/-- The digits of groups of the given lengths with a hyphen between each two. -/
def ungroup? : List Nat → List Char → Option (List Char)
  | [], _ => none
  | [n], cs => if cs.length = n then some cs else none
  | n :: ns, cs =>
    match cs.drop n with
    | '-' :: rest => (ungroup? ns rest).map (cs.take n ++ ·)
    | _ => none

/-- The number of five groups of digits. -/
def ofGroups? (cs : List Char) : Option Uuid := (ungroup? groups cs).bind ofDigits?

/-- The groups inside braces or after the name of the scheme. -/
def unwrap (cs : List Char) : List Char :=
  match cs with
  | '\x7b' :: rest => if rest.getLast? = some '\x7d' then rest.dropLast else cs
  | _ =>
    if (cs.take 9).map Char.toLower = "urn:uuid:".toList then cs.drop 9 else cs

/-- The number that a text stands for. -/
def ofText? (s : String) : Option Uuid :=
  (ofDigits? s.toList).or (ofGroups? (unwrap s.toList))

/-- The digit of a value below sixteen. -/
def hexDigit (n : Nat) : Char := (Nat.digitChar (n % 16))

/-- The 32 digits of a number. -/
def digits (u : Uuid) : List Char :=
  (List.range 32).map fun i => hexDigit (u.value.val / Nat.pow 16 (31 - i))

/-- Digits in groups of the given lengths with a hyphen between each two. -/
def group : List Nat → List Char → List Char
  | [], cs => cs
  | [_], cs => cs
  | n :: ns, cs => cs.take n ++ '-' :: group ns (cs.drop n)

/-- The written form of a number. -/
def toText (u : Uuid) : String := String.ofList (group groups u.digits)

/-- The order of the numbers, which is that of their bytes. -/
def compare (a b : Uuid) : Ordering := Ord.compare a.value.val b.value.val

end Uuid

end RecordQuery
