import RecordQuery.Kind
import RecordQuery.Number.Text
import RecordQuery.Text.AsciiCase
import RecordQuery.Text.Lowercase
import RecordQuery.Time.Reader
import RecordQuery.Uuid

/-!
# Field values

A `Value` is what a field of a record holds: nothing, or a value of one kind. Operands arrive as
texts and become values of the field's kind by `Value.ofText?`.

Values are compared in two ways. Filters use `Value.compare?`, which compares values of one kind,
whole numbers with double precision numbers by their exact values, and nothing else. Sorting uses
`Value.sortCompare`, which puts `null` first, tells all double precision bit patterns apart, and
falls back on the rank of the kinds where the values do not compare.
-/

namespace RecordQuery

/-- A whole number of 64 bits counts as a whole number. -/
instance coeInt64 : Coe Int64 Int := ⟨Int64.toInt⟩

/-- What a field of a record holds. -/
inductive Value where
  | null
  | bool (value : Bool)
  | int (value : Int64)
  | float (value : Binary64)
  | text (value : String)
  | date (value : Date)
  | datetime (value : Instant)
  | uuid (value : Uuid)
  deriving DecidableEq

namespace Value

/-- The truth value of a text, in any case of letters. -/
def bool? (s : String) : Option Bool :=
  if Text.sameIgnoringCase s "true" then some true
  else if Text.sameIgnoringCase s "false" then some false
  else none

/-- The value of a kind that a text stands for. A text field takes it as it is; for every other kind
blanks at the ends do not count. -/
def ofText? (kind : Kind) (raw : String) : Option Value :=
  let s := Text.trim raw
  match kind with
  | .text => some (.text raw)
  | .bool => (bool? s).map .bool
  | .int => (Number.integer? s.toList).map .int
  | .float => (Number.binary64? s.toList).map .float
  | .date => (Date.ofText? s).map .date
  | .datetime => (Instant.ofText? s).map .datetime
  | .uuid => (Uuid.ofText? s).map .uuid

def isNull : Value → Bool
  | .null => true
  | _ => false

/-- The kind of a value; `null` has none. -/
def kind? : Value → Option Kind
  | .null => none
  | .bool _ => some .bool
  | .int _ => some .int
  | .float _ => some .float
  | .text _ => some .text
  | .date _ => some .date
  | .datetime _ => some .datetime
  | .uuid _ => some .uuid

/-- Texts in lower case; other values as they are. -/
def foldCase : Value → Value
  | .text s => .text (Text.lowercase s)
  | v => v

/-- The order of two values where they compare. -/
def compare? : Value → Value → Option Ordering
  | .bool a, .bool b => some (compare a.toNat b.toNat)
  | .int a, .int b => some (compare a b)
  | .float a, .float b => Binary64.compare? a b
  | .int a, .float b => Binary64.compareInt? a b
  | .float a, .int b => (Binary64.compareInt? b a).map Ordering.swap
  | .text a, .text b => some (compare a b)
  | .date a, .date b => some (Date.compare a b)
  | .datetime a, .datetime b => some (Instant.compare a b)
  | .uuid a, .uuid b => some (Uuid.compare a b)
  | _, _ => none

/-- The place of a value's kind among the kinds; the two kinds of numbers share theirs. -/
def rank : Value → Nat
  | .null => 0
  | .bool _ => 1
  | .int _ | .float _ => 2
  | .text _ => 3
  | .date _ => 4
  | .datetime _ => 5
  | .uuid _ => 6

/-- The order in which values are sorted. -/
def sortCompare : Value → Value → Ordering
  | .null, .null => .eq
  | .null, _ => .lt
  | _, .null => .gt
  | .float a, .float b => Binary64.totalCompare a b
  | a, b => (compare? a b).getD (compare a.rank b.rank)

end Value

end RecordQuery
