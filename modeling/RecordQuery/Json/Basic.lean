import RecordQuery.Number.Binary64

/-!
# JSON values

`Json` is the tree of a JSON document. Members keep the order in which they were written, and a
number keeps whether it was written as a whole number. `Json.Member.insert` gives a member a value:
a name that is already there keeps its place.
-/

namespace RecordQuery

/-- A number of a document: a whole number of 64 bits, signed or unsigned, or a double. -/
inductive Json.Number where
  | int (value : Int)
  | float (value : Binary64)
  deriving DecidableEq

/-- The tree of a document. -/
inductive Json where
  | null
  | bool (value : Bool)
  | number (value : Json.Number)
  | string (value : String)
  | array (items : List Json)
  | object (members : List (String × Json))
  deriving Inhabited

namespace Json

/-- A whole number. -/
abbrev int (i : Int) : Json := .number (.int i)

/-- Gives the member `name` a value, in the place of the first member of that name or at the end. -/
def insert {α : Type} (name : String) (value : α) : List (String × α) → List (String × α)
  | [] => [(name, value)]
  | (n, v) :: rest =>
    if n = name then (n, value) :: rest else (n, v) :: insert name value rest

/-- The member of an object. -/
def get? (name : String) : Json → Option Json
  | .object members => members.lookup name
  | _ => none

/-- The whole number of 64 bits with a sign that a number stands for. -/
def Number.int64? : Number → Option Int64
  | .int i => if -0x8000000000000000 ≤ i ∧ i < 0x8000000000000000 then some (.ofInt i) else none
  | .float _ => none

/-- The double nearest to a number. -/
def Number.toBinary64 : Number → Binary64
  | .int i => Binary64.ofInt i
  | .float x => x

end Json

end RecordQuery
