import RecordQuery.Json.Decoder
import RecordQuery.Json.Reader
import RecordQuery.Value

/-!
# Records

A `Record` is one object of a JSON document. `Record.read` is the value of a member as one of a
kind: texts are read as operands are, and what cannot be of the kind reads as `null`.
-/

namespace RecordQuery

/-- One JSON object. -/
structure Record where
  members : List (String × Json)

namespace Record

open Json (Fault Tree)

/-- The member of a name, case mattering. -/
def get? (r : Record) (key : String) : Option Json := r.members.lookup key

/-- The names of the members. -/
def keys (r : Record) : List String := r.members.map (·.1)

/-- A record as a document. -/
def toJson (r : Record) : Json := .object r.members

/-- A JSON value as one of a kind. -/
def convert (kind : Kind) : Json → Value
  | .null => .null
  | .string s => (Value.ofText? kind s).getD .null
  | j =>
    match kind, j with
    | .bool, .bool b => .bool b
    | .int, .number n => (n.int64?.map Value.int).getD .null
    | .float, .number n => .float n.toBinary64
    | .text, j => .text j.text
    | _, _ => .null

/-- The value of a member as one of a kind; `null` where there is no such member. -/
def read (r : Record) (key : String) (kind : Kind) : Value :=
  match r.get? key with
  | none => .null
  | some j => convert kind j

/-- The record that an object stands for. -/
def ofTree (t : Tree) : Except Fault Record := Record.mk <$> t.asMembers

/-- The records that an array of objects stands for. -/
def listOfTree (t : Tree) : Except Fault (List Record) := t.asList ofTree

end Record

end RecordQuery
