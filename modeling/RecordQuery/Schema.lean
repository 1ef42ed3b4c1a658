import RecordQuery.Query.Error
import RecordQuery.Text.AsciiCase
import RecordQuery.Value

/-!
# Schemas

A `Schema` lists what can be asked of records of some type `α`: named fields of a declared kind,
each with the function that reads it. Names are compared ignoring the case of ASCII letters. A
field that is added under a name that is already there takes the place of the earlier one, so of
several definitions the last one counts and the first one says where the field stands.

`Schema.resolve` is the only place in which an unknown field is refused.
-/

namespace RecordQuery

/-- A named attribute of records. -/
structure Field (α : Type) where
  name : String
  kind : Kind
  read : α → Value

/-- What can be asked of records of one type. -/
structure Schema (α : Type) where
  /-- What messages call such a record. -/
  title : String
  fields : List (Field α)

namespace Schema

variable {α : Type}

/-- A list of fields with `f` in the place of the first field of its name, or at the end. -/
def put (f : Field α) : List (Field α) → List (Field α)
  | [] => [f]
  | g :: gs => if Text.sameIgnoringCase g.name f.name then f :: gs else g :: put f gs

/-- A schema without fields. -/
def empty (title : String) : Schema α := ⟨title, []⟩

/-- A schema with one more definition. -/
def add (s : Schema α) (f : Field α) : Schema α := ⟨s.title, put f s.fields⟩

/-- The schema of some definitions in their order. -/
def ofFields (title : String) (fs : List (Field α)) : Schema α := fs.foldl add (empty title)

/-- The number of fields. -/
def size (s : Schema α) : Nat := s.fields.length

/-- Whether there are no fields. -/
def isEmpty (s : Schema α) : Bool := s.fields.isEmpty

/-- The field of a name. -/
def get? (s : Schema α) (name : String) : Option (Field α) :=
  s.fields.find? fun f => Text.sameIgnoringCase f.name name

/-- The field of a name. -/
def resolve (s : Schema α) (name : String) : Except QueryError (Field α) :=
  match s.get? name with
  | some f => pure f
  | none => throw (.fieldNotFound name s.title)

end Schema

end RecordQuery
