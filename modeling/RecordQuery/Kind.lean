/-!
# Kinds of values

The declared kind of a field. A kind fixes how operands are read and which operators apply.
-/

namespace RecordQuery

/-- The declared kind of a field. -/
inductive Kind where
  | bool
  | int
  | float
  | text
  | date
  | datetime
  | uuid
  deriving DecidableEq, Repr

namespace Kind

/-- All kinds, in the order in which messages list them. -/
def all : List Kind := [.bool, .int, .float, .text, .date, .datetime, .uuid]

/-- The name of a kind, as documents and messages have it. -/
def name : Kind → String
  | .bool => "bool"
  | .int => "int"
  | .float => "float"
  | .text => "text"
  | .date => "date"
  | .datetime => "datetime"
  | .uuid => "uuid"

/-- The kind of a name, case mattering. -/
def ofName? (s : String) : Option Kind := all.find? (·.name == s)

theorem ofName?_name (k : Kind) : ofName? k.name = some k := by cases k <;> decide

end Kind

end RecordQuery
