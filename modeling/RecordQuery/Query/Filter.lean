import RecordQuery.Query.Error
import RecordQuery.Text.AsciiCase
import RecordQuery.Text.Blank

/-!
# Submitted queries

A `Filter` is a node of a filter tree as a caller submits it: texts that nobody has checked yet.
It may compare a field itself and may have children, combined as its logic says. A `SortKey` names
a field and a direction, and a `Query` holds a filter and sort keys. None of them refers to any
kind of record.
-/

namespace RecordQuery

/-- A node of a submitted filter tree. -/
structure Filter where
  field : String
  operator : String
  value : Option String
  logic : Option String
  caseSensitive : Bool
  filters : List Filter

/-- A submitted sort key. -/
structure SortKey where
  field : String
  direction : String
  deriving DecidableEq

/-- A submitted filter and sort keys. -/
structure Query where
  filter : Option Filter
  sort : List SortKey

namespace Filter

/-- The node without a comparison and without children. -/
def neutral : Filter := ⟨"", "", none, none, false, []⟩

/-- A node that only combines others. -/
def group (logic : String) (filters : List Filter) : Filter :=
  ⟨"", "", none, some logic, false, filters⟩

/-- Whether the node compares a field itself: neither its field nor its operator is blank. -/
def hasComparison (f : Filter) : Bool :=
  !Text.isBlankText f.field && !Text.isBlankText f.operator

mutual

/-- How deep nodes are nested, a node alone being one deep. -/
def depth : Filter → Nat
  | ⟨_, _, _, _, _, filters⟩ => 1 + maxDepth filters

/-- The depth of the deepest node. -/
def maxDepth : List Filter → Nat
  | [] => 0
  | f :: fs => max (depth f) (maxDepth fs)

end

mutual

/-- A node with the spelling that does not matter taken away: fields in lower case, operators and
logics in lower case and without blanks around them. -/
def normalize : Filter → Filter
  | ⟨field, operator, value, logic, caseSensitive, filters⟩ =>
    ⟨Text.asciiFold field, Text.asciiFold (Text.trim operator), value,
      logic.map fun l => Text.asciiFold (Text.trim l), caseSensitive, normalizeAll filters⟩

/-- Nodes with the spelling that does not matter taken away. -/
def normalizeAll : List Filter → List Filter
  | [] => []
  | f :: fs => normalize f :: normalizeAll fs

end

/-- The node inside `n` groups joined by `and`. -/
def wrap (n : Nat) (f : Filter) : Filter :=
  match n with
  | 0 => f
  | n + 1 => wrap n (group "and" [f])

end Filter

/-- A sort key with the spelling that does not matter taken away. -/
def SortKey.normalize (k : SortKey) : SortKey :=
  ⟨Text.asciiFold k.field, Text.asciiFold (Text.trim k.direction)⟩

namespace Query

/-- The query that filters nothing out and sorts by nothing. -/
def neutral : Query := ⟨none, []⟩

/-- A query with the spelling that does not matter taken away. -/
def normalize (q : Query) : Query :=
  ⟨q.filter.map Filter.normalize, q.sort.map SortKey.normalize⟩

end Query

end RecordQuery
