import RecordQuery.Query.Limits
import RecordQuery.Query.Vocabulary

/-!
# Validated filters

`Clause.ofFilter?` turns a submitted filter into a `Clause`, in which operators and connectives are
known and every comparison has the operand it needs. Nodes that neither compare anything nor have
children that do are neutral: they match everything and do not appear in a clause. The logic of a
node is looked at only when it has something to combine.
-/

namespace RecordQuery

/-- A comparison of one field. -/
structure Condition where
  field : String
  operator : Operator
  value : Option String
  caseSensitive : Bool
  deriving DecidableEq

/-- A validated filter: a comparison, some clauses combined, or both at once, in which case both
must hold. -/
inductive Clause where
  | leaf (condition : Condition)
  | group (connective : Connective) (children : List Clause)
  | both (condition : Condition) (connective : Connective) (children : List Clause)

namespace Filter

/-- The comparison of a node itself, if it makes one. -/
def condition? (f : Filter) : Except QueryError (Option Condition) :=
  if f.hasComparison then do
    let operator ← Operator.ofText f.operator
    if operator.requiresValue && f.value.isNone then throw (.missingValue f.field f.operator)
    return some ⟨Text.trim f.field, operator, f.value, f.caseSensitive⟩
  else return none

end Filter

namespace Clause

/-- A node's own comparison and its children that are not neutral, put together. -/
def combine (condition : Option Condition) (logic : Option String) (children : List Clause) :
    Except QueryError (Option Clause) :=
  match condition, children with
  | none, [] => pure none
  | some c, [] => pure (some (.leaf c))
  | none, children => do return some (.group (← Connective.ofLogic logic) children)
  | some c, children => do return some (.both c (← Connective.ofLogic logic) children)

mutual

/-- The clause of a node that may be nested `room` deep; none when the node is neutral. -/
def ofFilterIn? (room : Nat) : Filter → Except QueryError (Option Clause)
  | ⟨field, operator, value, logic, caseSensitive, filters⟩ =>
    match room with
    | 0 => throw (.filterTooDeep maxFilterDepth)
    | room + 1 => do
      let condition ←
        Filter.condition? ⟨field, operator, value, logic, caseSensitive, filters⟩
      let children ← ofFiltersIn room filters
      combine condition logic children

/-- The clauses of the nodes that are not neutral. -/
def ofFiltersIn (room : Nat) : List Filter → Except QueryError (List Clause)
  | [] => pure []
  | f :: fs => do
    let clause ← ofFilterIn? room f
    let clauses ← ofFiltersIn room fs
    return clause.toList ++ clauses

end

/-- The clause of a filter; none when the filter is neutral. -/
def ofFilter? (f : Filter) : Except QueryError (Option Clause) := ofFilterIn? maxFilterDepth f

mutual

/-- How deep clauses are nested, a comparison alone being one deep. -/
def depth : Clause → Nat
  | .leaf _ => 1
  | .group _ children | .both _ _ children => 1 + maxDepth children

/-- The depth of the deepest clause. -/
def maxDepth : List Clause → Nat
  | [] => 0
  | c :: cs => max (depth c) (maxDepth cs)

end

end Clause

end RecordQuery
