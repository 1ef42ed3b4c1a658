import RecordQuery.Query.Predicate
import RecordQuery.Query.RowOrder

/-!
# Plans

A `Plan` is a whole query made ready for the records of a schema. `Plan.ofQuery` makes all of it or
nothing: the filter is looked at first, then the sort keys.
-/

namespace RecordQuery

/-- A predicate and a row order. -/
structure Plan (α : Type) where
  predicate : Predicate α
  order : RowOrder α

namespace Plan

variable {α : Type}

/-- The plan of a query for records of a schema. -/
def ofQuery (s : Schema α) (q : Query) : Except QueryError (Plan α) := do
  let predicate ← match q.filter with
    | none => pure Predicate.always
    | some f => Predicate.ofFilter s f
  let order ← RowOrder.ofKeys s q.sort
  return ⟨predicate, order⟩

/-- The accepted records in order. -/
def run (p : Plan α) (rows : List α) : List α := p.order.sort (rows.filter p.predicate.accepts)

end Plan

end RecordQuery
