import RecordQuery.Query.Test

/-!
# Predicates

A `Predicate` is a filter made ready for the records of a schema: fields are resolved, operands are
values, and asking a record cannot fail. `Predicate.ofFilter` makes one or says why the filter does
not fit the schema. A neutral filter gives the predicate that accepts every record.
-/

namespace RecordQuery

/-- The test of one field. -/
structure Comparison (α : Type) where
  read : α → Value
  foldsCase : Bool
  test : Test

/-- Tests put together. -/
inductive Formula (α : Type) where
  | compare (comparison : Comparison α)
  | all (parts : List (Formula α))
  | any (parts : List (Formula α))

/-- A condition on records; without a formula it accepts all. -/
structure Predicate (α : Type) where
  formula? : Option (Formula α)

variable {α : Type}

/-- Whether a record passes the test. -/
def Comparison.holds (r : α) (c : Comparison α) : Bool :=
  c.test.holds (if c.foldsCase then (c.read r).foldCase else c.read r)

namespace Formula

mutual

/-- Whether a record meets a formula. -/
def holds (r : α) : Formula α → Bool
  | .compare c => c.holds r
  | .all parts => holdsAll r parts
  | .any parts => holdsAny r parts

/-- Whether a record meets all of some formulas. -/
def holdsAll (r : α) : List (Formula α) → Bool
  | [] => true
  | f :: fs => holds r f && holdsAll r fs

/-- Whether a record meets one of some formulas. -/
def holdsAny (r : α) : List (Formula α) → Bool
  | [] => false
  | f :: fs => holds r f || holdsAny r fs

end

/-- Formulas put together as a connective says. -/
def combine (l : Connective) (parts : List (Formula α)) : Formula α :=
  match l with
  | .and => .all parts
  | .or => .any parts

/-- The comparison of a condition. -/
def ofCondition (s : Schema α) (c : Condition) : Except QueryError (Formula α) := do
  let field ← s.resolve c.field
  let test ← Test.ofCondition field.kind c
  return .compare ⟨field.read, c.foldsCase field.kind, test⟩

mutual

/-- The formula of a clause. The comparison of a node holds together with its children, whatever
connective joins these. -/
def ofClause (s : Schema α) : Clause → Except QueryError (Formula α)
  | .leaf c => ofCondition s c
  | .group l children => combine l <$> ofClauses s children
  | .both c l children => do
    let own ← ofCondition s c
    let rest ← ofClauses s children
    return .all [own, combine l rest]

/-- The formulas of clauses. -/
def ofClauses (s : Schema α) : List Clause → Except QueryError (List (Formula α))
  | [] => pure []
  | c :: cs => do
    let f ← ofClause s c
    let fs ← ofClauses s cs
    return f :: fs

end

end Formula

namespace Predicate

/-- The predicate that accepts every record. -/
def always : Predicate α := ⟨none⟩

/-- Whether the predicate filters nothing out. -/
def isIdentity (p : Predicate α) : Bool := p.formula?.isNone

/-- Whether a record is accepted. -/
def accepts (p : Predicate α) (r : α) : Bool :=
  match p.formula? with
  | none => true
  | some f => f.holds r

/-- The predicate of a filter for records of a schema. -/
def ofFilter (s : Schema α) (f : Filter) : Except QueryError (Predicate α) := do
  match ← Clause.ofFilter? f with
  | none => return always
  | some c => return ⟨some (← Formula.ofClause s c)⟩

end Predicate

end RecordQuery
