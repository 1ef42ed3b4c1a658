import RecordQuery.Feed
import RecordQuery.Query.Engine

/-!
# Repositories

A `Repository` answers questions about the rows of a `Source`, among them dynamic queries for
which its engine makes plans. There are four calls, each in two forms that give the same answers:
one that loads all rows at once (`Repository.Blocking`) and one that takes rows as they arrive and
can be cancelled (`Repository.Suspending`). A query is planned before rows are fetched, so that a
query that is refused costs no fetch.
-/

namespace RecordQuery

/-- Where rows come from. -/
structure Source (α ε : Type) where
  /-- The rows, given the paths to related records that should come with them. -/
  rows : List String → Feed α ε
  /-- What each fetch so far asked to include, the latest first. -/
  fetches : List (List String) := []

namespace Source

variable {α ε : Type}

/-- The source of some rows. -/
def ofList (rows : List α) : Source α ε := { rows := fun _ => .ofList rows }

/-- The number of fetches so far. -/
def loads (s : Source α ε) : Nat := s.fetches.length

/-- A feed of the rows, and the source afterwards. -/
def fetch (s : Source α ε) (paths : List String) : Feed α ε × Source α ε :=
  (s.rows paths, { s with fetches := paths :: s.fetches })

end Source

/-- Why a call was not answered. -/
inductive RepositoryError (ε : Type) where
  | query (error : QueryError)
  | source (fault : ε)
  | cancelled

namespace RepositoryError

variable {ε : Type}

/-- The error of an interruption. -/
def ofInterruption : Interruption ε → RepositoryError ε
  | .source fault => .source fault
  | .cancelled => .cancelled

/-- Whether the call was cancelled. -/
def isCancelled : RepositoryError ε → Bool
  | .cancelled => true
  | _ => false

/-- Whether the caller is at fault. -/
def isBadRequest : RepositoryError ε → Bool
  | .query _ => true
  | _ => false

/-- The stable code of an error. -/
def code : RepositoryError ε → String
  | .query e => e.code
  | .source _ => "DATA_SOURCE_ERROR"
  | .cancelled => "CANCELLED"

/-- The wording of an error, given that of a fault of the source. -/
def message (describe : ε → String) : RepositoryError ε → String
  | .query e => e.message
  | .source fault => "Data source error: " ++ describe fault
  | .cancelled => "Operation cancelled"

end RepositoryError

/-- What answers questions about the rows of a source. -/
structure Repository (α ε : Type) where
  source : Source α ε
  engine : Engine α

/-- The answer to a call, and the repository afterwards. -/
structure Reply (α ε β : Type) where
  result : Except (RepositoryError ε) β
  /-- The number of rows that were pulled. -/
  pulled : Nat
  repository : Repository α ε

namespace Repository

variable {α ε β : Type}

/-- Whether a row is accepted. -/
def accepts (p : Option (α → Bool)) (a : α) : Bool := p.all (· a)

/-- Rows put in an order; those that it does not tell apart stay as they were. -/
def sortBy (order : Option (α → α → Ordering)) (rows : List α) : List α :=
  match order with
  | none => rows
  | some o => rows.mergeSort fun a b => (o a b).isLE

/-- A reply without a fetch. -/
def refuse (r : Repository α ε) (e : RepositoryError ε) : Reply α ε β := ⟨.error e, 0, r⟩

/-- The plan of a query, and the repository afterwards. -/
def plan (r : Repository α ε) (q : Query) : Except QueryError (Plan α) × Repository α ε :=
  let (p, engine) := r.engine.plan q
  (SerialPlan.plan <$> p, { r with engine := engine })

end Repository

end RecordQuery
