import RecordQuery.Repository

/-!
# Blocking calls

Each call loads all rows and then answers. A fault of any row is a fault of the call.
-/

namespace RecordQuery.Repository.Blocking

variable {α ε β : Type}

/-- Answers from all rows. -/
def answer (r : Repository α ε) (paths : List String) (f : List α → β) : Reply α ε β :=
  let (feed, source) := r.source.fetch paths
  ⟨(f <$> feed.load).mapError .source, feed.readable, { r with source := source }⟩

/-- The first row that is accepted. -/
def get (r : Repository α ε) (p : α → Bool) (paths : List String) : Reply α ε (Option α) :=
  answer r paths fun rows => rows.find? p

/-- A page of the accepted rows in an order. -/
def list (r : Repository α ε) (p : Option (α → Bool)) (order : Option (α → α → Ordering))
    (paths : List String) (page : Page.Request) : Reply α ε (Page α) :=
  answer r paths fun rows => paginate (sortBy order (rows.filter (accepts p))) page

/-- A page of the rows that a query and a condition accept, in the order of the query. -/
def listByQuery (r : Repository α ε) (q : Query) (p : Option (α → Bool)) (paths : List String)
    (page : Page.Request) : Reply α ε (Page α) :=
  match r.plan q with
  | (.error e, r) => r.refuse (.query e)
  | (.ok plan, r) =>
    answer r paths fun rows =>
      paginate (plan.order.sort (rows.filter fun a => plan.predicate.accepts a && accepts p a)) page

/-- The number of accepted rows. -/
def count (r : Repository α ε) (p : Option (α → Bool)) (paths : List String) : Reply α ε UInt64 :=
  answer r paths fun rows => UInt64.ofNat (rows.filter (accepts p)).length

end RecordQuery.Repository.Blocking
