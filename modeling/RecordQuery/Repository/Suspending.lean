import RecordQuery.Repository

/-!
# Suspending calls

Each call takes rows as they arrive. A call that is cancelled before it starts fetches nothing.
Rows that have to be sorted, and rows that are counted, are read to the end first, and a
cancellation that comes with the last of them still counts.
-/

namespace RecordQuery.Repository.Suspending

variable {α ε β : Type}

/-- Answers from the feed, unless cancellation has been asked for already. -/
def answer (r : Repository α ε) (paths : List String) (cancelled : Bool)
    (f : Feed α ε → Drained β ε) : Reply α ε β :=
  if cancelled then r.refuse .cancelled
  else
    let (feed, source) := r.source.fetch paths
    let d := f feed
    ⟨d.result.mapError .ofInterruption, d.pulled, { r with source := source }⟩

/-- The wanted rows on a page after they have been put in order. -/
def pageOfSorted (sort : List α → List α) (wanted : α → Bool) (page : Page.Request)
    (feed : Feed α ε) : Drained (Page α) ε :=
  let d := feed.collect wanted false
  { d with result := d.result.map fun rows => RecordQuery.paginate (sort rows) page }

/-- The first row that is accepted. -/
def get (r : Repository α ε) (p : α → Bool) (paths : List String) (cancelled : Bool) :
    Reply α ε (Option α) :=
  answer r paths cancelled fun feed =>
    feed.drain (fun _ => true) false
      (fun found a => if p a then .enough (some a) else .more found) none

/-- A page of the accepted rows in an order. -/
def list (r : Repository α ε) (p : Option (α → Bool)) (order : Option (α → α → Ordering))
    (paths : List String) (page : Page.Request) (cancelled : Bool) : Reply α ε (Page α) :=
  answer r paths cancelled fun feed =>
    match order with
    | none => feed.paginate (accepts p) page false
    | some _ => pageOfSorted (sortBy order) (accepts p) page feed

/-- A page of the rows that a query and a condition accept, in the order of the query. The query is
planned before cancellation is looked for. -/
def listByQuery (r : Repository α ε) (q : Query) (p : Option (α → Bool)) (paths : List String)
    (page : Page.Request) (cancelled : Bool) : Reply α ε (Page α) :=
  match r.plan q with
  | (.error e, r) => r.refuse (.query e)
  | (.ok plan, r) =>
    answer r paths cancelled fun feed =>
      let wanted := fun a => plan.predicate.accepts a && accepts p a
      if plan.order.isIdentity then feed.paginate wanted page false
      else pageOfSorted plan.order.sort wanted page feed

/-- The number of accepted rows. -/
def count (r : Repository α ε) (p : Option (α → Bool)) (paths : List String) (cancelled : Bool) :
    Reply α ε UInt64 :=
  answer r paths cancelled fun feed =>
    let d := feed.drain (fun _ => true) false
      (fun n a => .more (if accepts p a then n + 1 else n)) (0 : UInt64)
    match d.result with
    | .error e => { d with result := .error e }
    | .ok n => { d with result := if d.cancelled then .error .cancelled else .ok n }

end RecordQuery.Repository.Suspending
