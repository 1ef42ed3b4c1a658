import RecordQuery.Query.Limits
import RecordQuery.Query.Plan

/-!
# Query engines

An `Engine` makes plans for the records of one schema, within limits. It may have a `PlanCache`, in
which plans are kept under the canonical key of their query, so that queries which differ in nothing
but spelling share one plan. Only plans are kept, never errors. Every plan that is made has a serial
number of its own, by which a shared plan is known again.
-/

namespace RecordQuery

/-- How plans are kept. -/
structure CacheSettings where
  enabled : Bool := false
  /-- How many plans may be kept. -/
  maxEntries : Nat := 1000
  /-- How many seconds a plan is kept, zero standing for ever. -/
  lifetime : Nat := 0
  deriving DecidableEq

/-- A plan with its serial number. -/
structure SerialPlan (α : Type) where
  serial : Nat
  plan : Plan α

/-- Plans under the keys of their queries. -/
structure PlanCache (α : Type) where
  maxEntries : Nat
  entries : List (String × SerialPlan α)

namespace PlanCache

variable {α : Type}

/-- A cache without plans. -/
def empty (maxEntries : Nat) : PlanCache α := ⟨maxEntries, []⟩

/-- The number of plans. -/
def size (c : PlanCache α) : Nat := c.entries.length

/-- The plan under a key. -/
def get? (c : PlanCache α) (key : String) : Option (SerialPlan α) :=
  c.entries.lookup key

/-- Keeps a plan where there is room. -/
def insert (c : PlanCache α) (key : String) (plan : SerialPlan α) : PlanCache α :=
  if c.size < c.maxEntries then ⟨c.maxEntries, (key, plan) :: c.entries⟩ else c

/-- Drops all plans. -/
def clear (c : PlanCache α) : PlanCache α := empty c.maxEntries

end PlanCache

/-- What makes plans for the records of a schema. -/
structure Engine (α : Type) where
  schema : Schema α
  limits : Limits
  cache : Option (PlanCache α)
  /-- The number of plans that have been made. -/
  made : Nat := 0

namespace Engine

variable {α : Type}

/-- An engine that has a cache if the settings say so. -/
def ofSettings (s : Schema α) (l : Limits) (c : CacheSettings) : Engine α :=
  { schema := s, limits := l, cache := if c.enabled then some (.empty c.maxEntries) else none }

/-- Makes the plan of a query. -/
def make (e : Engine α) (q : Query) : Except QueryError (SerialPlan α) :=
  SerialPlan.mk e.made <$> Plan.ofQuery e.schema q

/-- The plan of a query, and the engine afterwards. -/
def plan (e : Engine α) (q : Query) : Except QueryError (SerialPlan α) × Engine α :=
  match e.limits.check q with
  | .error err => (throw err, e)
  | .ok () =>
    match e.cache.bind fun c => c.get? q.canonicalKey with
    | some p => (pure p, e)
    | none =>
      match e.make q with
      | .error err => (throw err, e)
      | .ok p =>
        (pure p, { e with
          cache := e.cache.map fun c => c.insert q.canonicalKey p, made := e.made + 1 })

/-- The engine with an empty cache, if it has one. -/
def clear (e : Engine α) : Engine α := { e with cache := e.cache.map PlanCache.clear }

end Engine

end RecordQuery
