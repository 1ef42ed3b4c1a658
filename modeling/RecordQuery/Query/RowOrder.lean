import RecordQuery.Query.Vocabulary
import RecordQuery.Schema

/-!
# Row orders

A `RowOrder` is a list of sort keys made ready for the records of a schema. `RowOrder.compare` lets
the first key decide on which two records differ; a descending key is turned around alone.
`RowOrder.sort` is stable and reads the keys of each record once, or not at all where nothing has to
be sorted.
-/

namespace RecordQuery

/-- A sort key with the function that reads it. -/
structure OrderKey (α : Type) where
  read : α → Value
  direction : Direction

/-- Sort keys, the most important one first. -/
structure RowOrder (α : Type) where
  keys : List (OrderKey α)

variable {α : Type}

/-- The order of two records by one key. -/
def OrderKey.compare (k : OrderKey α) (a b : α) : Ordering :=
  match k.direction with
  | .asc => Value.sortCompare (k.read a) (k.read b)
  | .desc => (Value.sortCompare (k.read a) (k.read b)).swap

namespace RowOrder

/-- The order that leaves records where they are. -/
def identity : RowOrder α := ⟨[]⟩

/-- Whether there are no keys. -/
def isIdentity (o : RowOrder α) : Bool := o.keys.isEmpty

/-- The order of two records by keys. -/
def compareBy (a b : α) : List (OrderKey α) → Ordering
  | [] => .eq
  | k :: ks => (k.compare a b).then (compareBy a b ks)

/-- The order of two records. -/
def compare (o : RowOrder α) (a b : α) : Ordering := compareBy a b o.keys

/-- The values of a record's keys. -/
def values (o : RowOrder α) (r : α) : List Value := o.keys.map fun k => k.read r

/-- The order of two lists of key values. -/
def compareValues : List (OrderKey α) → List Value → List Value → Ordering
  | k :: ks, v :: vs, w :: ws =>
    (match k.direction with
      | .asc => Value.sortCompare v w
      | .desc => Value.sortCompare w v).then (compareValues ks vs ws)
  | _, _, _ => .eq

/-- The records in order; those that no key tells apart stay as they were. -/
def sort (o : RowOrder α) (rows : List α) : List α :=
  if o.isIdentity || rows.length < 2 then rows
  else
    ((rows.map fun r => (o.values r, r)).mergeSort fun a b =>
      (compareValues o.keys a.1 b.1).isLE).map (·.2)

/-- The key that a submitted key stands for. -/
def keyOf (s : Schema α) (key : SortKey) : Except QueryError (OrderKey α) := do
  let field ← s.resolve (Text.trim key.field)
  return ⟨field.read, ← Direction.ofKey key⟩

/-- The order of submitted keys for records of a schema. -/
def ofKeys (s : Schema α) (keys : List SortKey) : Except QueryError (RowOrder α) :=
  RowOrder.mk <$> keys.mapM (keyOf s)

end RowOrder

end RecordQuery
