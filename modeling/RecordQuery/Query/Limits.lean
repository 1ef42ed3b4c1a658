import RecordQuery.Json.Reader
import RecordQuery.Query.Wire

/-!
# Limits on submitted queries

`Limits` bound the size, the nesting and the number of sort keys of a query. `Limits.check` applies
the last two to a query that has been read, and `Query.ofText` and `Filter.ofText` apply all of them
to a text before anything is compiled.
-/

namespace RecordQuery

/-- The greatest nesting of filters, whatever the limits say. -/
def maxFilterDepth : Nat := 64

/-- Bounds of submitted queries. -/
structure Limits where
  maxQueryBytes : Nat := 65536
  maxFilterDepth : Nat := 16
  maxSortKeys : Nat := 8
  deriving DecidableEq

namespace Limits

/-- The nesting that is allowed. -/
def depth (l : Limits) : Nat := min l.maxFilterDepth RecordQuery.maxFilterDepth

/-- Refuses a filter that is nested too deep. -/
def checkDepth (l : Limits) (depth : Nat) : Except QueryError Unit :=
  if l.depth < depth then throw (.filterTooDeep l.depth) else pure ()

/-- Refuses a query that is nested too deep or has too many sort keys. -/
def check (l : Limits) (q : Query) : Except QueryError Unit := do
  l.checkDepth (match q.filter with
    | none => 0
    | some f => f.depth)
  if l.maxSortKeys < q.sort.length then
    throw (.tooManySortKeys l.maxSortKeys q.sort.length)

/-- Refuses a text that is too long. -/
def checkSize (l : Limits) (text : String) : Except QueryError Unit :=
  if l.maxQueryBytes < text.utf8ByteSize then throw (.queryTooLarge l.maxQueryBytes) else pure ()

end Limits

/-- What a reader makes of the text of a query. -/
def QueryError.ofJsonText {α : Type} (f : Json.Tree → Except Json.Fault α) (text : String) :
    Except QueryError α :=
  (Json.readText f text).mapError fun fault =>
    .invalidJson (fault.messageIn (Json.bytesOf text))

/-- The query that a text stands for, within limits. -/
def Query.ofText (l : Limits) (text : String) : Except QueryError Query := do
  l.checkSize text
  let q ← QueryError.ofJsonText Query.ofTree text
  l.check q
  return q

/-- The filter that a text stands for, within limits. -/
def Filter.ofText (l : Limits) (text : String) : Except QueryError Filter := do
  l.checkSize text
  let f ← QueryError.ofJsonText Filter.ofTree text
  l.checkDepth f.depth
  return f

end RecordQuery
