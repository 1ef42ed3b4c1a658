import RecordQuery.Json.Decoder
import RecordQuery.Page

/-!
# Page parameters

`Page.Params` are an index and a size as a caller submits them, any numbers of 32 bits.
`Page.Params.resolve` turns them into a request within fixed bounds and a greatest size.
-/

namespace RecordQuery.Page

open Json (Fault Tree)

/-- The greatest index that callers may ask for. -/
def maxIndex : UInt32 := 1000000

/-- The greatest size that callers may ask for. -/
def maxSize : UInt32 := 1000

/-- An index and a size as submitted. -/
structure Params where
  index : UInt32 := 0
  size : UInt32 := Request.defaultSize
  deriving DecidableEq

/-- What is wrong with an index. -/
def indexError? (index : UInt32) : Option String :=
  if maxIndex < index then some ("Page index must be <= " ++ toString maxIndex.toNat) else none

/-- What is wrong with a size. -/
def sizeError? (size : UInt32) : Option String :=
  if size = 0 ∨ maxSize < size then
    some ("Page size must be between 1 and " ++ toString maxSize.toNat)
  else none

namespace Params

/-- What is wrong with parameters, a line for each of them. -/
def errors (p : Params) : List String :=
  ((indexError? p.index).map ("index: " ++ ·)).toList
    ++ ((sizeError? p.size).map ("size: " ++ ·)).toList

/-- The request of parameters, where no size above `max` is allowed. -/
def resolve (p : Params) (max : UInt32) : Except QueryError Request :=
  match p.errors with
  | [] =>
    if max < p.size then throw (.invalidPage ("Page size must be <= " ++ toString max.toNat))
    else Request.ofNumbers p.index p.size
  | errors => throw (.invalidPage ("\n".intercalate errors))

/-- Parameters, each read or not. -/
structure Draft where
  index : Option UInt32 := none
  size : Option UInt32 := none

/-- The fields of parameters. -/
def slots : List (Tree.Slot Draft) :=
  [⟨"index", fun t d => do return { d with index := some (← t.asUInt32) }, fun d => d.index.isSome,
    false, false⟩,
   ⟨"size", fun t d => do return { d with size := some (← t.asUInt32) }, fun d => d.size.isSome,
    false, false⟩]

/-- The parameters that a value stands for; what is missing has its default. -/
def ofTree (t : Tree) : Except Fault Params := do
  let d ← t.asFields "PageQuery" slots {}
  return ⟨d.index.getD 0, d.size.getD Request.defaultSize⟩

end Params

end RecordQuery.Page
