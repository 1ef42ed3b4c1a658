import RecordQuery.Json.Reader
import RecordQuery.Json.Decoder
import RecordQuery.Page

/-!
# Pages as JSON

`Page.toJson` writes a page with everything that is known about it. `Page.ofTree` reads one back
from its items, its window and its count, and refuses a page that holds more items than these
leave room for; whatever else a document says about the page is passed over.
-/

namespace RecordQuery.Page

open Json (Tree)

variable {α : Type}

/-- The object of a page, given the value of an item. -/
def toJson (f : α → Json) (p : Page α) : Json :=
  .object
    [("items", .array (p.items.map f)), ("index", .int p.request.index.toNat),
     ("size", .int p.request.size.toNat), ("count", .int p.count.toNat),
     ("pages", .int p.pages.toNat), ("hasPrevious", .bool p.hasPrevious),
     ("hasNext", .bool p.hasNext)]

/-- Why no page could be read. -/
inductive ReadError where
  | json (fault : Json.Fault)
  | page (error : QueryError)

/-- The parts of a page, each read or not. -/
structure Draft (α : Type) where
  items : Option (List α) := none
  index : Option UInt32 := none
  size : Option UInt32 := none
  count : Option UInt64 := none

/-- The fields of a page. -/
def slots (f : Tree → Except Json.Fault α) : List (Tree.Slot (Draft α)) :=
  [⟨"items", fun t d => do return { d with items := some (← t.asList f) },
    fun d => d.items.isSome, true, true⟩,
   ⟨"index", fun t d => do return { d with index := some (← t.asUInt32) },
    fun d => d.index.isSome, true, true⟩,
   ⟨"size", fun t d => do return { d with size := some (← t.asUInt32) },
    fun d => d.size.isSome, true, true⟩,
   ⟨"count", fun t d => do return { d with count := some (← t.asUInt64) },
    fun d => d.count.isSome, true, true⟩]

/-- The number of items that a count leaves from a window on. -/
def remaining (r : Request) (count : UInt64) : UInt64 :=
  if r.offset ≤ count then count - r.offset else 0

/-- The page of these parts, if its items have room in it. -/
def ofParts (items : List α) (index size : UInt32) (count : UInt64) :
    Except QueryError (Page α) := do
  let r ← Request.ofNumbers index size
  if size.toNat < items.length then
    throw (.invalidPage
      ("Page holds " ++ toString items.length ++ " items but size is " ++ toString size.toNat))
  else if (remaining r count).toNat < items.length then
    throw (.invalidPage
      ("Page holds " ++ toString items.length ++ " items but count " ++ toString count.toNat
        ++ " leaves " ++ toString (remaining r count).toNat ++ " from index "
        ++ toString index.toNat))
  else return ⟨items, r, count⟩

/-- The page that a value stands for, given the reader of an item. -/
def ofTree (f : Tree → Except Json.Fault α) (t : Tree) : Except ReadError (Page α) := do
  let d ← (t.asFields "RawPage" (slots f) {}).mapError .json
  (ofParts (d.items.getD []) (d.index.getD 0) (d.size.getD 0) (d.count.getD 0)).mapError .page

/-- The page that the whole of a text stands for. -/
def ofText (f : Tree → Except Json.Fault α) (s : String) : Except ReadError (Page α) :=
  (Json.Document.ofBytes (Json.bytesOf s)).readAs .json (ofTree f)

/-- The wording of an error about a text. -/
def ReadError.messageIn (s : String) : ReadError → String
  | .json fault => fault.messageIn (Json.bytesOf s)
  | .page e => e.message

end RecordQuery.Page
