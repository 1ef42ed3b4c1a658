import RecordQuery.Query.Error

/-!
# Pages

A `Page` is one window of a sequence: the items in it, the `Page.Request` that says which window it
is, and the number of items of the whole sequence. All other facts about it (`Page.pages`,
`Page.hasPrevious`, `Page.hasNext`) follow from these.

`paginate` cuts a page out of a list. It shows the items to a `Page.Collector` one by one, as does
everything else that makes pages, so equal items give equal pages.
-/

namespace RecordQuery

/-- Which window of a sequence: its index, from zero, and its size. -/
structure Page.Request where
  index : UInt32
  size : UInt32
  size_pos : 0 < size
  deriving DecidableEq

namespace Page.Request

/-- The size of a window when nobody says otherwise. -/
def defaultSize : UInt32 := 10

/-- The first window of the default size. -/
def first : Request := ⟨0, defaultSize, by decide⟩

/-- The window of an index and a size, which must not be zero. -/
def ofNumbers (index size : UInt32) : Except QueryError Request :=
  if h : 0 < size then pure ⟨index, size, h⟩
  else throw (.invalidPage "Page size must be at least 1")

/-- The number of items before the window. -/
def offset (r : Request) : UInt64 := r.index.toUInt64 * r.size.toUInt64

end Page.Request

/-- One window of a sequence. -/
structure Page (α : Type) where
  items : List α
  request : Page.Request
  /-- The number of items of the whole sequence. -/
  count : UInt64
  deriving DecidableEq

namespace Page

variable {α β : Type}

/-- The page of a sequence without items. -/
def empty (r : Request) : Page α := ⟨[], r, 0⟩

/-- The number of windows that the sequence fills. -/
def pages (p : Page α) : UInt64 :=
  let size := p.request.size.toUInt64
  if p.count % size = 0 then p.count / size else p.count / size + 1

/-- Whether there are windows before this one. -/
def hasPrevious (p : Page α) : Bool := decide (0 < p.request.index)

/-- Whether there are items behind this window. -/
def hasNext (p : Page α) : Bool := decide (p.request.index.toUInt64 + 1 < p.pages)

/-- The page of other items in the places of these. -/
def map (f : α → β) (p : Page α) : Page β := ⟨p.items.map f, p.request, p.count⟩

/-! ## Collecting -/

/-- The sum of two numbers, or the greatest number where the sum would be too large. -/
def saturatingAdd (a b : UInt64) : UInt64 := if a ≤ a + b then a + b else -1

/-- The items of a window among those seen so far. -/
structure Collector (α : Type) where
  request : Request
  start : UInt64
  stop : UInt64
  seen : UInt64
  /-- The items inside the window, the latest first. -/
  kept : List α

namespace Collector

/-- A collector that has seen nothing. -/
def ofRequest (r : Request) : Collector α :=
  ⟨r, r.offset, saturatingAdd r.offset r.size.toUInt64, 0, []⟩

/-- Shows one more item. -/
def push (c : Collector α) (a : α) : Collector α :=
  { c with
    seen := c.seen + 1
    kept := if c.start ≤ c.seen ∧ c.seen < c.stop then a :: c.kept else c.kept }

/-- The page of all items seen. -/
def page (c : Collector α) : Page α := ⟨c.kept.reverse, c.request, c.seen⟩

end Collector

end Page

/-- The page of a window of a list. -/
def paginate {α : Type} (items : List α) (r : Page.Request) : Page α :=
  (items.foldl Page.Collector.push (Page.Collector.ofRequest r)).page

end RecordQuery
