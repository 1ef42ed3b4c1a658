import RecordQuery.Main
import RecordQuery.Proofs.Filter.Fitting
import RecordQuery.Proofs.Filter.WellFormed
import RecordQuery.Proofs.Page.Wire
import RecordQuery.Proofs.Query.Cache
import RecordQuery.Proofs.Query.Concern
import RecordQuery.Proofs.Query.Limits
import RecordQuery.Proofs.Query.RoundTrip
import RecordQuery.Proofs.Query.RowOrder
import RecordQuery.Proofs.Query.Sharing
import RecordQuery.Proofs.Record.Inference
import RecordQuery.Proofs.Record.LeastKind
import RecordQuery.Proofs.Record.Order
import RecordQuery.Proofs.Repository.Blocking
import RecordQuery.Proofs.Repository.Cancellation
import RecordQuery.Proofs.Repository.Fetches
import RecordQuery.Proofs.Repository.Suspending
import RecordQuery.Proofs.Settings.Layers
import RecordQuery.Proofs.Settings.Paging
import RecordQuery.Proofs.Value.Transitivity
import RecordQuery.Query.Limits.Wire
import RecordQuery.Repository.Blocking
import RecordQuery.Sample
import RecordQuery.Storage.Folder
import RecordQuery.Proofs.Schema.Names
import RecordQuery.Proofs.Filter.CaseFolding
import RecordQuery.Proofs.Record.Overrides
import RecordQuery.Proofs.Number.Rounding
import RecordQuery.Proofs.Number.Shortest
import RecordQuery.Proofs.Number.Writing
import RecordQuery.Proofs.Record.OwnValue
import RecordQuery.Proofs.Time.Midnight
import RecordQuery.Proofs.Number.Whole
import RecordQuery.Proofs.Record.Widening
import RecordQuery.Proofs.Value.Exact
import RecordQuery.Proofs.Filter.Segments
import RecordQuery.Proofs.Value.Agreement
import RecordQuery.Proofs.Query.Range
import RecordQuery.Proofs.CommandLine.SortKeys
import RecordQuery.Proofs.Time.Timestamp
import RecordQuery.Proofs.Query.Respelled
import RecordQuery.Proofs.Number.Mixed
