import RecordQuery.Page.Params
import RecordQuery.Query.Engine

/-!
# Settings

The `Settings` of a run are put together from layers: what the caller gives
(`Settings.Overrides`), what a settings file says (`Settings.Layer`), and the defaults; the first
of these that says something about a setting decides. `Settings.check` refuses settings that no
query could be run with.
-/

namespace RecordQuery

/-- The settings of a run. -/
structure Settings where
  defaultPageSize : UInt32 := Page.Request.defaultSize
  maxPageSize : UInt32 := Page.maxSize
  limits : Limits := {}
  cache : CacheSettings := {}
  /-- Kinds of fields by name, in place of the inferred ones. -/
  kinds : List (String × Kind) := []

namespace Settings

/-- What the caller gives. -/
structure Overrides where
  /-- The path of the settings file. -/
  file : Option String := none
  pageSize : Option UInt32 := none
  maxPageSize : Option UInt32 := none
  cacheEnabled : Option Bool := none
  cacheMaxEntries : Option UInt64 := none
  cacheLifetime : Option UInt64 := none
  deriving DecidableEq

/-- What is given in two places, where the first counts before the second. -/
def Overrides.or (a b : Overrides) : Overrides :=
  ⟨a.file.or b.file, a.pageSize.or b.pageSize, a.maxPageSize.or b.maxPageSize,
    a.cacheEnabled.or b.cacheEnabled, a.cacheMaxEntries.or b.cacheMaxEntries,
    a.cacheLifetime.or b.cacheLifetime⟩

/-- What a settings file says. -/
structure Layer where
  defaultPageSize : Option UInt32 := none
  maxPageSize : Option UInt32 := none
  maxFilterDepth : Option Nat := none
  maxSortKeys : Option Nat := none
  maxQueryBytes : Option Nat := none
  cacheEnabled : Option Bool := none
  cacheMaxEntries : Option UInt64 := none
  cacheLifetime : Option UInt64 := none
  kinds : Option (List (String × Kind)) := none
  deriving DecidableEq

/-- A layer with another one on top of it, which decides about the settings that it says something
about. Kinds of fields are decided about one by one. -/
def Layer.merge (below above : Layer) : Layer :=
  { defaultPageSize := above.defaultPageSize.or below.defaultPageSize
    maxPageSize := above.maxPageSize.or below.maxPageSize
    maxFilterDepth := above.maxFilterDepth.or below.maxFilterDepth
    maxSortKeys := above.maxSortKeys.or below.maxSortKeys
    maxQueryBytes := above.maxQueryBytes.or below.maxQueryBytes
    cacheEnabled := above.cacheEnabled.or below.cacheEnabled
    cacheMaxEntries := above.cacheMaxEntries.or below.cacheMaxEntries
    cacheLifetime := above.cacheLifetime.or below.cacheLifetime
    kinds :=
      match above.kinds with
      | none => below.kinds
      | some kinds =>
        some ((below.kinds.getD []).filter (fun k => (kinds.lookup k.1).isNone) ++ kinds) }

/-- The settings of the layers. -/
def layered (o : Overrides) (f : Layer) : Settings :=
  let d : Settings := {}
  { defaultPageSize := (o.pageSize.or f.defaultPageSize).getD d.defaultPageSize
    maxPageSize := (o.maxPageSize.or f.maxPageSize).getD d.maxPageSize
    limits :=
      { maxQueryBytes := f.maxQueryBytes.getD d.limits.maxQueryBytes
        maxFilterDepth := f.maxFilterDepth.getD d.limits.maxFilterDepth
        maxSortKeys := f.maxSortKeys.getD d.limits.maxSortKeys }
    cache :=
      { enabled := (o.cacheEnabled.or f.cacheEnabled).getD d.cache.enabled
        maxEntries := ((o.cacheMaxEntries.or f.cacheMaxEntries).map UInt64.toNat).getD
          d.cache.maxEntries
        lifetime := ((o.cacheLifetime.or f.cacheLifetime).map UInt64.toNat).getD d.cache.lifetime }
    kinds := f.kinds.getD d.kinds }

/-! ## Validity -/

/-- What is wrong with settings. -/
inductive Invalid where
  | maxPageSize
  | defaultPageSize (max : UInt32)
  | maxFilterDepth
  | maxQueryBytes
  | cacheMaxEntries
  deriving DecidableEq

/-- The wording of what is wrong. -/
def Invalid.message (i : Invalid) : String :=
  "Configuration error: " ++
    match i with
    | .maxPageSize =>
      "query.max_page_size must be between 1 and " ++ toString Page.maxSize.toNat
    | .defaultPageSize max =>
      "query.default_page_size must be between 1 and query.max_page_size (" ++ toString max.toNat
        ++ ")"
    | .maxFilterDepth => "query.max_filter_depth must be between 1 and "
        ++ toString RecordQuery.maxFilterDepth
    | .maxQueryBytes => "query.max_query_bytes must be greater than 0"
    | .cacheMaxEntries => "cache.max_entries must be greater than 0 when the cache is enabled"

/-- Refuses settings that do not fit together; the first of their faults counts. -/
def check (s : Settings) : Except Invalid Unit :=
  if s.maxPageSize = 0 ∨ Page.maxSize < s.maxPageSize then throw .maxPageSize
  else if s.defaultPageSize = 0 ∨ s.maxPageSize < s.defaultPageSize then
    throw (.defaultPageSize s.maxPageSize)
  else if s.limits.maxFilterDepth = 0 ∨ maxFilterDepth < s.limits.maxFilterDepth then
    throw .maxFilterDepth
  else if s.limits.maxQueryBytes = 0 then throw .maxQueryBytes
  else if s.cache.enabled ∧ s.cache.maxEntries = 0 then throw .cacheMaxEntries
  else pure ()

/-- The page that an index and, where wanted, a size ask for. -/
def request (s : Settings) (index : UInt32) (size : Option UInt32) :
    Except QueryError Page.Request :=
  Page.Params.resolve ⟨index, size.getD s.defaultPageSize⟩ s.maxPageSize

end Settings

end RecordQuery
