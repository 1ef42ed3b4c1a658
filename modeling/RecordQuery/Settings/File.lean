import RecordQuery.Kind.Wire
import RecordQuery.Settings
import RecordQuery.Storage

/-!
# Settings files

A settings file is an object with the sections `query`, `cache` and `schema`, none of which it must
have, and no setting of which they must have. Members of other names are read and do not count.
`Settings.load` finds the file, reads it and puts the layers together.
-/

namespace RecordQuery.Settings

open Json (Fault Tree)

/-- Settings of the query section, each read or not; what is written as `null` is not set. -/
structure QuerySection where
  defaultPageSize : Option (Option UInt32) := none
  maxPageSize : Option (Option UInt32) := none
  maxFilterDepth : Option (Option Nat) := none
  maxSortKeys : Option (Option Nat) := none
  maxQueryBytes : Option (Option Nat) := none

/-- The fields of the query section. -/
def querySlots : List (Tree.Slot QuerySection) :=
  [⟨"default_page_size",
    fun t s => do return { s with defaultPageSize := some (← t.asOption Tree.asUInt32) },
    fun s => s.defaultPageSize.isSome, false, true⟩,
   ⟨"max_page_size",
    fun t s => do return { s with maxPageSize := some (← t.asOption Tree.asUInt32) },
    fun s => s.maxPageSize.isSome, false, true⟩,
   ⟨"max_filter_depth",
    fun t s => do return { s with maxFilterDepth := some (← t.asOption Tree.asSize) },
    fun s => s.maxFilterDepth.isSome, false, true⟩,
   ⟨"max_sort_keys",
    fun t s => do return { s with maxSortKeys := some (← t.asOption Tree.asSize) },
    fun s => s.maxSortKeys.isSome, false, true⟩,
   ⟨"max_query_bytes",
    fun t s => do return { s with maxQueryBytes := some (← t.asOption Tree.asSize) },
    fun s => s.maxQueryBytes.isSome, false, true⟩]

/-- Settings of the cache section, each read or not. -/
structure CacheSection where
  enabled : Option (Option Bool) := none
  maxEntries : Option (Option UInt64) := none
  lifetime : Option (Option UInt64) := none

/-- The fields of the cache section. -/
def cacheSlots : List (Tree.Slot CacheSection) :=
  [⟨"enabled", fun t s => do return { s with enabled := some (← t.asOption Tree.asBool) },
    fun s => s.enabled.isSome, false, true⟩,
   ⟨"max_entries", fun t s => do return { s with maxEntries := some (← t.asOption Tree.asUInt64) },
    fun s => s.maxEntries.isSome, false, true⟩,
   ⟨"ttl_secs", fun t s => do return { s with lifetime := some (← t.asOption Tree.asUInt64) },
    fun s => s.lifetime.isSome, false, true⟩]

/-- The sections of a file, each read or not. -/
structure Sections where
  query : Option (Option QuerySection) := none
  cache : Option (Option CacheSection) := none
  kinds : Option (Option (List (String × Kind))) := none

/-- The sections of a file by name. -/
def slots : List (Tree.Slot Sections) :=
  [⟨"query",
    fun t s => do
      return { s with
        query := some (← t.asOption fun t => t.asFields "QueryFileConfig" querySlots {}) },
    fun s => s.query.isSome, false, false⟩,
   ⟨"cache",
    fun t s => do
      return { s with
        cache := some (← t.asOption fun t => t.asFields "CacheFileConfig" cacheSlots {}) },
    fun s => s.cache.isSome, false, false⟩,
   ⟨"schema",
    fun t s => do
      return { s with kinds := some (← t.asOption fun t => t.asDictionary Kind.ofTree) },
    fun s => s.kinds.isSome, false, false⟩]

/-- The layer of some sections. -/
def Sections.layer (s : Sections) : Layer :=
  let q := s.query.join.getD {}
  let c := s.cache.join.getD {}
  { defaultPageSize := q.defaultPageSize.join
    maxPageSize := q.maxPageSize.join
    maxFilterDepth := q.maxFilterDepth.join
    maxSortKeys := q.maxSortKeys.join
    maxQueryBytes := q.maxQueryBytes.join
    cacheEnabled := c.enabled.join
    cacheMaxEntries := c.maxEntries.join
    cacheLifetime := c.lifetime.join
    kinds := s.kinds.join }

/-- The layer that an object stands for. -/
def Layer.ofTree : Tree → Except Fault Layer
  | .object _ members => do
    let (s, _) ← Tree.fillMembers (fun t => do let _ ← t.toJson) slots {} members
    return s.layer
  | .deep start _ _ => throw (Tree.tooDeep start)
  | t => throw (t.mismatch "struct FileConfig")

/-! ## Loading -/

/-- Why there are no settings. -/
inductive LoadError where
  | notFound (path : String)
  | unreadable (path : String) (fault : ReadFault)
  | malformed (path reason : String)
  | invalid (reason : Invalid)

namespace LoadError

/-- The wording of an error. -/
def message : LoadError → String
  | .notFound path => "Config file not found: " ++ path
  | .unreadable path _ => "Failed to read config file: " ++ path
  | .malformed path _ => "Failed to parse config file: " ++ path
  | .invalid reason => reason.message

/-- The wording of what is behind an error. -/
def cause? : LoadError → Option String
  | .notFound _ | .invalid _ => none
  | .unreadable _ fault => some fault.message
  | .malformed _ reason => some reason

end LoadError

/-- The settings file that is read when the caller names none. -/
def defaultFile : String := "dynq.json"

/-- The layer of the file at a path. -/
def Layer.ofEntry (path : String) (e : Entry) : Except LoadError Layer := do
  let text ← e.text.mapError (LoadError.unreadable path)
  (Json.readText Layer.ofTree text).mapError fun fault =>
    .malformed path (fault.messageIn (Json.bytesOf text))

/-- The path of the settings file, if there is one. A file that the caller names must be there. -/
def findFile? (storage : Storage) (file : Option String) : Except LoadError (Option String) :=
  match file with
  | some path => if (storage path).isPresent then pure (some path) else throw (.notFound path)
  | none => pure (if (storage defaultFile).isPresent then some defaultFile else none)

/-- The layer of the settings file, on top of a layer that says nothing. -/
def findLayer (storage : Storage) (file : Option String) : Except LoadError Layer := do
  match ← findFile? storage file with
  | some path => return Layer.merge {} (← Layer.ofEntry path (storage path))
  | none => return {}

/-- The settings of a run. -/
def load (storage : Storage) (o : Overrides) : Except LoadError Settings := do
  let layer ← findLayer storage o.file
  let s := layered o layer
  s.check.mapError LoadError.invalid
  return s

end RecordQuery.Settings
