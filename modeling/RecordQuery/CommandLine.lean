import RecordQuery.Query.Filter
import RecordQuery.Settings
import RecordQuery.Text.Lowercase
import RecordQuery.Text.Search

/-!
# Command lines

What can be asked for on the command line is an `Invocation`: a command and settings. This module
holds the parameters there are (`CommandLine.Parameter`) and how each reads its value
(`CommandLine.Given.put`); `CommandLine.Reader` reads whole command lines.

`CommandLine.sortKeyOf` reads a sort key written as a field alone, which is then sorted in ascending
order, or as field, colon and direction.
-/

namespace RecordQuery

/-- A query as the command line asks for it. -/
structure QueryArguments where
  /-- The file with the records. -/
  data : String
  /-- The file with the query. -/
  queryFile : Option String := none
  /-- A filter, as a text. -/
  filter : Option String := none
  /-- Sort keys behind those of the query. -/
  sort : List SortKey := []
  index : UInt32 := 0
  size : Option UInt32 := none

/-- What the program is asked to do. -/
inductive Command where
  | query (arguments : QueryArguments) (pretty : Bool)
  | schema (data : String)

/-- A command with settings. -/
structure Invocation where
  command : Command
  overrides : Settings.Overrides

/-- Why there is no command. -/
inductive UsageError where
  | argumentConflict
  /-- A value is missing, empty or none of the possible ones. -/
  | invalidValue
  /-- A value cannot be read; for sort keys with the reason. -/
  | valueValidation (reason : Option String)
  | unknownArgument
  | missingArgument
  | missingCommand
  | nothingGiven
  | invalidCommand
  | tooManyValues
  | helpWanted
  | versionWanted
  deriving DecidableEq

namespace CommandLine

/-! ## Values -/

/-- The sort key of a field, or of a field, a colon and a direction. -/
def sortKeyOf (s : String) : Except String SortKey :=
  let (before, after) := Text.splitFirst ':' s.toList
  let field := String.ofList (Text.trimChars before)
  let direction := match after with
    | none => "asc"
    | some cs => String.ofList (Text.trimChars cs)
  if field = "" then throw ("Invalid sort key '" ++ s ++ "'. Expected field[:asc|desc]")
  else if Text.lowercase direction = "asc" ∨ Text.lowercase direction = "desc" then
    pure ⟨field, direction⟩
  else throw ("Invalid sort direction '" ++ direction ++ "'. Valid options: asc, desc")

/-- A path, which must not be empty. -/
def pathOf (s : String) : Except UsageError String :=
  if s = "" then throw .invalidValue else pure s

/-- A number of 32 bits. -/
def uint32Of (s : String) : Except UsageError UInt32 :=
  match Number.integer? s.toList with
  | some i =>
    if 0 ≤ i.toInt ∧ i.toInt < UInt32.size then pure (UInt32.ofNat i.toInt.toNat)
    else throw (.valueValidation none)
  | none => throw (.valueValidation none)

/-- A number of 64 bits. -/
def uint64Of (s : String) : Except UsageError UInt64 :=
  match Number.natural? UInt64.size s.toList with
  | some n => pure (UInt64.ofNat n)
  | none => throw (.valueValidation none)

/-- A truth value. -/
def boolOf (s : String) : Except UsageError Bool :=
  if s = "true" then pure true else if s = "false" then pure false else throw .invalidValue

/-! ## Parameters -/

/-- What a word of the command line gives a value to. -/
inductive Parameter where
  | config
  | pageSize
  | maxPageSize
  | cache
  | cacheMaxEntries
  | cacheLifetime
  | data
  | query
  | filter
  | sort
  | index
  | size
  | pretty
  | help
  | version
  deriving DecidableEq

namespace Parameter

/-- The parameters that every command has. -/
def shared : List Parameter :=
  [.config, .pageSize, .maxPageSize, .cache, .cacheMaxEntries, .cacheLifetime, .help]

/-- Whether a parameter has no value. -/
def isFlag : Parameter → Bool
  | .pretty | .help | .version => true
  | _ => false

/-- The name behind two hyphens. -/
def name? : Parameter → Option String
  | .config => "config"
  | .pageSize => "page-size"
  | .maxPageSize => "max-page-size"
  | .cache => "cache"
  | .cacheMaxEntries => "cache-max-entries"
  | .cacheLifetime => "cache-ttl-secs"
  | .data => none
  | .query => "query"
  | .filter => "filter"
  | .sort => "sort"
  | .index => "index"
  | .size => "size"
  | .pretty => "pretty"
  | .help => "help"
  | .version => "version"

/-- The letter behind one hyphen. -/
def letter? : Parameter → Option Char
  | .config => 'c'
  | .query => 'q'
  | .filter => 'f'
  | .sort => 's'
  | .index => 'i'
  | .size => 'n'
  | .help => 'h'
  | .version => 'V'
  | _ => none

/-- The environment variable that stands in for a parameter. -/
def environmentName? : Parameter → Option String
  | .config => "DYNQ_CONFIG"
  | .pageSize => "DYNQ_PAGE_SIZE"
  | .maxPageSize => "DYNQ_MAX_PAGE_SIZE"
  | .cache => "DYNQ_CACHE_ENABLED"
  | .cacheMaxEntries => "DYNQ_CACHE_MAX_ENTRIES"
  | .cacheLifetime => "DYNQ_CACHE_TTL_SECS"
  | _ => none

end Parameter

/-- The values of parameters. -/
structure Given where
  overrides : Settings.Overrides := {}
  data : Option String := none
  query : Option String := none
  filter : Option String := none
  sort : List SortKey := []
  index : Option UInt32 := none
  size : Option UInt32 := none
  pretty : Option Unit := none

/-- A value for a parameter that may be given once. -/
def once {α : Type} (old : Option α) (value : Except UsageError α) :
    Except UsageError (Option α) :=
  match old with
  | some _ => throw .argumentConflict
  | none => some <$> value

namespace Given

/-- Gives a parameter a value, which flags do not look at. -/
def put (g : Given) (p : Parameter) (s : String) : Except UsageError Given :=
  let o := g.overrides
  match p with
  | .config => do return { g with overrides.file := ← once o.file (pathOf s) }
  | .pageSize => do return { g with overrides.pageSize := ← once o.pageSize (uint32Of s) }
  | .maxPageSize => do return { g with overrides.maxPageSize := ← once o.maxPageSize (uint32Of s) }
  | .cache => do return { g with overrides.cacheEnabled := ← once o.cacheEnabled (boolOf s) }
  | .cacheMaxEntries => do
    return { g with overrides.cacheMaxEntries := ← once o.cacheMaxEntries (uint64Of s) }
  | .cacheLifetime => do
    return { g with overrides.cacheLifetime := ← once o.cacheLifetime (uint64Of s) }
  | .data => do return { g with data := ← once g.data (pathOf s) }
  | .query => do return { g with query := ← once g.query (pathOf s) }
  | .filter => do return { g with filter := ← once g.filter (pure s) }
  | .sort => do
    let key ← (sortKeyOf s).mapError fun reason => .valueValidation (some reason)
    return { g with sort := g.sort ++ [key] }
  | .index => do return { g with index := ← once g.index (uint32Of s) }
  | .size => do return { g with size := ← once g.size (uint32Of s) }
  | .pretty => do return { g with pretty := ← once g.pretty (pure ()) }
  | .help => throw .helpWanted
  | .version => throw .versionWanted

/-- Whether a parameter that an environment variable can stand in for has a value. -/
def has (g : Given) : Parameter → Bool
  | .config => g.overrides.file.isSome
  | .pageSize => g.overrides.pageSize.isSome
  | .maxPageSize => g.overrides.maxPageSize.isSome
  | .cache => g.overrides.cacheEnabled.isSome
  | .cacheMaxEntries => g.overrides.cacheMaxEntries.isSome
  | .cacheLifetime => g.overrides.cacheLifetime.isSome
  | _ => false

/-- Takes the values that are missing from the environment. -/
def fill (env : String → Option String) (g : Given) : Except UsageError Given :=
  Parameter.shared.foldlM (fun g p =>
    match p.environmentName?.bind env with
    | some s => if g.has p then pure g else g.put p s
    | none => pure g) g

end Given

end CommandLine

end RecordQuery
