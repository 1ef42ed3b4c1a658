import RecordQuery.Record
import RecordQuery.Schema

/-!
# Schemas of records

Which fields records have is seen from the records themselves. `Json.kind?` is the kind of a single
value, `Kind.widen` the smallest kind that has room for values of two, and `Record.inferKinds` joins
the kinds seen under each name, in the order in which the names first occur; a name under which
nothing but `null` occurs is a text field.

`Record.schema` is the schema of records, in which some fields may be given another kind by name.
Kinds given by name are the entries of a hash table. A table has no order that a caller could choose,
so `Record.schemaInOrder` is the schema for any order in which the entries may be taken, and
`Record.schema` the one for the order of a run.
-/

namespace RecordQuery

/-- The kind of a text: a day, a timestamp with a time offset, an identifier, or any text. -/
def Text.kind (s : String) : Kind :=
  if (Date.ofText? s).isSome then .date
  else if (Instant.ofOffsetText? s).isSome then .datetime
  else if (Uuid.ofText? s).isSome then .uuid
  else .text

/-- The kind of a JSON value; `null` has none. -/
def Json.kind? : Json → Option Kind
  | .null => none
  | .bool _ => some .bool
  | .number n => some (if n.int64?.isSome then .int else .float)
  | .string s => some (Text.kind s)
  | .array _ | .object _ => some .text

/-- The smallest kind that has room for values of both kinds. -/
def Kind.widen (a b : Kind) : Kind :=
  if a = b then a
  else
    match a, b with
    | .int, .float | .float, .int => .float
    | .date, .datetime | .datetime, .date => .datetime
    | _, _ => .text

/-- The smallest kind for what was seen before and now; `none` stands for nothing but `null`. -/
def Kind.join : Option Kind → Option Kind → Option Kind
  | some a, some b => some (a.widen b)
  | none, b => b
  | a, none => a

namespace Record

/-- The kinds seen so far with one more seen under a name. -/
def observe (key : String) (kind : Option Kind) :
    List (String × Option Kind) → List (String × Option Kind)
  | [] => [(key, kind)]
  | (k, seen) :: rest =>
    if k = key then (k, Kind.join seen kind) :: rest else (k, seen) :: observe key kind rest

/-- The kinds seen so far with those of a record. -/
def observeRecord (seen : List (String × Option Kind)) (r : Record) :
    List (String × Option Kind) :=
  r.members.foldl (fun seen m => observe m.1 m.2.kind? seen) seen

/-- The names that occur in records with the kinds of their values. -/
def inferKinds (rs : List Record) : List (String × Kind) :=
  (rs.foldl observeRecord []).map fun p => (p.1, p.2.getD .text)

/-- Gives the first name that is the same but for case a kind; other names stay as they are. -/
def override (kinds : List (String × Kind)) (name : String) (kind : Kind) : List (String × Kind) :=
  match kinds with
  | [] => []
  | (k, seen) :: rest =>
    if Text.sameIgnoringCase k name then (k, kind) :: rest
    else (k, seen) :: override rest name kind

/-- The field that reads a member as one of a kind. -/
def field (key : String) (kind : Kind) : Field Record := ⟨key, kind, fun r => r.read key kind⟩

/-- What messages call a record. -/
def title : String := "record"

/-- The schema of records, with kinds given by name one after another. -/
def schemaInOrder (rs : List Record) (entries : List (String × Kind)) : Schema Record :=
  let kinds := entries.foldl (fun kinds o => override kinds o.1 o.2) (inferKinds rs)
  Schema.ofFields title (kinds.map fun p => field p.1 p.2)

/-- Kinds given by name in the order in which a run takes them, by the hashes of the names. -/
def enumerated (overrides : List (String × Kind)) : List (String × Kind) :=
  overrides.mergeSort fun a b => hash a.1 ≤ hash b.1

/-- The schema of records, with some kinds given by name. -/
def schema (rs : List Record) (overrides : List (String × Kind)) : Schema Record :=
  schemaInOrder rs (enumerated overrides)

end Record

end RecordQuery
