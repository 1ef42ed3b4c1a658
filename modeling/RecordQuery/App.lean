import RecordQuery.CommandLine
import RecordQuery.Page.Wire
import RecordQuery.Record.File
import RecordQuery.Record.Inference
import RecordQuery.Repository.Suspending
import RecordQuery.Settings.File

/-!
# The application

`App.query` answers a query about the records of a file. The query is put together first
(`App.buildQuery`), then the page is settled, and only then are the records read. `App.perform` does
what an invocation asks for and gives the text that it prints.
-/

namespace RecordQuery.App

/-- Why an invocation fails. -/
inductive Error where
  | settings (error : Settings.LoadError)
  | queryFile (path : String) (fault : ReadFault)
  | query (error : QueryError)
  | records (error : RecordFileError)
  | cancelled

namespace Error

/-- The wording of an error. -/
def message : Error → String
  | .settings e => e.message
  | .queryFile path _ => "Failed to read query file: " ++ path
  | .query e => e.message
  | .records e => e.message
  | .cancelled => "Operation cancelled"

/-- The wording of what is behind an error. -/
def cause? : Error → Option String
  | .settings e => e.cause?
  | .queryFile _ fault => some fault.message
  | .records e => some e.cause
  | .query _ | .cancelled => none

/-- The error of a call about rows that are at hand. -/
def ofRepository : RepositoryError Empty → Error
  | .query e => .query e
  | .cancelled => .cancelled

end Error

/-- The query of a query file or of a filter, with more sort keys behind its own. -/
def buildQuery (l : Limits) (storage : Storage) (a : QueryArguments) : Except Error Query := do
  let q ← match a.queryFile, a.filter with
    | some path, _ => do
      let text ← (storage path).text.mapError (Error.queryFile path)
      (Query.ofText l text).mapError Error.query
    | none, some text => do
      let f ← (Filter.ofText l text).mapError Error.query
      pure ⟨some f, []⟩
    | none, none => pure Query.neutral
  let q : Query := ⟨q.filter, q.sort ++ a.sort⟩
  (l.check q).mapError Error.query
  return q

/-- The page of records that a query asks for. -/
def query (s : Settings) (storage : Storage) (a : QueryArguments) (cancelled : Bool) :
    Except Error (Page Record) := do
  let q ← buildQuery s.limits storage a
  let page ← (s.request a.index a.size).mapError Error.query
  let rows ← (Record.listOfEntry a.data (storage a.data)).mapError Error.records
  let engine := Engine.ofSettings (Record.schema rows s.kinds) s.limits s.cache
  let repository : Repository Record Empty := ⟨.ofList rows, engine⟩
  (Repository.Suspending.listByQuery repository q none [] page cancelled).result.mapError
    Error.ofRepository

/-- A text with blanks behind it up to a width. -/
def padded (width : Nat) (s : String) : String :=
  s ++ String.ofList (List.replicate (width - s.length) ' ')

/-- The names and kinds of fields, one field a line. -/
def schemaText {α : Type} (s : Schema α) : String :=
  String.join (s.fields.map fun f => padded 24 f.name ++ " " ++ f.kind.name ++ "\n")

/-- What an invocation prints. -/
def perform (storage : Storage) (i : Invocation) : Except Error String := do
  let s ← (Settings.load storage i.overrides).mapError Error.settings
  match i.command with
  | .query a pretty => do
    let page ← query s storage a false
    let j := page.toJson Record.toJson
    return (if pretty then j.pretty else j.text) ++ "\n"
  | .schema data => do
    let rows ← (Record.listOfEntry data (storage data)).mapError Error.records
    return schemaText (Record.schema rows s.kinds)

end RecordQuery.App
