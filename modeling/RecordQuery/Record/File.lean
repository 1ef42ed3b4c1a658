import RecordQuery.Record
import RecordQuery.Repository
import RecordQuery.Storage

/-!
# Records in files

A file holds records as an array of objects. It is read again on every fetch.
-/

namespace RecordQuery

/-- Why a file gives no records. -/
inductive RecordFileError where
  | unreadable (path : String) (fault : ReadFault)
  | malformed (path reason : String)

namespace RecordFileError

/-- The wording of an error. -/
def message : RecordFileError → String
  | .unreadable path fault => "Failed to read " ++ path ++ ": " ++ fault.message
  | .malformed path reason => "Failed to parse " ++ path ++ ": " ++ reason

/-- The wording of what is behind an error. -/
def cause : RecordFileError → String
  | .unreadable _ fault => fault.message
  | .malformed _ reason => reason

end RecordFileError

namespace Record

/-- The records of the file at a path. -/
def listOfEntry (path : String) (e : Entry) : Except RecordFileError (List Record) := do
  let bytes ← e.bytes.mapError (RecordFileError.unreadable path)
  (Json.readBytes listOfTree bytes).mapError fun fault =>
    .malformed path (fault.messageIn bytes)

/-- The source of the records of a file. -/
def fileSource (path : String) (e : Entry) : Source Record RecordFileError :=
  { rows := fun _ => .ofExcept (listOfEntry path e) }

end Record

end RecordQuery
