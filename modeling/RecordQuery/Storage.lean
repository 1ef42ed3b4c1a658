import RecordQuery.Text.Utf8

/-!
# Stored texts

What is found at a path (`Entry`), and why it may be impossible to read it as bytes or as a text
(`ReadFault`). A `Storage` is the view of all paths that a run of the program has.
-/

namespace RecordQuery

/-- Why nothing can be read at a path. -/
inductive ReadFault where
  | missing
  | directory
  /-- The path goes on behind a file. -/
  | behindFile
  | nameTooLong
  | nulInName
  | notText
  | broken (reason : String)
  deriving DecidableEq

namespace ReadFault

/-- The wording of a fault. -/
def message : ReadFault → String
  | .missing => "No such file or directory (os error 2)"
  | .directory => "Is a directory (os error 21)"
  | .behindFile => "Not a directory (os error 20)"
  | .nameTooLong => "File name too long (os error 36)"
  | .nulInName => "file name contained an unexpected NUL byte"
  | .notText => "stream did not contain valid UTF-8"
  | .broken reason => reason

/-- Whether the fault is one of something that is there. -/
def isOfPresent : ReadFault → Bool
  | .directory | .notText | .broken _ => true
  | .missing | .behindFile | .nameTooLong | .nulInName => false

end ReadFault

/-- What is found at a path. -/
inductive Entry where
  | file (bytes : List UInt8)
  | unreadable (fault : ReadFault)

/-- What is found at each path. -/
abbrev Storage := String → Entry

namespace Entry

/-- Whether there is anything. -/
def isPresent : Entry → Bool
  | .file _ => true
  | .unreadable fault => fault.isOfPresent

/-- The bytes of a file. -/
def bytes : Entry → Except ReadFault (List UInt8)
  | .file bytes => pure bytes
  | .unreadable fault => throw fault

/-- The text of a file. -/
def text (e : Entry) : Except ReadFault String := do
  match Text.ofBytes? (← e.bytes) with
  | some s => return s
  | none => throw .notText

end Entry

end RecordQuery
