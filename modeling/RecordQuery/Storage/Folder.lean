import RecordQuery.Storage
import RecordQuery.Text.Search

/-!
# Folders

A `Folder` holds files and folders at places below itself, and `Folder.storage` is the view that a
run inside it has. A path is followed name by name (`Folder.follow`): an empty name and `.` stay at
a place, `..` goes back, and each of them, the last one too, needs a folder to stand in. Above the
folder of the run there are folders in which nothing can be found.
-/

namespace RecordQuery

/-- What is found below a folder, by the names that lead there. -/
structure Folder where
  entries : List (List String × Entry)

namespace Folder

/-- The names of a path. -/
def names (path : String) : List String := (Text.split '/' path.toList).map String.ofList

/-- Whether a name stays at its place. -/
def staysAt (name : String) : Bool := name = "" || name = "."

/-- The folder with some entries, each given with its path. -/
def ofPaths (entries : List (String × Entry)) : Folder :=
  ⟨entries.map fun e => ((names e.1).filter (!staysAt ·), e.2)⟩

/-- A place that a path leads to: the names down from the folder of the run, or none above it. -/
abbrev Place := Option (List String)

/-- What is found at a place. There is a folder wherever something is found below. -/
def entryAt (f : Folder) : Place → Entry
  | none | some [] => .unreadable .directory
  | some place =>
    match f.entries.lookup place with
    | some e => e
    | none =>
      .unreadable (if f.entries.any fun e => place.isPrefixOf e.1 then .directory else .missing)

/-- The place that a name leads to from a folder; none where nothing has the name. -/
def step? (place : Place) (name : String) : Option Place :=
  if staysAt name then some place
  else if name = ".." then
    match place with
    | some (n :: ns) => some (some (n :: ns).dropLast)
    | _ => some none
  else place.map fun ns => some (ns ++ [name])

/-- How many bytes a name may have. -/
def maxNameSize : Nat := 255

/-- How many bytes a path may have. -/
def maxPathSize : Nat := 4095

/-- What names lead to from a place. -/
def follow (f : Folder) (place : Place) : List String → Entry
  | [] => f.entryAt place
  | name :: names =>
    match f.entryAt place with
    | .file _ => .unreadable .behindFile
    | .unreadable .directory =>
      if maxNameSize < name.utf8ByteSize then .unreadable .nameTooLong
      else
        match step? place name with
        | some place => follow f place names
        | none => .unreadable .missing
    | e => e

/-- What a run inside the folder finds at each path. A path that begins with a slash leads down from
above the folder. -/
def storage (f : Folder) : Storage := fun path =>
  if path.toList.contains '\x00' then .unreadable .nulInName
  else if maxPathSize < path.utf8ByteSize then .unreadable .nameTooLong
  else if path = "" then .unreadable .missing
  else f.follow (if path.toList.head? = some '/' then none else some []) (names path)

end Folder

end RecordQuery
