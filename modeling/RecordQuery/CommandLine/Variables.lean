import RecordQuery.Text.Search

/-!
# Variables

The environment of a run is a row of entries, each a name, an equals sign and a value. A name is
found in the first entry that begins with it and an equals sign, and has what follows as its value.
So a name with an equals sign inside may be found as well: it reaches into the value of an entry
(`Variables.valueIn?`).
-/

namespace RecordQuery

/-- The values that names have. -/
abbrev Variables := String → Option String

namespace Variables

/-- The value that a wanted name has by the entry of a name and a value. -/
def valueIn? (wanted : String) (entry : String × String) : Option String :=
  let written := entry.1.toList ++ '=' :: entry.2.toList
  (Text.behind? (wanted.toList ++ ['=']) written).map String.ofList

/-- The variables with entries behind those that there are. -/
def adding (vars : Variables) (entries : List (String × String)) : Variables := fun wanted =>
  (vars wanted).or (entries.findSome? (valueIn? wanted))

/-- The variables of some entries. -/
def ofEntries (entries : List (String × String)) : Variables := adding (fun _ => none) entries

/-- An entry gives its own name its value. -/
theorem valueIn?_self (name value : String) : valueIn? name (name, value) = some value := by
  have h : Text.behind? (name.toList ++ ['=']) (name.toList ++ '=' :: value.toList)
      = some value.toList := Text.behind?_eq_some_iff.2 (by simp)
  simp [valueIn?, h]

end Variables

end RecordQuery
