import RecordQuery.Query.Limits

/-!
# Limits in documents

Limits are written as an object with a member for each of them, or as an array of them in their
order. `Limits.ofJson` reads them from a value; a limit that is not there keeps its default.
-/

namespace RecordQuery.Limits

open Json (Fault Tree)

/-- The names of the limits in their order. -/
def names : List String := ["max_query_bytes", "max_filter_depth", "max_sort_keys"]

/-- The limits with the one of a name replaced; other names do not count. -/
def put (l : Limits) (name : String) (value : Json) : Except Fault Limits :=
  match name with
  | "max_query_bytes" => do return { l with maxQueryBytes := ← (Tree.ofJson value).asSize }
  | "max_filter_depth" => do return { l with maxFilterDepth := ← (Tree.ofJson value).asSize }
  | "max_sort_keys" => do return { l with maxSortKeys := ← (Tree.ofJson value).asSize }
  | _ => pure l

/-- The limits that named values stand for, the last one of a name counting. -/
def putAll (l : Limits) : List (String × Json) → Except Fault Limits
  | [] => pure l
  | (name, value) :: members => do putAll (← l.put name value) members

/-- The limits that a value stands for. -/
def ofJson : Json → Except Fault Limits
  | .object members => putAll {} members
  | .array items => do
    let l ← putAll {} (names.zip items)
    if names.length < items.length then
      throw ⟨.invalidLength items.length "fewer elements in array", 0⟩
    return l
  | j => throw ((Tree.ofJson j).mismatch "struct QueryLimits")

end RecordQuery.Limits
