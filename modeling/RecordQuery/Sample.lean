import RecordQuery.Schema

/-!
# Sample records

A record type with a field of nearly every kind, its schema, and two lists of such records to try
queries on: `Person.people`, with names in mixed case, shared ages and scores and missing values,
and `Person.numbered`, as many as wanted.
-/

namespace RecordQuery

/-- A person. -/
structure Person where
  id : Int64
  name : String
  age : Int64
  score : Option Binary64
  active : Bool
  joined : Date
  createdAt : Instant
  email : Option String

namespace Person

/-- The schema of people. -/
def schema : Schema Person :=
  .ofFields "Person"
    [⟨"id", .int, fun p => .int p.id⟩, ⟨"name", .text, fun p => .text p.name⟩,
     ⟨"age", .int, fun p => .int p.age⟩,
     ⟨"score", .float, fun p => (p.score.map Value.float).getD .null⟩,
     ⟨"active", .bool, fun p => .bool p.active⟩, ⟨"joined", .date, fun p => .date p.joined⟩,
     ⟨"createdAt", .datetime, fun p => .datetime p.createdAt⟩,
     ⟨"email", .text, fun p => (p.email.map Value.text).getD .null⟩]

/-- The start of January 2024 in seconds, as instants count them. -/
def start2024 : Int := 1704067200

/-- Ten o'clock on a day of January 2024. -/
def morning (day : Nat) : Instant := ⟨start2024 + (day - 1) * 86400 + 36000, 0⟩

/-- A score in quarters. -/
def quarters (n : Nat) : Option Binary64 := some (Binary64.ofRatio false n 4)

/-- Eight people. -/
def people : List Person :=
  [⟨1, "Ann", 34, quarters 354, true, ⟨2020, 1, 15, by decide, by decide⟩, morning 1,
    some "ann@example.com"⟩,
   ⟨2, "bob", 17, none, false, ⟨2021, 6, 1, by decide, by decide⟩, morning 2, none⟩,
   ⟨3, "Cara", 25, quarters 368, true, ⟨2019, 11, 30, by decide, by decide⟩, morning 3,
    some "cara@example.org"⟩,
   ⟨4, "Dan", 41, quarters 281, false, ⟨2022, 2, 2, by decide, by decide⟩, morning 4,
    some "dan@example.com"⟩,
   ⟨5, "Eve", 18, quarters 354, true, ⟨2023, 3, 3, by decide, by decide⟩, morning 5, none⟩,
   ⟨6, "anna", 25, none, true, ⟨2020, 7, 7, by decide, by decide⟩, morning 6,
    some "anna@example.com"⟩,
   ⟨7, "Finn", 10, quarters 220, false, ⟨2024, 1, 1, by decide, by decide⟩, morning 7,
    some "finn@example.net"⟩,
   ⟨8, "Gus", 20, quarters 244, true, ⟨2018, 5, 5, by decide, by decide⟩, morning 8, none⟩]

/-- People numbered from one on, each as old as the number says. -/
def numbered (n : Nat) : List Person :=
  (List.range n).map fun i =>
    let k : Nat := i + 1
    ⟨.ofNat k, "p" ++ toString k, .ofNat k, quarters (4 * k), k % 2 = 0, ⟨2020, 1, 1, by decide, by decide⟩,
      ⟨start2024, 0⟩, none⟩

end Person

end RecordQuery
