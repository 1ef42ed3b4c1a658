import RecordQuery.Proofs.Query.RowOrder
import RecordQuery.Proofs.Value.Reading
import RecordQuery.Record.Inference

/-!
# Orders of records

A member of a record that is read as one of a kind is `null` or of that kind, whatever stands in the
document (`Record.read_fits`). So the schema of records is typed, whatever kinds were given by name
and in whatever order, also where the records do not have the name. All orders over it are total
preorders, on records that it was made from and on all others (`Record.compare_lawful`).
-/

namespace RecordQuery

namespace Record

theorem convert_fits (kind : Kind) (j : Json) : (convert kind j).Fits kind := by
  cases j with
  | null => exact .inl rfl
  | string s =>
    show ((Value.ofText? kind s).getD .null).Fits kind
    cases h : Value.ofText? kind s with
    | none => exact .inl rfl
    | some v => exact .inr (Value.kind?_of_ofText? h)
  | bool b =>
    cases kind with
    | bool | text => exact .inr rfl
    | int | float | date | datetime | uuid => exact .inl rfl
  | number n =>
    cases kind with
    | int =>
      show ((n.int64?.map Value.int).getD .null).Fits .int
      cases n.int64? with
      | none => exact .inl rfl
      | some i => exact .inr rfl
    | float | text => exact .inr rfl
    | bool | date | datetime | uuid => exact .inl rfl
  | array | object =>
    cases kind with
    | text => exact .inr rfl
    | bool | int | float | date | datetime | uuid => exact .inl rfl

/-- What is read as one of a kind is missing or of that kind. -/
theorem read_fits (r : Record) (key : String) (kind : Kind) : (r.read key kind).Fits kind := by
  unfold read
  split
  · exact .inl rfl
  · exact convert_fits kind _

theorem schema_typed (rs : List Record) (overrides : List (String × Kind)) :
    (schemaInOrder rs overrides).Typed := by
  refine Schema.typed_ofFields fun f hf r => ?_
  obtain ⟨p, -, rfl⟩ := List.mem_map.1 hf
  exact r.read_fits p.1 p.2

/-- Every field of a schema of records, with kinds given by name in any order, reads `null` or a value
of its kind, and every order over the schema is a total preorder of all records; sorting compares
records by that order. -/
theorem compare_lawful (rs : List Record) (overrides : List (String × Kind)) :
    (∀ f ∈ (schemaInOrder rs overrides).fields, ∀ r,
      f.read r = .null ∨ (f.read r).kind? = some f.kind) ∧
      ∀ {keys : List SortKey} {o : RowOrder Record},
        RowOrder.ofKeys (schemaInOrder rs overrides) keys = .ok o → ∀ a b c,
        o.compare b a = (o.compare a b).swap ∧
        (o.compare a b ≠ .gt → o.compare b c ≠ .gt → o.compare a c ≠ .gt) ∧
        RowOrder.compareValues o.keys (o.values a) (o.values b) = o.compare a b := by
  have htyped := schema_typed rs overrides
  refine ⟨fun f hf r => htyped f hf r, fun {keys o} h a b c => ?_⟩
  have := (RowOrder.typed_ofKeys htyped h).transCmp
  refine ⟨Std.OrientedCmp.eq_swap, fun hab hbc => ?_, RowOrder.compareValues_eq _ a b⟩
  have hle : (o.compare a c).isLE := Std.TransCmp.isLE_trans
    (Ordering.ne_gt_iff_isLE.1 hab) (Ordering.ne_gt_iff_isLE.1 hbc)
  exact Ordering.ne_gt_iff_isLE.2 hle

/-- A name and a score, which some records have as a text and which is to be read as a number. -/
def sampleScores : List Record :=
  [⟨[("name", .string "Ann"), ("Score", .string "nan")]⟩, ⟨[("Score", .int 3)]⟩]

theorem compare_lawful_sampleScores : ∃ o,
    RowOrder.ofKeys (schemaInOrder sampleScores [("score", .float)])
      [⟨"SCORE", "desc"⟩, ⟨"name", "asc"⟩] = .ok o ∧
    ∀ a b c, o.compare b a = (o.compare a b).swap ∧
      (o.compare a b ≠ .gt → o.compare b c ≠ .gt → o.compare a c ≠ .gt) :=
  ⟨_, rfl, fun a b c =>
    have h := (compare_lawful sampleScores [("score", .float)]).2
      (show RowOrder.ofKeys _ [⟨"SCORE", "desc"⟩, ⟨"name", "asc"⟩] = _ from rfl) a b c
    ⟨h.1, h.2.1⟩⟩

end Record

end RecordQuery
