import RecordQuery.CommandLine
import RecordQuery.Proofs.Query.RowOrder
import RecordQuery.Proofs.Text.Lowercase
import RecordQuery.Proofs.Text.Search

/-!
# Sort keys on the command line

The command line checks the direction of a sort key by the full lower case of Unicode, and compiling
checks it by the case of ASCII letters. Both accept the same directions
(`Direction.ofKey_succeeds_iff`), since the letters of `asc` and `desc` are the lower case forms of
no characters but their own capitals. So a sort key is read exactly if its field is not blank and
its direction compiles, and compiling what is read can fail on the field only
(`CommandLine.sortKeyOf_compiles`).
-/

namespace RecordQuery

/-- The directions are those that are `asc` or `desc` in lower case. -/
theorem Direction.ofKey_succeeds_iff {key : SortKey} : (∃ d, ofKey key = .ok d) ↔
    Text.lowercase (Text.trim key.direction) = "asc" ∨
      Text.lowercase (Text.trim key.direction) = "desc" := by
  have hasc : Text.Kless "asc".toList := by decide
  have hdesc : Text.Kless "desc".toList := by decide
  rw [hasc.lowercase_eq_iff, hdesc.lowercase_eq_iff]
  simp only [ofKey_eq_ok, ofText?, Text.sameIgnoringCase_iff,
    show Text.asciiFold "asc" = "asc" from rfl, show Text.asciiFold "desc" = "desc" from rfl]
  split_ifs with ha hd <;> simp [*]

namespace CommandLine

/-- The part of a written sort key that names the field: all in front of the first colon. -/
def fieldPart (s : String) : String := String.ofList (s.toList.takeWhile (· ≠ ':'))

/-- The part of a written sort key that gives the direction: all behind the first colon, and `asc`
where there is none. -/
def directionPart (s : String) : String :=
  if ':' ∈ s.toList then String.ofList (s.toList.dropWhile (· ≠ ':')).tail else "asc"

theorem sortKeyOf_eq (s : String) : sortKeyOf s =
    if Text.trim (fieldPart s) = "" then
      throw ("Invalid sort key '" ++ s ++ "'. Expected field[:asc|desc]")
    else if Text.lowercase (Text.trim (directionPart s)) = "asc" ∨
        Text.lowercase (Text.trim (directionPart s)) = "desc" then
      pure ⟨Text.trim (fieldPart s), Text.trim (directionPart s)⟩
    else throw ("Invalid sort direction '" ++ Text.trim (directionPart s) ++
      "'. Valid options: asc, desc") := by
  have hfield : String.ofList (Text.trimChars (s.toList.takeWhile (· ≠ ':'))) =
      Text.trim (fieldPart s) := by
    rw [Text.trim, fieldPart, String.toList_ofList]
  rw [sortKeyOf, Text.splitFirst_eq]
  simp only [hfield]
  by_cases hcolon : ':' ∈ s.toList
  · have hdirection : String.ofList (Text.trimChars (s.toList.dropWhile (· ≠ ':')).tail) =
        Text.trim (directionPart s) := by
      rw [directionPart, if_pos hcolon, Text.trim, String.toList_ofList]
    simp only [if_pos hcolon, hdirection]
  · have hdirection : "asc" = Text.trim (directionPart s) := by
      rw [directionPart, if_neg hcolon]
      rfl
    simp only [if_neg hcolon, ← hdirection]

/-- A sort key is read if its field is not blank and its direction compiles. -/
theorem sortKeyOf_eq_ok {s : String} {k : SortKey} : sortKeyOf s = .ok k ↔
    Text.isBlankText (fieldPart s) = false ∧
      (∃ d, Direction.ofKey ⟨fieldPart s, directionPart s⟩ = .ok d) ∧
      k = ⟨Text.trim (fieldPart s), Text.trim (directionPart s)⟩ := by
  have hblank : Text.trim (fieldPart s) = "" ↔ Text.isBlankText (fieldPart s) = true :=
    Text.isBlankText_iff.symm
  rw [sortKeyOf_eq, Except.ite_throw_eq_ok, Direction.ofKey_succeeds_iff, hblank,
    Bool.not_eq_true]
  refine and_congr_right fun _ => ?_
  split_ifs with hdirection
  · simp [hdirection, eq_comm (a := k)]
  · simp [hdirection]

/-- A key with a direction is compiled exactly if its field is resolved. -/
theorem ofKeys_of_direction {α : Type} {k : SortKey} {d : Direction}
    (hd : Direction.ofKey k = .ok d) (schema : Schema α) :
    RowOrder.ofKeys schema [k] =
      (fun field => ⟨[⟨field.read, d⟩]⟩) <$> schema.resolve (Text.trim k.field) := by
  rw [RowOrder.ofKeys, List.mapM_cons, List.mapM_nil, RowOrder.keyOf, hd]
  cases schema.resolve (Text.trim k.field) <;> rfl

/-- A sort key is read exactly if its field is not blank and its direction compiles. What is read is
the trimmed field and a direction that compiles to the same, and compiling it for any records can
fail with an unknown field only. -/
theorem sortKeyOf_compiles (s : String) :
    ((∃ k, sortKeyOf s = .ok k) ↔ Text.isBlankText (fieldPart s) = false ∧
      ∃ d, Direction.ofKey ⟨fieldPart s, directionPart s⟩ = .ok d) ∧
    ∀ k, sortKeyOf s = .ok k →
      k.field = Text.trim (fieldPart s) ∧
      (∃ d, Direction.ofKey ⟨fieldPart s, directionPart s⟩ = .ok d ∧ Direction.ofKey k = .ok d) ∧
      ∀ {α : Type} (schema : Schema α),
        (RowOrder.ofKeys schema [k]).FailsWith (· = .fieldNotFound k.field schema.title) := by
  simp only [sortKeyOf_eq_ok]
  refine ⟨?_, ?_⟩
  · constructor
    · rintro ⟨k, hfield, hdirection, -⟩
      exact ⟨hfield, hdirection⟩
    · rintro ⟨hfield, hdirection⟩
      exact ⟨_, hfield, hdirection, rfl⟩
  · rintro k ⟨-, ⟨d, hd⟩, rfl⟩
    have htrimmed : Direction.ofKey ⟨Text.trim (fieldPart s), Text.trim (directionPart s)⟩ =
        .ok d := by
      rw [Direction.ofKey_eq_ok] at hd ⊢
      rwa [Direction.ofText?, Text.trim_trim, ← Direction.ofText?]
    refine ⟨rfl, ⟨d, hd, htrimmed⟩, fun schema => ?_⟩
    rw [ofKeys_of_direction htrimmed, Text.trim_trim]
    exact Except.FailsWith.map fun e he => (Schema.resolve_eq_error.1 he).2

theorem sortKeyOf_compiles_score : sortKeyOf " score :DESC" = .ok ⟨"score", "DESC"⟩ ∧
    ∃ d, Direction.ofKey ⟨"score", "DESC"⟩ = .ok d ∧
      ∀ {α : Type} (schema : Schema α), (RowOrder.ofKeys schema [⟨"score", "DESC"⟩]).FailsWith
        (· = .fieldNotFound "score" schema.title) := by
  have hread : sortKeyOf " score :DESC" = .ok ⟨"score", "DESC"⟩ := by decide
  obtain ⟨-, ⟨d, -, hd⟩, hfails⟩ := (sortKeyOf_compiles " score :DESC").2 _ hread
  exact ⟨hread, d, hd, hfails⟩

end CommandLine

end RecordQuery
