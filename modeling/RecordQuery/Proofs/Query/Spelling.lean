import RecordQuery.Proofs.Filter.Tree
import RecordQuery.Proofs.Text.Blank
import RecordQuery.Query.Plan

/-!
# Spelling does not matter

`Query.normalize` takes away what two spellings of a query may differ in: the case of field names,
operators, logics and directions, and the blanks around all but the names. What is left makes the
same plan, if the query makes one at all (`Plan.ofQuery_normalize`). Errors are left out of this, as
they quote what was submitted.

Each reader of a word ignores what normalization takes away; a filter and its normal form make
clauses that differ in the case of field names (`Clause.foldFields`), which resolution ignores.
-/

namespace RecordQuery

/-! ## Words -/

namespace Text

theorem sameIgnoringCase_fold_left (s t : String) :
    sameIgnoringCase (asciiFold s) t = sameIgnoringCase s t := by
  rw [Bool.eq_iff_iff, sameIgnoringCase_iff, sameIgnoringCase_iff, asciiFold_asciiFold]

theorem sameIgnoringCase_fold_right (s t : String) :
    sameIgnoringCase s (asciiFold t) = sameIgnoringCase s t := by
  rw [Bool.eq_iff_iff, sameIgnoringCase_iff, sameIgnoringCase_iff, asciiFold_asciiFold]

theorem asciiFold_eq_empty {s : String} : asciiFold s = "" ↔ s = "" := by
  rw [← String.toList_inj, toList_asciiFold]
  simp

/-- A word without blanks and capital letters has none to take away. -/
theorem trim_word (s : String) : trim (asciiFold (trim s)) = asciiFold (trim s) := by
  rw [trim_asciiFold, trim_trim]

end Text

theorem Operator.ofText?_word (s : String) :
    ofText? (Text.asciiFold (Text.trim s)) = ofText? s := by
  simp only [ofText?, Text.trim_word, Text.sameIgnoringCase_fold_right]

theorem Direction.ofText?_word (s : String) :
    ofText? (Text.asciiFold (Text.trim s)) = ofText? s := by
  simp only [ofText?, Text.trim_word, Text.sameIgnoringCase_fold_left]

theorem Connective.ofLogic_word (logic : Option String) :
    (ofLogic (logic.map fun l => Text.asciiFold (Text.trim l))).toOption =
      (ofLogic logic).toOption := by
  cases logic with
  | none => rfl
  | some l =>
    simp only [ofLogic, Option.map_some, Text.trim_word, Text.asciiFold_eq_empty,
      Text.sameIgnoringCase_fold_left]
    split_ifs <;> simp only [Except.toOption_pure, Except.toOption_throw]

/-! ## Filters -/

/-- A condition with the name of its field in lower case. -/
def Condition.foldField (c : Condition) : Condition := { c with field := Text.asciiFold c.field }

/-- A clause with the names of fields in lower case. -/
def Clause.foldFields : Clause → Clause
  | .leaf c => .leaf c.foldField
  | .group l cs => .group l (cs.map foldFields)
  | .both c l cs => .both c.foldField l (cs.map foldFields)

namespace Filter

theorem normalizeAll_eq (fs : List Filter) : normalizeAll fs = fs.map normalize := by
  induction fs with
  | nil => rfl
  | cons f fs ih => rw [normalizeAll, ih, List.map_cons]

theorem normalize_eq (f : Filter) : f.normalize =
    ⟨Text.asciiFold f.field, Text.asciiFold (Text.trim f.operator), f.value,
      f.logic.map fun l => Text.asciiFold (Text.trim l), f.caseSensitive,
      f.filters.map normalize⟩ := by
  cases f
  rw [normalize, normalizeAll_eq]

theorem condition?_normalize (f : Filter) : f.normalize.condition?.toOption =
    f.condition?.toOption.map (Option.map Condition.foldField) := by
  have hc : f.normalize.hasComparison = f.hasComparison := by
    simp [hasComparison, normalize_eq]
  unfold condition? Operator.ofText
  rw [hc]
  cases f.hasComparison with
  | false => simp
  | true =>
    simp only [normalize_eq, Operator.ofText?_word, Text.trim_asciiFold]
    cases Operator.ofText? f.operator with
    | none => simp
    | some operator =>
      cases hr : operator.requiresValue <;> cases f.value <;> simp [hr, Condition.foldField]

end Filter

namespace Clause

theorem combine_foldFields (own : Option Condition) (logic : Option String) (cs : List Clause) :
    (combine (own.map Condition.foldField) (logic.map fun l => Text.asciiFold (Text.trim l))
      (cs.map foldFields)).toOption =
    (combine own logic cs).toOption.map (Option.map foldFields) := by
  cases own <;> cases cs <;>
    simp [combine, foldFields, Connective.ofLogic_word, Option.map_map, Function.comp_def]

/-- A filter and its normal form make clauses that differ in the case of field names. -/
theorem ofFilterIn?_normalize {f : Filter} : ∀ {room : Nat},
    (ofFilterIn? room f.normalize).toOption =
      (ofFilterIn? room f).toOption.map (Option.map foldFields) := by
  -- lists of children follow from their members
  have children : ∀ {room : Nat} {fs : List Filter},
      (∀ g ∈ fs, (ofFilterIn? room g.normalize).toOption =
        (ofFilterIn? room g).toOption.map (Option.map foldFields)) →
      (ofFiltersIn room (fs.map Filter.normalize)).toOption =
        (ofFiltersIn room fs).toOption.map (List.map foldFields) := by
    intro room fs h
    induction fs with
    | nil => rfl
    | cons g fs ih =>
      simp only [List.map_cons, ofFiltersIn, Except.toOption_bind, Except.toOption_pure,
        h g List.mem_cons_self, ih fun g hg => h g (List.mem_cons_of_mem _ hg)]
      cases (ofFilterIn? room g).toOption with
      | none => rfl
      | some c => cases (ofFiltersIn room fs).toOption <;> cases c <;> simp
  induction f using Filter.induction with
  | node f ih =>
    intro room
    cases room with
    | zero => cases f; rfl
    | succ room =>
      have hown := Filter.condition?_normalize f
      have hchildren : (ofFiltersIn room (f.filters.map Filter.normalize)).toOption =
          (ofFiltersIn room f.filters).toOption.map (List.map foldFields) :=
        children fun g hg => ih g hg
      cases f
      rw [Filter.normalize_eq] at hown ⊢
      simp only [ofFilterIn?, Except.toOption_bind, hown, hchildren, Option.bind_map,
        Function.comp_def, combine_foldFields, Option.map_bind]

end Clause

/-! ## Resolution -/

variable {α : Type} {s : Schema α}

theorem Schema.get?_asciiFold (name : String) : s.get? (Text.asciiFold name) = s.get? name := by
  simp only [get?, Text.sameIgnoringCase_fold_right]

theorem Schema.resolve_asciiFold (name : String) :
    (s.resolve (Text.asciiFold name)).toOption = (s.resolve name).toOption := by
  unfold resolve
  rw [get?_asciiFold]
  cases s.get? name <;> rfl

theorem Condition.operand_foldField (c : Condition) (kind : Kind) (raw : String) :
    (c.foldField.operand kind raw).toOption = (c.operand kind raw).toOption := by
  unfold operand
  cases Value.ofText? kind raw <;> rfl

/-- What a condition asks of a value does not depend on the name of the field. -/
theorem Test.ofCondition_foldField (kind : Kind) (c : Condition) :
    (ofCondition kind c.foldField).toOption = (ofCondition kind c).toOption := by
  have hoperator : c.foldField.operator = c.operator := rfl
  have hvalue : c.foldField.value = c.value := rfl
  have hneedle : c.foldField.needle = c.needle := rfl
  have hoperand := c.operand_foldField kind
  have hoperands (raws : List String) : (raws.mapM (c.foldField.operand kind)).toOption =
      (raws.mapM (c.operand kind)).toOption :=
    Except.toOption_mapM fun raw _ => hoperand raw
  unfold ofCondition
  simp only [hoperator, hvalue, hneedle]
  split_ifs with hfit
  · rfl
  · cases c.operator with
    | between =>
      dsimp only
      split
      · simp only [Except.toOption_bind, hoperand, Except.toOption_pure]
      · rfl
    | among => simp only [Except.toOption_map, hoperands]
    | _ => simp only [Except.toOption_map, Except.toOption_pure, hoperand]

namespace Formula

theorem ofCondition_foldField (c : Condition) :
    (ofCondition s c.foldField).toOption = (ofCondition s c).toOption := by
  have hfolds (kind : Kind) : c.foldField.foldsCase kind = c.foldsCase kind := rfl
  have hfield : c.foldField.field = Text.asciiFold c.field := rfl
  simp only [ofCondition, Except.toOption_bind, Except.toOption_pure, hfield, hfolds,
    Schema.resolve_asciiFold, Test.ofCondition_foldField]

/-- Resolution ignores the case of field names. -/
theorem ofClause_foldFields (c : Clause) :
    (ofClause s c.foldFields).toOption = (ofClause s c).toOption := by
  -- lists of clauses follow from their members
  have clauses {cs : List Clause}
      (h : ∀ c ∈ cs, (ofClause s c.foldFields).toOption = (ofClause s c).toOption) :
      (ofClauses s (cs.map Clause.foldFields)).toOption = (ofClauses s cs).toOption := by
    induction cs with
    | nil => rfl
    | cons c cs ih =>
      simp only [List.map_cons, ofClauses, Except.toOption_bind, Except.toOption_pure,
        h c List.mem_cons_self, ih fun c hc => h c (List.mem_cons_of_mem _ hc)]
  induction c using Clause.induction with
  | leaf c => simp only [Clause.foldFields, ofClause, ofCondition_foldField]
  | group l cs ih => simp only [Clause.foldFields, ofClause, Except.toOption_map, clauses ih]
  | both c l cs ih =>
    simp only [Clause.foldFields, ofClause, Except.toOption_bind, Except.toOption_pure,
      ofCondition_foldField, clauses ih]

end Formula

/-! ## Queries -/

theorem Predicate.ofFilter_normalize (f : Filter) :
    (ofFilter s f.normalize).toOption = (ofFilter s f).toOption := by
  simp only [ofFilter, Except.toOption_bind, Clause.ofFilter?, Clause.ofFilterIn?_normalize,
    Option.bind_map]
  refine Option.bind_congr fun c _ => ?_
  cases c with
  | none => rfl
  | some c =>
    simp only [Function.comp_apply, Option.map_some, Except.toOption_bind, Except.toOption_pure,
      Formula.ofClause_foldFields]

theorem Direction.ofKey_normalize (k : SortKey) :
    (ofKey k.normalize).toOption = (ofKey k).toOption := by
  unfold ofKey SortKey.normalize
  rw [ofText?_word]
  cases ofText? k.direction <;> rfl

theorem RowOrder.keyOf_normalize (k : SortKey) :
    (keyOf s k.normalize).toOption = (keyOf s k).toOption := by
  have hfield : Text.trim k.normalize.field = Text.asciiFold (Text.trim k.field) :=
    Text.trim_asciiFold k.field
  simp only [keyOf, Except.toOption_bind, Except.toOption_pure, hfield, Schema.resolve_asciiFold,
    Direction.ofKey_normalize]

theorem RowOrder.ofKeys_normalize (ks : List SortKey) :
    (ofKeys s (ks.map SortKey.normalize)).toOption = (ofKeys s ks).toOption := by
  have hkeys : ((ks.map SortKey.normalize).mapM (keyOf s)).toOption =
      (ks.mapM (keyOf s)).toOption := by
    rw [List.mapM_map]
    exact Except.toOption_mapM fun k _ => keyOf_normalize k
  rw [ofKeys, ofKeys, Except.toOption_map, Except.toOption_map, hkeys]

/-- A query and its normal form make the same plan. -/
theorem Plan.ofQuery_normalize (q : Query) :
    (ofQuery s q.normalize).toOption = (ofQuery s q).toOption := by
  obtain ⟨filter, sort⟩ := q
  cases filter <;>
    simp only [ofQuery, Query.normalize, Option.map_none, Option.map_some, Except.toOption_bind,
      Except.toOption_pure, Predicate.ofFilter_normalize, RowOrder.ofKeys_normalize]

end RecordQuery
