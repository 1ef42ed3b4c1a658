import RecordQuery.Proofs.Filter.Fitting
import RecordQuery.Proofs.Query.Cache

/-!
# What errors are about

A request can be refused for its text, for its shape, for what it says or for the page that it asks
for (`QueryError.Concern`), and each step on the way to an answer refuses it for one of these: a
reader for the text, limits for the shape and everything that makes a plan for what the query says.

Only one step could refuse a query for the shape a second time, as validation counts for itself how
deep a filter is nested. It does so for filters that are nested deeper than it has room for and for
no others (`Clause.ofFilterIn?_failsWith`).
-/

namespace RecordQuery

/-- What of a request is refused. -/
inductive QueryError.Concern where
  /-- The text that was submitted. -/
  | text
  /-- How deep the filter is nested and how many sort keys there are. -/
  | shape
  /-- What is compared and by what is sorted. -/
  | content
  /-- The page that is asked for. -/
  | page
  deriving DecidableEq

/-- What an error is about. -/
def QueryError.concern : QueryError → QueryError.Concern
  | .queryTooLarge _ | .invalidJson _ => .text
  | .filterTooDeep _ | .tooManySortKeys .. => .shape
  | .fieldNotFound .. | .unsupportedOperator _ | .incompatibleOperator .. | .invalidDirection ..
  | .invalidValue .. | .malformedOperand .. | .missingValue .. | .invalidLogic _ => .content
  | .invalidPage _ => .page

/-! ## Readers and limits -/

theorem Limits.checkSize_failsWith (l : Limits) (text : String) :
    (l.checkSize text).FailsWith (·.concern = .text) := by
  unfold checkSize
  split
  · exact Except.failsWith_throw rfl
  · exact Except.failsWith_pure ()

theorem Limits.checkDepth_failsWith (l : Limits) (depth : Nat) :
    (l.checkDepth depth).FailsWith (·.concern = .shape) := by
  unfold checkDepth
  split
  · exact Except.failsWith_throw rfl
  · exact Except.failsWith_pure ()

theorem Limits.check_failsWith (l : Limits) (q : Query) :
    (l.check q).FailsWith (·.concern = .shape) := by
  unfold check
  apply Except.FailsWith.bind (l.checkDepth_failsWith _)
  intro _ _
  split
  · exact Except.failsWith_throw rfl
  · exact Except.failsWith_pure ()

theorem QueryError.ofJsonText_failsWith {β : Type} (f : Json.Tree → Except Json.Fault β)
    (text : String) : (ofJsonText f text).FailsWith (·.concern = .text) := by
  apply Except.FailsWith.mapError
  intro fault _
  rfl

theorem Query.ofText_failsWith (l : Limits) (text : String) :
    (Query.ofText l text).FailsWith fun e => e.concern = .text ∨ e.concern = .shape := by
  apply Except.FailsWith.bind
  · exact (l.checkSize_failsWith text).mono fun _ => .inl
  intro _ _
  apply Except.FailsWith.bind
  · exact (QueryError.ofJsonText_failsWith _ text).mono fun _ => .inl
  intro q _
  apply Except.FailsWith.bind
  · exact (l.check_failsWith q).mono fun _ => .inr
  intro _ _
  exact Except.failsWith_pure q

theorem Filter.ofText_failsWith (l : Limits) (text : String) :
    (Filter.ofText l text).FailsWith fun e => e.concern = .text ∨ e.concern = .shape := by
  apply Except.FailsWith.bind
  · exact (l.checkSize_failsWith text).mono fun _ => .inl
  intro _ _
  apply Except.FailsWith.bind
  · exact (QueryError.ofJsonText_failsWith _ text).mono fun _ => .inl
  intro f _
  apply Except.FailsWith.bind
  · exact (l.checkDepth_failsWith f.depth).mono fun _ => .inr
  intro _ _
  exact Except.failsWith_pure f

/-! ## Validation -/

theorem Operator.ofText_failsWith (text : String) :
    (ofText text).FailsWith (·.concern = .content) := by
  unfold ofText
  cases ofText? text with
  | none => exact Except.failsWith_throw rfl
  | some operator => exact Except.failsWith_pure operator

theorem Filter.condition?_failsWith (f : Filter) :
    f.condition?.FailsWith (·.concern = .content) := by
  unfold condition?
  split
  · apply Except.FailsWith.bind (Operator.ofText_failsWith f.operator)
    intro operator _
    dsimp only
    split
    · exact Except.failsWith_throw rfl
    · exact Except.failsWith_pure _
  · exact Except.failsWith_pure none

theorem Connective.ofLogic_failsWith (logic : Option String) :
    (ofLogic logic).FailsWith (·.concern = .content) := by
  unfold ofLogic
  cases logic with
  | none => exact Except.failsWith_pure _
  | some l =>
    simp only [Option.map_some]
    split_ifs
    · exact Except.failsWith_pure _
    · exact Except.failsWith_pure _
    · exact Except.failsWith_pure _
    · exact Except.failsWith_throw rfl

namespace Clause

theorem combine_failsWith (own : Option Condition) (logic : Option String)
    (children : List Clause) : (combine own logic children).FailsWith (·.concern = .content) := by
  have hlogic := Connective.ofLogic_failsWith logic
  cases own with
  | none =>
    cases children with
    | nil => exact Except.failsWith_pure _
    | cons c cs => exact hlogic.bind fun _ _ => Except.failsWith_pure _
  | some own =>
    cases children with
    | nil => exact Except.failsWith_pure _
    | cons c cs => exact hlogic.bind fun _ _ => Except.failsWith_pure _

theorem ofFiltersIn_failsWith {P : QueryError → Prop} {room : Nat} {fs : List Filter}
    (h : ∀ f ∈ fs, (ofFilterIn? room f).FailsWith P) : (ofFiltersIn room fs).FailsWith P := by
  induction fs with
  | nil => exact Except.failsWith_pure []
  | cons f fs ih =>
    rw [ofFiltersIn]
    apply Except.FailsWith.bind (h f List.mem_cons_self)
    intro _ _
    apply Except.FailsWith.bind (ih fun g hg => h g (List.mem_cons_of_mem _ hg))
    intro _ _
    exact Except.failsWith_pure _

/-- Validation refuses a filter for what it says, or for its nesting if there is no room for it. -/
theorem ofFilterIn?_failsWith {f : Filter} : ∀ {room : Nat},
    (ofFilterIn? room f).FailsWith fun e =>
      e.concern = .content ∨ (e = .filterTooDeep maxFilterDepth ∧ room < f.depth) := by
  induction f using Filter.induction with
  | node f ih =>
    intro room
    obtain ⟨below, hdepth, hbelow⟩ := Filter.depth_le_iff.1 (Nat.le_refl f.depth)
    cases room with
    | zero =>
      cases f
      rw [ofFilterIn?]
      exact Except.failsWith_throw (.inr ⟨rfl, by omega⟩)
    | succ room =>
      have hchildren : (ofFiltersIn room f.filters).FailsWith fun e => e.concern = .content ∨
          (e = .filterTooDeep maxFilterDepth ∧ room + 1 < f.depth) := by
        apply ofFiltersIn_failsWith
        intro g hg
        -- a child that has no room is less deep than the node by one at least
        have hg' := hbelow g hg
        exact (ih g hg).mono fun e he => he.imp_right fun h => ⟨h.1, by omega⟩
      have hown := f.condition?_failsWith
      have hjoined := fun own => combine_failsWith own f.logic
      cases f
      rw [ofFilterIn?]
      apply Except.FailsWith.bind
      · exact hown.mono fun _ => .inl
      intro own _
      apply Except.FailsWith.bind hchildren
      intro children _
      exact (hjoined own children).mono fun _ => .inl

end Clause

/-! ## Resolution -/

variable {α : Type} (s : Schema α)

theorem Schema.resolve_failsWith (name : String) :
    (s.resolve name).FailsWith (·.concern = .content) := by
  unfold resolve
  cases s.get? name with
  | none => exact Except.failsWith_throw rfl
  | some field => exact Except.failsWith_pure field

theorem Condition.operand_failsWith (c : Condition) (kind : Kind) (raw : String) :
    (c.operand kind raw).FailsWith (·.concern = .content) := by
  unfold operand
  cases Value.ofText? kind raw with
  | none => exact Except.failsWith_throw rfl
  | some v => exact Except.failsWith_pure _

theorem Test.ofCondition_failsWith (kind : Kind) (c : Condition) :
    (ofCondition kind c).FailsWith (·.concern = .content) := by
  have hoperand := c.operand_failsWith kind
  unfold ofCondition
  split
  · exact Except.failsWith_throw rfl
  · cases c.operator with
    | eq | neq | lt | lte | gt | gte => exact (hoperand _).map
    | contains | startsWith | endsWith | isNull | isNotNull => exact Except.failsWith_pure _
    | among => exact (Except.FailsWith.mapM fun raw _ => hoperand raw).map
    | between =>
      dsimp only
      split
      · apply Except.FailsWith.bind (hoperand _)
        intro low _
        apply Except.FailsWith.bind (hoperand _)
        intro high _
        exact Except.failsWith_pure _
      · exact Except.failsWith_throw rfl

namespace Formula

theorem ofCondition_failsWith (c : Condition) :
    (ofCondition s c).FailsWith (·.concern = .content) := by
  apply Except.FailsWith.bind (s.resolve_failsWith c.field)
  intro field _
  apply Except.FailsWith.bind (Test.ofCondition_failsWith field.kind c)
  intro test _
  exact Except.failsWith_pure _

theorem ofClauses_failsWith {P : QueryError → Prop} {cs : List Clause}
    (h : ∀ c ∈ cs, (ofClause s c).FailsWith P) : (ofClauses s cs).FailsWith P := by
  induction cs with
  | nil => exact Except.failsWith_pure []
  | cons c cs ih =>
    rw [ofClauses]
    apply Except.FailsWith.bind (h c List.mem_cons_self)
    intro _ _
    apply Except.FailsWith.bind (ih fun d hd => h d (List.mem_cons_of_mem _ hd))
    intro _ _
    exact Except.failsWith_pure _

theorem ofClause_failsWith (c : Clause) : (ofClause s c).FailsWith (·.concern = .content) := by
  induction c using Clause.induction with
  | leaf c =>
    rw [ofClause]
    exact ofCondition_failsWith s c
  | group l cs ih =>
    rw [ofClause]
    exact (ofClauses_failsWith s ih).map
  | both own l cs ih =>
    rw [ofClause]
    apply Except.FailsWith.bind (ofCondition_failsWith s own)
    intro _ _
    apply Except.FailsWith.bind (ofClauses_failsWith s ih)
    intro _ _
    exact Except.failsWith_pure _

end Formula

/-! ## Plans -/

theorem Predicate.ofFilter_failsWith (f : Filter) : (ofFilter s f).FailsWith fun e =>
    e.concern = .content ∨ (e = .filterTooDeep maxFilterDepth ∧ maxFilterDepth < f.depth) := by
  apply Except.FailsWith.bind Clause.ofFilterIn?_failsWith
  intro c _
  cases c with
  | none => exact Except.failsWith_pure always
  | some c =>
    apply Except.FailsWith.bind
    · exact (Formula.ofClause_failsWith s c).mono fun _ => .inl
    intro φ _
    exact Except.failsWith_pure _

theorem Direction.ofKey_failsWith (key : SortKey) :
    (ofKey key).FailsWith (·.concern = .content) := by
  unfold ofKey
  cases ofText? key.direction with
  | none => exact Except.failsWith_throw rfl
  | some d => exact Except.failsWith_pure d

theorem RowOrder.keyOf_failsWith (key : SortKey) :
    (keyOf s key).FailsWith (·.concern = .content) := by
  apply Except.FailsWith.bind (s.resolve_failsWith _)
  intro field _
  apply Except.FailsWith.bind (Direction.ofKey_failsWith key)
  intro d _
  exact Except.failsWith_pure _

theorem RowOrder.ofKeys_failsWith (keys : List SortKey) :
    (ofKeys s keys).FailsWith (·.concern = .content) :=
  (Except.FailsWith.mapM fun key _ => keyOf_failsWith s key).map

/-- A query is refused for what it says, or for the nesting of its filter if that is deeper than any
limits can allow. -/
theorem Plan.ofQuery_failsWith (q : Query) : (ofQuery s q).FailsWith fun e =>
    e.concern = .content ∨ (e = .filterTooDeep maxFilterDepth ∧
      ∃ f, q.filter = some f ∧ maxFilterDepth < f.depth) := by
  obtain ⟨filter, sort⟩ := q
  have horder := RowOrder.ofKeys_failsWith s sort
  cases filter with
  | none =>
    show (Plan.mk Predicate.always <$> RowOrder.ofKeys s sort).FailsWith _
    exact (horder.mono fun _ => .inl).map
  | some f =>
    apply Except.FailsWith.bind
    · exact (Predicate.ofFilter_failsWith s f).mono fun e he =>
        he.imp_right fun h => ⟨h.1, f, rfl, h.2⟩
    · intro predicate _
      apply Except.FailsWith.bind
      · exact horder.mono fun _ => .inl
      intro order _
      exact Except.failsWith_pure _

/-- An engine refuses a query that is not within its limits or of which there is no plan. -/
theorem Engine.plan_failsWith (e : Engine α) (q : Query) : (e.plan q).1.FailsWith fun err =>
    e.limits.check q = .error err ∨ Plan.ofQuery e.schema q = .error err := by
  unfold plan
  cases e.limits.check q with
  | error err => exact Except.failsWith_throw (.inl rfl)
  | ok _ =>
    dsimp only
    split
    · exact Except.failsWith_pure _
    · split
      · rename_i err hmake
        apply Except.failsWith_throw
        right
        rw [← outcome_make, hmake]
        rfl
      · exact Except.failsWith_pure _

end RecordQuery
