import RecordQuery.Proofs.Filter.Nodes
import RecordQuery.Proofs.Value.Reading

/-!
# Which filters fit a schema

Making a filter ready succeeds on exactly the filters that `Predicate.ofFilter_succeeds_iff`
describes, node by node: they are nested at most 64 deep, every comparison names an operator and a
field and has operands that the field's kind can read (`Filter.OwnFits`), and every node with
something to combine has a logic that is known.

Both passes stop at the first fault. Validation fails on a node for its nesting, its operator, a
missing operand or its logic (`Clause.ofFilterIn?_succeeds_iff`); resolution fails on a comparison
for its field or its operands (`Formula.ofClause_succeeds_iff`). That nothing else fails, and that
neither pass skips a node, is what the two directions of these statements say.
-/

namespace RecordQuery

variable {α : Type}

/-! ## Comparisons that fit -/

/-- What an operator asks of the kind of the field and of the text of the operand. -/
def Operator.Fits (kind : Kind) (raw : String) : Operator → Prop
  | .isNull | .isNotNull => True
  | .contains | .startsWith | .endsWith => kind = .text
  | .eq | .neq | .lt | .lte | .gt | .gte => Value.Readable kind raw
  | .among => ∀ part ∈ Condition.segments raw, Value.Readable kind part
  | .between => ∃ low high, Condition.segments raw = [low, high] ∧
      Value.Readable kind low ∧ Value.Readable kind high

/-- A comparison names a field of the schema, and its operator fits that field. -/
def Condition.Fits (s : Schema α) (c : Condition) : Prop :=
  ∃ field, s.get? c.field = some field ∧ c.operator.Fits field.kind (c.value.getD "")

/-- The comparison of a node has a known operator, a field of the schema and, unless it only asks
whether the field is missing, an operand that the operator can take. -/
def Filter.OwnFits (s : Schema α) (f : Filter) : Prop :=
  ∃ operator field, Operator.ofText? f.operator = some operator ∧
    s.get? (Text.trim f.field) = some field ∧
    (operator = .isNull ∨ operator = .isNotNull ∨
      ∃ raw, f.value = some raw ∧ operator.Fits field.kind raw)

/-- The node has nothing to combine, or its logic is known. -/
def Filter.LogicFits (f : Filter) : Prop :=
  (∃ g ∈ f.filters, ¬ g.Neutral) → f.JoinsByAnd ∨ f.JoinsByOr

/-! ## Resolution -/

theorem Condition.operand_succeeds_iff {c : Condition} {kind : Kind} {raw : String} :
    (∃ w, c.operand kind raw = .ok w) ↔ Value.Readable kind raw := by
  unfold operand Value.Readable
  cases Value.ofText? kind raw <;> simp

theorem Condition.operands_succeed_iff {c : Condition} {kind : Kind} {raws : List String} :
    (∃ ws, raws.mapM (c.operand kind) = .ok ws) ↔ ∀ raw ∈ raws, Value.Readable kind raw := by
  rw [Except.mapM_succeeds_iff]
  exact forall₂_congr fun raw _ => operand_succeeds_iff

/-- A test can be made of a condition exactly where its operator fits the field. -/
theorem Test.ofCondition_succeeds_iff {kind : Kind} {c : Condition} :
    (∃ t, Test.ofCondition kind c = .ok t) ↔ c.operator.Fits kind (c.value.getD "") := by
  unfold Test.ofCondition
  cases ho : c.operator with
  | eq | neq | lt | lte | gt | gte =>
    exact Except.map_succeeds_iff.trans Condition.operand_succeeds_iff
  | contains | startsWith | endsWith =>
    by_cases hk : kind = .text <;> simp [Operator.isTextOnly, Operator.Fits, hk]
  | isNull | isNotNull => simp [Operator.isTextOnly, Operator.Fits]
  | among => exact Except.map_succeeds_iff.trans Condition.operands_succeed_iff
  | between =>
    simp only [Operator.isTextOnly, Bool.false_and, Bool.false_eq_true, if_false, Operator.Fits,
      ← Condition.operand_succeeds_iff (c := c)]
    split
    · next low high hparts =>
      simp only [Except.bind_eq_ok, Except.pure_eq_ok]
      constructor
      · rintro ⟨_, lower, hlower, upper, hupper, -⟩
        exact ⟨low, high, hparts, ⟨lower, hlower⟩, ⟨upper, hupper⟩⟩
      · rintro ⟨low', high', hparts', ⟨lower, hlower⟩, ⟨upper, hupper⟩⟩
        obtain ⟨rfl, rfl⟩ : low = low' ∧ high = high' := by simpa [hparts] using hparts'
        exact ⟨_, lower, hlower, upper, hupper, rfl⟩
    · next hparts =>
      simp only [Except.throw_eq_ok, exists_false, false_iff]
      rintro ⟨low, high, h, -⟩
      exact hparts low high h

theorem Formula.ofCondition_succeeds_iff {s : Schema α} {c : Condition} :
    (∃ φ, Formula.ofCondition s c = .ok φ) ↔ c.Fits s := by
  simp only [ofCondition_eq_ok, Condition.Fits, ← Test.ofCondition_succeeds_iff]
  constructor
  · rintro ⟨_, field, test, hfield, htest, -⟩
    exact ⟨field, hfield, test, htest⟩
  · rintro ⟨field, hfield, test, htest⟩
    exact ⟨_, field, test, hfield, htest, rfl⟩

theorem Formula.ofClauses_succeeds_iff {s : Schema α} {cs : List Clause} :
    (∃ φs, ofClauses s cs = .ok φs) ↔ ∀ c ∈ cs, ∃ φ, ofClause s c = .ok φ := by
  induction cs with
  | nil => simp [ofClauses]
  | cons c cs ih =>
    rw [List.forall_mem_cons, ← ih]
    simp [ofClauses]

/-- A clause is resolved exactly where all its comparisons fit. -/
theorem Formula.ofClause_succeeds_iff {s : Schema α} {c : Clause} :
    (∃ φ, ofClause s c = .ok φ) ↔ ∀ d ∈ c.conditions, d.Fits s := by
  have children : ∀ {cs : List Clause},
      (∀ c ∈ cs, (∃ φ, ofClause s c = .ok φ) ↔ ∀ d ∈ c.conditions, d.Fits s) →
      ((∃ φs, ofClauses s cs = .ok φs) ↔ ∀ d ∈ Clause.conditionsOfAll cs, d.Fits s) := by
    intro cs ih
    rw [ofClauses_succeeds_iff, Clause.conditionsOfAll_eq, List.forall_mem_flatMap]
    exact forall₂_congr ih
  induction c using Clause.induction with
  | leaf c => simp [ofClause, Clause.conditions, ofCondition_succeeds_iff]
  | group l cs ih =>
    rw [Clause.conditions, ← children ih]
    simp [ofClause]
  | both own l cs ih =>
    rw [Clause.conditions, List.forall_mem_cons, ← children ih, ← ofCondition_succeeds_iff]
    simp [ofClause]

/-! ## Validation -/

/-- The comparison of a node has a known operator and the operand that the operator needs. -/
def Filter.OwnStands (f : Filter) : Prop :=
  ∃ operator, Operator.ofText? f.operator = some operator ∧
    (operator.requiresValue = true → f.value.isSome = true)

theorem Filter.condition?_succeeds_iff {f : Filter} :
    (∃ own, f.condition? = .ok own) ↔ (f.Compares → f.OwnStands) := by
  simp only [condition?_eq_ok, ← hasComparison_iff, OwnStands]
  cases f.hasComparison with
  | false => simp
  | true =>
    simp only [Bool.true_eq_false, false_and, true_and, false_or, forall_const]
    constructor
    · rintro ⟨_, operator, ho, hv, -⟩
      exact ⟨operator, ho, hv⟩
    · rintro ⟨operator, ho, hv⟩
      exact ⟨_, operator, ho, hv, rfl⟩

theorem Connective.ofLogic_succeeds_iff {f : Filter} :
    (∃ l, ofLogic f.logic = .ok l) ↔ f.JoinsByAnd ∨ f.JoinsByOr := by
  rw [← ofLogic_eq_and, ← ofLogic_eq_or]
  constructor
  · rintro ⟨_ | _, h⟩
    · exact .inl h
    · exact .inr h
  · rintro (h | h) <;> exact ⟨_, h⟩

namespace Clause

theorem combine_succeeds_iff {own : Option Condition} {logic : Option String}
    {children : List Clause} : (∃ c, combine own logic children = .ok c) ↔
      (children ≠ [] → ∃ l, Connective.ofLogic logic = .ok l) := by
  simp only [combine_eq_ok]
  by_cases hc : children = []
  · simp [hc]
  · simp only [hc, false_and, not_false_eq_true, true_and, false_or, ne_eq, forall_const]
    constructor
    · rintro ⟨_, l, hl, -⟩
      exact ⟨l, hl⟩
    · rintro ⟨l, hl⟩
      exact ⟨_, l, hl, rfl⟩

theorem ofFiltersIn_succeeds_iff {room : Nat} {fs : List Filter} :
    (∃ cs, ofFiltersIn room fs = .ok cs) ↔ ∀ f ∈ fs, ∃ c, ofFilterIn? room f = .ok c := by
  induction fs with
  | nil => simp [ofFiltersIn]
  | cons f fs ih =>
    rw [List.forall_mem_cons, ← ih]
    simp [ofFiltersIn]

/-- A node has something to combine exactly where its children leave clauses. -/
theorem logicFits_iff {inner : Nat} {f : Filter} {children : List Clause}
    (h : ofFiltersIn inner f.filters = .ok children) :
    f.LogicFits ↔ (children ≠ [] → ∃ l, Connective.ofLogic f.logic = .ok l) := by
  have hnil := ofFiltersIn_nil h fun g _ => ofFilterIn?_none
  have hsome : children ≠ [] ↔ ∃ g ∈ f.filters, ¬ g.Neutral := by simp [hnil]
  rw [hsome, Connective.ofLogic_succeeds_iff, Filter.LogicFits]

/-- A filter is validated exactly where it is not nested too deep and all its nodes are in order:
their comparisons stand and, where they have something to combine, their logic is known. -/
theorem ofFilterIn?_succeeds_iff {f : Filter} : ∀ {room : Nat},
    (∃ c, ofFilterIn? room f = .ok c) ↔
      f.depth ≤ room ∧ ∀ g ∈ f.nodes, (g.Compares → g.OwnStands) ∧ g.LogicFits := by
  induction f using Filter.induction with
  | node f ih =>
    intro room
    rw [Filter.forall_mem_nodes, Filter.depth_le_iff]
    constructor
    · rintro ⟨c, hc⟩
      obtain ⟨inner, own, children, rfl, hown, hchildren, hcombined⟩ := ofFilterIn?_eq_ok.1 hc
      have hbelow := fun g hg => (ih g hg).1 (ofFiltersIn_succeeds_iff.1 ⟨_, hchildren⟩ g hg)
      refine ⟨⟨inner, rfl, fun g hg => (hbelow g hg).1⟩,
        ⟨Filter.condition?_succeeds_iff.1 ⟨_, hown⟩, ?_⟩, fun g hg => (hbelow g hg).2⟩
      exact (logicFits_iff hchildren).2 (combine_succeeds_iff.1 ⟨_, hcombined⟩)
    · rintro ⟨⟨inner, rfl, hdepth⟩, ⟨hown, hfits⟩, hbelow⟩
      obtain ⟨own, hown⟩ := Filter.condition?_succeeds_iff.2 hown
      obtain ⟨children, hchildren⟩ := ofFiltersIn_succeeds_iff.2 fun g hg =>
        (ih g hg).2 ⟨hdepth g hg, hbelow g hg⟩
      obtain ⟨c, hc⟩ : ∃ c, combine own f.logic children = .ok c :=
        combine_succeeds_iff.2 ((logicFits_iff hchildren).1 hfits)
      exact ⟨c, ofFilterIn?_eq_ok.2 ⟨inner, own, children, rfl, hown, hchildren, hc⟩⟩

end Clause

/-! ## Both passes -/

/-- Of a node, the faults that validation finds and those that resolution finds are all. -/
theorem Filter.ownFits_iff {s : Schema α} {f : Filter} (hf : f.Compares) :
    f.OwnFits s ↔ f.OwnStands ∧ ∀ c, f.ownCondition? = some c → c.Fits s := by
  simp only [ownCondition?_eq_some]
  constructor
  · rintro ⟨operator, field, ho, hfield, hfits⟩
    refine ⟨⟨operator, ho, fun hr => ?_⟩, ?_⟩
    · rcases hfits with rfl | rfl | ⟨raw, hraw, -⟩
      · cases hr
      · cases hr
      · simp [hraw]
    · rintro c ⟨-, operator', ho', rfl⟩
      obtain rfl : operator = operator' := Option.some.inj (ho.symm.trans ho')
      refine ⟨field, hfield, ?_⟩
      rcases hfits with rfl | rfl | ⟨raw, hraw, hfits⟩
      · trivial
      · trivial
      · simpa [hraw] using hfits
  · rintro ⟨⟨operator, ho, hvalue⟩, hfits⟩
    obtain ⟨field, hfield, hop⟩ := hfits _ ⟨hf, operator, ho, rfl⟩
    refine ⟨operator, field, ho, hfield, ?_⟩
    by_cases hr : operator.requiresValue = true
    · obtain ⟨raw, hraw⟩ := Option.isSome_iff_exists.1 (hvalue hr)
      exact .inr (.inr ⟨raw, hraw, by simpa [hraw] using hop⟩)
    · cases operator <;> simp_all [Operator.requiresValue]

/-- A validated filter is made ready exactly where the comparisons of all its nodes fit. -/
theorem Predicate.ofFilter_validated_iff {s : Schema α} {f : Filter} {c : Option Clause}
    (hc : Clause.ofFilter? f = .ok c) : (∃ p, Predicate.ofFilter s f = .ok p) ↔
      ∀ g ∈ f.nodes, ∀ d, g.ownCondition? = some d → d.Fits s := by
  rw [← List.forall_mem_filterMap, ← Clause.conditions_of_ofFilterIn? hc]
  simp only [ofFilter_eq_ok, hc, Except.ok.injEq]
  cases c with
  | none => simp
  | some c => simp [← Formula.ofClause_succeeds_iff]

/-- A filter is made ready for a schema exactly if it is nested at most 64 deep, every node that
compares something does so with an operator, a field and an operand that fit, and every node with
a child that is not neutral has no logic, a blank one, `and` or `or`. -/
theorem Predicate.ofFilter_succeeds_iff {s : Schema α} {f : Filter} :
    (∃ p, Predicate.ofFilter s f = .ok p) ↔ f.depth ≤ 64 ∧ ∀ g ∈ f.nodes,
      (g.Compares → g.OwnFits s) ∧
      ((∃ h ∈ g.filters, ¬ h.Neutral) → g.JoinsByAnd ∨ g.JoinsByOr) := by
  have hvalid : (∃ c, Clause.ofFilter? f = .ok c) ↔ f.depth ≤ maxFilterDepth ∧
      ∀ g ∈ f.nodes, (g.Compares → g.OwnStands) ∧ g.LogicFits :=
    Clause.ofFilterIn?_succeeds_iff
  constructor
  · rintro ⟨p, hp⟩
    obtain ⟨c, hc⟩ : ∃ c, Clause.ofFilter? f = .ok c := by
      rcases ofFilter_eq_ok.1 hp with ⟨hc, -⟩ | ⟨c, -, hc, -⟩
      · exact ⟨_, hc⟩
      · exact ⟨_, hc⟩
    obtain ⟨hdepth, hnodes⟩ := hvalid.1 ⟨c, hc⟩
    have hfits := (ofFilter_validated_iff hc).1 ⟨p, hp⟩
    refine ⟨hdepth, fun g hg => ⟨fun hcompares => ?_, (hnodes g hg).2⟩⟩
    exact (Filter.ownFits_iff hcompares).2 ⟨(hnodes g hg).1 hcompares, hfits g hg⟩
  · rintro ⟨hdepth, hnodes⟩
    obtain ⟨c, hc⟩ := hvalid.2 ⟨hdepth, fun g hg => ⟨fun hcompares =>
      ((Filter.ownFits_iff hcompares).1 ((hnodes g hg).1 hcompares)).1, (hnodes g hg).2⟩⟩
    refine (ofFilter_validated_iff hc).2 fun g hg d hd => ?_
    have hcompares := (Filter.ownCondition?_eq_some.1 hd).1
    exact ((Filter.ownFits_iff hcompares).1 ((hnodes g hg).1 hcompares)).2 d hd

end RecordQuery
