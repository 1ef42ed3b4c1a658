import RecordQuery.Proofs.Filter.Fitting

/-!
# Validated filters are well formed

Whatever is submitted, what validation makes of it is in order (`Clause.ofFilter?_wellFormed`): no
connective stands without clauses below it, every comparison has a field and the operand that its
operator needs, and the comparisons are those of the submitted nodes, one for one and in the same
order. So what stands in for an operand that is absent has no influence on a test, and no formula has
a connective without parts.

`Clause.WellFormed` is the invariant. One node keeps it, as a connective is written only where clauses
are left to combine (`Clause.wellFormed_of_combine`), and a filter does by induction on its nodes.
-/

namespace RecordQuery

/-- A comparison has a field without blanks around it, and an operand if its operator needs one. -/
structure Condition.WellFormed (c : Condition) : Prop where
  field_ne : c.field ≠ ""
  trim_field : Text.trim c.field = c.field
  value : c.operator.requiresValue = true → c.value.isSome = true

/-- All comparisons are well formed, and every connective has clauses to combine. -/
inductive Clause.WellFormed : Clause → Prop
  | leaf {c : Condition} (own : c.WellFormed) : WellFormed (.leaf c)
  | group {l : Connective} {cs : List Clause} (nonempty : cs ≠ [])
      (children : ∀ c ∈ cs, WellFormed c) : WellFormed (.group l cs)
  | both {d : Condition} {l : Connective} {cs : List Clause} (own : d.WellFormed)
      (nonempty : cs ≠ []) (children : ∀ c ∈ cs, WellFormed c) : WellFormed (.both d l cs)

/-- Every connective has parts. -/
inductive Formula.WellFormed {α : Type} : Formula α → Prop
  | compare (c : Comparison α) : WellFormed (.compare c)
  | all {φs : List (Formula α)} (nonempty : φs ≠ []) (parts : ∀ φ ∈ φs, WellFormed φ) :
      WellFormed (.all φs)
  | any {φs : List (Formula α)} (nonempty : φs ≠ []) (parts : ∀ φ ∈ φs, WellFormed φ) :
      WellFormed (.any φs)

/-- What is compared is what the node says, its operator being the one that its word stands for. -/
structure Filter.States (f : Filter) (c : Condition) : Prop where
  field : c.field = Text.trim f.field
  operator : Operator.ofText? f.operator = some c.operator
  value : c.value = f.value
  caseSensitive : c.caseSensitive = f.caseSensitive

/-! ## Comparisons -/

theorem Filter.wellFormed_of_condition? {f : Filter} {c : Condition}
    (h : f.condition? = .ok (some c)) : c.WellFormed := by
  rcases condition?_eq_ok.1 h with ⟨-, hnone⟩ | ⟨hcompares, operator, -, hvalue, hc⟩
  · cases hnone
  · cases hc
    exact ⟨(hasComparison_iff.1 hcompares).1, Text.trim_trim f.field, hvalue⟩

theorem Filter.states_of_ownCondition? {f : Filter} {c : Condition}
    (h : f.ownCondition? = some c) : f.States c := by
  obtain ⟨-, operator, hoperator, rfl⟩ := ownCondition?_eq_some.1 h
  exact ⟨rfl, hoperator, rfl, rfl⟩

/-- Only operators that look at no operand come without one. -/
theorem Condition.WellFormed.ofCondition_of_value {c : Condition} (h : c.WellFormed)
    (hvalue : c.value = none) (kind : Kind) (raw : String) :
    Test.ofCondition kind { c with value := some raw } = Test.ofCondition kind c := by
  have hfree : c.operator.requiresValue = false := by
    rw [← Bool.not_eq_true]
    intro hrequires
    have hsome := h.value hrequires
    rw [hvalue] at hsome
    cases hsome
  obtain ⟨field, operator, value, caseSensitive⟩ := c
  cases operator with
  | isNull | isNotNull => rfl
  | eq | neq | lt | lte | gt | gte | contains | startsWith | endsWith | among | between =>
    cases hfree

namespace Clause

/-! ## Clauses -/

theorem maxDepth_le_iff {cs : List Clause} {n : Nat} : maxDepth cs ≤ n ↔ ∀ c ∈ cs, c.depth ≤ n := by
  induction cs with
  | nil => simp [maxDepth]
  | cons c cs ih => rw [maxDepth, Nat.max_le, ih, List.forall_mem_cons]

theorem WellFormed.of_mem_conditions {c : Clause} (h : c.WellFormed) {d : Condition}
    (hd : d ∈ c.conditions) : d.WellFormed := by
  induction h with
  | leaf own =>
    rw [conditions, List.mem_singleton] at hd
    exact hd ▸ own
  | group _ _ ih =>
    rw [conditions, conditionsOfAll_eq, List.mem_flatMap] at hd
    obtain ⟨c, hc, hd⟩ := hd
    exact ih c hc hd
  | both own _ _ ih =>
    rw [conditions, conditionsOfAll_eq, List.mem_cons, List.mem_flatMap] at hd
    rcases hd with rfl | ⟨c, hc, hd⟩
    · exact own
    · exact ih c hc hd

/-- What is put together of a comparison and of clauses in order is in order. -/
theorem wellFormed_of_combine {own : Option Condition} {logic : Option String}
    {children : List Clause} {c : Clause} (h : combine own logic children = .ok (some c))
    (hown : ∀ d, own = some d → d.WellFormed) (hchildren : ∀ d ∈ children, d.WellFormed) :
    c.WellFormed := by
  rcases combine_eq_ok.1 h with ⟨-, hleaf⟩ | ⟨hne, l, -, hjoined⟩
  · cases own with
    | none => cases hleaf
    | some d =>
      cases hleaf
      exact .leaf (hown d rfl)
  · cases own with
    | none =>
      cases hjoined
      exact .group hne hchildren
    | some d =>
      cases hjoined
      exact .both (hown d rfl) hne hchildren

theorem depth_of_combine {own : Option Condition} {logic : Option String} {children : List Clause}
    {c : Clause} (h : combine own logic children = .ok (some c)) {n : Nat}
    (hchildren : ∀ d ∈ children, d.depth ≤ n) : c.depth ≤ n + 1 := by
  have hmax := maxDepth_le_iff.2 hchildren
  rcases combine_eq_ok.1 h with ⟨-, hleaf⟩ | ⟨-, l, -, hjoined⟩
  · cases own with
    | none => cases hleaf
    | some d =>
      cases hleaf
      rw [depth]
      omega
  · cases own with
    | none =>
      cases hjoined
      simp only [Option.elim, depth]
      omega
    | some d =>
      cases hjoined
      simp only [Option.elim, depth]
      omega

/-- The clause of a filter is well formed and nested no deeper than the filter. -/
theorem ofFilterIn?_wellFormed {f : Filter} : ∀ {room : Nat} {c : Clause},
    ofFilterIn? room f = .ok (some c) → c.WellFormed ∧ c.depth ≤ f.depth := by
  induction f using Filter.induction with
  | node f ih =>
    intro room c h
    obtain ⟨inner, own, children, rfl, hown, hchildren, hc⟩ := ofFilterIn?_eq_ok.1 h
    obtain ⟨below, hdepth, hbelow⟩ := Filter.depth_le_iff.1 (Nat.le_refl f.depth)
    -- every clause that is left is that of a child
    have hleft : ∀ d ∈ children, d.WellFormed ∧ d.depth ≤ below := by
      intro d hd
      obtain ⟨g, hg, hgd⟩ := ((mem_ofFiltersIn hchildren).2 d).1 hd
      obtain ⟨hwell, hle⟩ := ih g hg hgd
      exact ⟨hwell, Nat.le_trans hle (hbelow g hg)⟩
    constructor
    · apply wellFormed_of_combine hc
      · intro d hd
        apply Filter.wellFormed_of_condition? (f := f)
        rw [hown, hd]
      · intro d hd
        exact (hleft d hd).1
    · rw [hdepth]
      apply depth_of_combine hc
      intro d hd
      exact (hleft d hd).2

end Clause

/-! ## The nodes that are left -/

/-- A filter is neutral if none of its nodes compares anything. -/
theorem Filter.neutral_iff {f : Filter} :
    f.Neutral ↔ ∀ g ∈ f.nodes, g.hasComparison = false := by
  induction f using Filter.induction with
  | node f ih =>
    rw [Neutral, forall_mem_nodes, ← hasComparison_iff, Bool.not_eq_true]
    constructor
    · intro h
      exact ⟨h.1, fun g hg => (ih g hg).1 (h.2 g hg)⟩
    · intro h
      exact ⟨h.1, fun g hg => (ih g hg).2 (h.2 g hg)⟩

/-- Of nodes whose comparisons stand, those that compare something state what is collected. -/
theorem Filter.forall₂_states {gs : List Filter}
    (h : ∀ g ∈ gs, g.Compares → g.OwnStands) :
    List.Forall₂ States (gs.filter hasComparison) (gs.filterMap ownCondition?) := by
  induction gs with
  | nil => exact .nil
  | cons g gs ih =>
    have hrest := ih fun g' hg' => h g' (List.mem_cons_of_mem _ hg')
    cases hg : g.hasComparison with
    | false =>
      have hnone : g.ownCondition? = none := by simp [ownCondition?, hg]
      rw [List.filter_cons_of_neg (by simp [hg]), List.filterMap_cons_none hnone]
      exact hrest
    | true =>
      obtain ⟨operator, hoperator, -⟩ := h g List.mem_cons_self (hasComparison_iff.1 hg)
      obtain ⟨d, hd⟩ : ∃ d, g.ownCondition? = some d :=
        ⟨_, ownCondition?_eq_some.2 ⟨hasComparison_iff.1 hg, operator, hoperator, rfl⟩⟩
      rw [List.filter_cons_of_pos hg, List.filterMap_cons_some hd]
      exact .cons (states_of_ownCondition? hd) hrest

/-- The comparisons of a clause are those of the submitted nodes, one for one and in order. -/
theorem Clause.forall₂_conditions {f : Filter} {c : Clause} (h : ofFilter? f = .ok (some c)) :
    List.Forall₂ Filter.States (f.nodes.filter Filter.hasComparison) c.conditions := by
  have hstand := (ofFilterIn?_succeeds_iff.1 ⟨_, h⟩).2
  have hconditions : c.conditions = f.nodes.filterMap Filter.ownCondition? := by
    rw [← conditions_of_ofFilterIn? h]
    simp
  rw [hconditions]
  apply Filter.forall₂_states
  intro g hg
  exact (hstand g hg).1

/-! ## Formulas -/

namespace Formula

variable {α : Type} {s : Schema α}

theorem wellFormed_of_ofClauses {cs : List Clause} {φs : List (Formula α)}
    (h : ofClauses s cs = .ok φs) (hne : cs ≠ [])
    (ih : ∀ c ∈ cs, ∀ {φ : Formula α}, ofClause s c = .ok φ → φ.WellFormed) :
    φs ≠ [] ∧ ∀ φ ∈ φs, φ.WellFormed := by
  rw [ofClauses_eq_ok] at h
  constructor
  · rintro rfl
    cases h
    exact hne rfl
  · clear hne
    induction h with
    | nil => simp
    | cons hφ _ ihs =>
      rw [List.forall_mem_cons]
      exact ⟨ih _ List.mem_cons_self hφ, ihs fun c hc => ih c (List.mem_cons_of_mem _ hc)⟩

theorem wellFormed_combine {l : Connective} {φs : List (Formula α)}
    (h : φs ≠ [] ∧ ∀ φ ∈ φs, φ.WellFormed) : (combine l φs).WellFormed := by
  cases l with
  | and => exact .all h.1 h.2
  | or => exact .any h.1 h.2

/-- The formula of a well-formed clause has parts below every connective. -/
theorem wellFormed_of_ofClause {c : Clause} (hc : c.WellFormed) :
    ∀ {φ : Formula α}, ofClause s c = .ok φ → φ.WellFormed := by
  induction hc with
  | leaf own =>
    intro φ h
    rw [ofClause] at h
    obtain ⟨field, test, -, -, rfl⟩ := ofCondition_eq_ok.1 h
    exact .compare _
  | group hne _ ih =>
    intro φ h
    simp only [ofClause, Except.map_eq_ok] at h
    obtain ⟨φs, hφs, rfl⟩ := h
    exact wellFormed_combine (wellFormed_of_ofClauses hφs hne ih)
  | @both d l cs own hne _ ih =>
    intro φ h
    simp only [ofClause, Except.bind_eq_ok, Except.pure_eq_ok] at h
    obtain ⟨o, ho, φs, hφs, rfl⟩ := h
    obtain ⟨field, test, -, -, rfl⟩ := ofCondition_eq_ok.1 ho
    have hrest : (combine l φs).WellFormed :=
      wellFormed_combine (wellFormed_of_ofClauses hφs hne ih)
    refine .all (List.cons_ne_nil _ _) fun φ hφ => ?_
    rcases List.mem_pair.1 hφ with rfl | rfl
    · exact .compare _
    · exact hrest

end Formula

/-! ## Validation -/

/-- The clause of a filter is well formed, is nested as deep as the filter at most and has the
comparisons of the nodes of the filter in their order; and only a filter without comparisons has
none. Hence it does not matter what stands in for an operand that is absent, and the formula of the
clause has parts below every connective. -/
theorem Clause.ofFilter?_wellFormed (f : Filter) :
    (∀ c, ofFilter? f = .ok (some c) →
      c.WellFormed ∧ c.depth ≤ min 64 f.depth ∧
      List.Forall₂ Filter.States (f.nodes.filter Filter.hasComparison) c.conditions ∧
      (∀ d ∈ c.conditions, d.value = none → ∀ kind raw,
        Test.ofCondition kind { d with value := some raw } = Test.ofCondition kind d) ∧
      ∀ {α : Type} (s : Schema α) (φ : Formula α), Formula.ofClause s c = .ok φ → φ.WellFormed) ∧
    (ofFilter? f = .ok none → ∀ g ∈ f.nodes, g.hasComparison = false) := by
  constructor
  · intro c h
    obtain ⟨hwell, hdepth⟩ := ofFilterIn?_wellFormed h
    have hroom : f.depth ≤ 64 := (ofFilterIn?_succeeds_iff.1 ⟨_, h⟩).1
    refine ⟨hwell, by omega, forall₂_conditions h, ?_, ?_⟩
    · intro d hd hvalue kind raw
      exact (hwell.of_mem_conditions hd).ofCondition_of_value hvalue kind raw
    · intro α s φ hφ
      exact Formula.wellFormed_of_ofClause hwell hφ
  · intro h
    exact Filter.neutral_iff.1 ((ofFilterIn?_none h).1 rfl)

/-- The comparisons on age, name and score are left, two deep; the neutral node is not. -/
theorem Clause.ofFilter?_wellFormed_sampleFilter :
    ∃ c, ofFilter? sampleFilter = .ok (some c) ∧ c.WellFormed ∧ c.depth ≤ 2 ∧
      List.Forall₂ Filter.States (sampleFilter.nodes.filter Filter.hasComparison) c.conditions ∧
      c.conditions.map Condition.field = ["Age", "name", "score"] := by
  obtain ⟨hwell, hdepth, hstates, -⟩ := (ofFilter?_wellFormed sampleFilter).1 _ rfl
  exact ⟨_, rfl, hwell, hdepth, hstates, rfl⟩

end RecordQuery
