import RecordQuery.Proofs.Except
import RecordQuery.Proofs.Schema.Names
import RecordQuery.Query.Predicate

/-!
# Trees of filters, clauses and formulas

The induction principles of the three trees, in which the hypothesis speaks about the members of the
list of children, and for each pass over them what it takes to succeed: `Clause.ofFilterIn?_eq_ok`
and `Clause.mem_ofFiltersIn` for validation, `Formula.ofClauses_eq_ok` for resolution. Later proofs
about the passes rest on these and do not open their definitions.
-/

namespace RecordQuery

@[elab_as_elim]
theorem Filter.induction {P : Filter → Prop} (node : ∀ f, (∀ g ∈ f.filters, P g) → P f)
    (f : Filter) : P f :=
  node f fun g _ => Filter.induction node g
termination_by f
decreasing_by
  have := List.sizeOf_lt_of_mem ‹_ ∈ _›
  cases f; simp at *; omega

@[elab_as_elim]
theorem Clause.induction {P : Clause → Prop} (leaf : ∀ c, P (.leaf c))
    (group : ∀ l cs, (∀ c ∈ cs, P c) → P (.group l cs))
    (both : ∀ c l cs, (∀ c ∈ cs, P c) → P (.both c l cs)) : ∀ c, P c
  | .leaf c => leaf c
  | .group l cs => group l cs fun c _ => Clause.induction leaf group both c
  | .both c l cs => both c l cs fun c _ => Clause.induction leaf group both c

/-! ## Validation -/

/-- A node's own comparison is in order if its operator is known and has the operand it needs. -/
theorem Filter.condition?_eq_ok {f : Filter} {own : Option Condition} :
    f.condition? = .ok own ↔ (f.hasComparison = false ∧ own = none) ∨
      (f.hasComparison = true ∧ ∃ operator, Operator.ofText? f.operator = some operator ∧
        (operator.requiresValue = true → f.value.isSome = true) ∧
        own = some ⟨Text.trim f.field, operator, f.value, f.caseSensitive⟩) := by
  unfold Filter.condition? Operator.ofText
  cases hc : f.hasComparison with
  | false => simp [eq_comm (a := own)]
  | true =>
    cases ho : Operator.ofText? f.operator with
    | none => simp
    | some operator =>
      cases hr : operator.requiresValue <;> cases f.value <;> simp [hr, eq_comm (a := own)]

namespace Clause

/-- The logic of a node is looked at only where it has clauses to combine. -/
theorem combine_eq_ok {own : Option Condition} {logic : Option String} {children : List Clause}
    {c : Option Clause} : combine own logic children = .ok c ↔
      (children = [] ∧ c = own.map .leaf) ∨
      (children ≠ [] ∧ ∃ l, Connective.ofLogic logic = .ok l ∧
        c = some (own.elim (.group l children) (.both · l children))) := by
  cases own <;> cases children <;> simp [combine, eq_comm (a := c)]

/-- A node is validated where there is room for it, its own comparison is in order, its children
are validated one level deeper, and the two can be put together. -/
theorem ofFilterIn?_eq_ok {room : Nat} {f : Filter} {c : Option Clause} :
    ofFilterIn? room f = .ok c ↔ ∃ inner own children, room = inner + 1 ∧
      f.condition? = .ok own ∧ ofFiltersIn inner f.filters = .ok children ∧
      combine own f.logic children = .ok c := by
  cases f
  cases room with
  | zero => simp [ofFilterIn?]
  | succ room => simp [ofFilterIn?]

theorem ofFiltersIn_eq_ok {room : Nat} {fs : List Filter} {cs : List Clause} :
    ofFiltersIn room fs = .ok cs ↔ ∃ parts,
      List.Forall₂ (fun f c => ofFilterIn? room f = .ok c) fs parts ∧
      cs = parts.flatMap Option.toList := by
  induction fs generalizing cs with
  | nil =>
    simp only [ofFiltersIn, Except.pure_eq_ok, List.forall₂_nil_left_iff, exists_eq_left,
      List.flatMap_nil]
    exact eq_comm
  | cons f fs ih =>
    simp only [ofFiltersIn, Except.bind_eq_ok, Except.pure_eq_ok, ih]
    constructor
    · rintro ⟨c, hc, _, ⟨parts, hparts, rfl⟩, rfl⟩
      exact ⟨c :: parts, .cons hc hparts, by simp⟩
    · rintro ⟨_, _ | ⟨hc, hparts⟩, rfl⟩
      exact ⟨_, hc, _, ⟨_, hparts, rfl⟩, by simp⟩

/-- The clauses of children are those of the children that have one. -/
theorem mem_ofFiltersIn {room : Nat} {fs : List Filter} {cs : List Clause}
    (h : ofFiltersIn room fs = .ok cs) :
    (∀ f ∈ fs, ∃ c, ofFilterIn? room f = .ok c) ∧
      ∀ c, c ∈ cs ↔ ∃ f ∈ fs, ofFilterIn? room f = .ok (some c) := by
  obtain ⟨parts, hparts, rfl⟩ := ofFiltersIn_eq_ok.1 h
  clear h
  induction hparts with
  | nil => simp
  | @cons f part fs parts hf _ ih =>
    refine ⟨fun g hg => ?_, fun c => ?_⟩
    · rcases List.mem_cons.1 hg with rfl | hg
      · exact ⟨part, hf⟩
      · exact ih.1 g hg
    · simp only [List.flatMap_cons, List.mem_append, Option.mem_toList, ih.2 c, List.mem_cons,
        exists_eq_or_imp, hf, Except.ok.injEq]

end Clause

variable {α : Type} {s : Schema α}

/-! ## Resolution -/

namespace Formula

theorem ofCondition_eq_ok {c : Condition} {f : Formula α} :
    ofCondition s c = .ok f ↔ ∃ field test, s.get? c.field = some field ∧
      Test.ofCondition field.kind c = .ok test ∧
      f = .compare ⟨field.read, c.foldsCase field.kind, test⟩ := by
  simp [ofCondition, Schema.resolve_eq_ok, eq_comm (a := f)]

theorem ofClauses_eq_ok {cs : List Clause} {fs : List (Formula α)} :
    ofClauses s cs = .ok fs ↔ List.Forall₂ (fun c f => ofClause s c = .ok f) cs fs := by
  induction cs generalizing fs with
  | nil => cases fs <;> simp [ofClauses]
  | cons c cs ih =>
    simp only [ofClauses, Except.bind_eq_ok, Except.pure_eq_ok, ih]
    constructor
    · rintro ⟨f, hf, fs, hfs, rfl⟩
      exact .cons hf hfs
    · rintro (_ | ⟨hf, hfs⟩)
      exact ⟨_, hf, _, hfs, rfl⟩

/-! ## Evaluation -/

theorem holdsAll_iff {r : α} {fs : List (Formula α)} :
    holdsAll r fs = true ↔ ∀ f ∈ fs, f.holds r = true := by
  induction fs with
  | nil => simp [holdsAll]
  | cons f fs ih => simp [holdsAll, ih]

theorem holdsAny_iff {r : α} {fs : List (Formula α)} :
    holdsAny r fs = true ↔ ∃ f ∈ fs, f.holds r = true := by
  induction fs with
  | nil => simp [holdsAny]
  | cons f fs ih => simp [holdsAny, ih]

theorem holds_and {r : α} {fs : List (Formula α)} :
    (combine .and fs).holds r = true ↔ ∀ f ∈ fs, f.holds r = true := by
  rw [combine, holds, holdsAll_iff]

theorem holds_or {r : α} {fs : List (Formula α)} :
    (combine .or fs).holds r = true ↔ ∃ f ∈ fs, f.holds r = true := by
  rw [combine, holds, holdsAny_iff]

end Formula

/-- A filter is made ready where it is validated and its clause, if it has one, is resolved. -/
theorem Predicate.ofFilter_eq_ok {f : Filter} {p : Predicate α} : ofFilter s f = .ok p ↔
    (Clause.ofFilter? f = .ok none ∧ p = always) ∨
    ∃ c formula, Clause.ofFilter? f = .ok (some c) ∧ Formula.ofClause s c = .ok formula ∧
      p = ⟨some formula⟩ := by
  simp only [ofFilter, Except.bind_eq_ok]
  constructor
  · rintro ⟨_ | c, hc, hp⟩
    · exact .inl ⟨hc, (Except.pure_eq_ok.1 hp).symm⟩
    · simp only [Except.bind_eq_ok, Except.pure_eq_ok] at hp
      obtain ⟨formula, hformula, rfl⟩ := hp
      exact .inr ⟨c, formula, hc, hformula, rfl⟩
  · rintro (⟨hc, rfl⟩ | ⟨c, formula, hc, hformula, rfl⟩)
    · exact ⟨none, hc, rfl⟩
    · exact ⟨some c, hc, by simp [hformula]⟩

/-- A node without children comes to its comparison, and without that to nothing. -/
theorem Predicate.ofFilter_leaf {f : Filter} {own : Option Condition} (hfilters : f.filters = [])
    (hown : f.condition? = .ok own) : ofFilter s f =
      own.elim (.ok always) fun c => (fun φ => ⟨some φ⟩) <$> Formula.ofCondition s c := by
  have hclause : Clause.ofFilter? f = .ok (own.map .leaf) := by
    refine Clause.ofFilterIn?_eq_ok.2 ⟨_, own, [], rfl, hown, ?_, ?_⟩
    · rw [hfilters]
      rfl
    · cases own <;> rfl
  rw [ofFilter, hclause]
  cases own with
  | none => rfl
  | some c => exact (map_eq_pure_bind (m := Except QueryError) _ _).symm

/-- A node without children is made ready where its comparison is. -/
theorem Predicate.ofFilter_single {f : Filter} {c : Condition} {φ : Formula α}
    (hfilters : f.filters = []) (hc : f.condition? = .ok (some c))
    (hφ : Formula.ofCondition s c = .ok φ) : ofFilter s f = .ok ⟨some φ⟩ := by
  rw [ofFilter_leaf hfilters hc, Option.elim, hφ]
  rfl

end RecordQuery
