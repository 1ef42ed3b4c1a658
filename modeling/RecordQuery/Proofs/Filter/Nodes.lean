import RecordQuery.Proofs.Filter.Meaning

/-!
# The nodes of a filter

`Filter.nodes` lists the nodes of a submitted filter, each node before those below it, and
`Clause.conditions` lists the comparisons of a clause in the same order. Validation keeps the
comparisons: those of the clause are those of the nodes, one for one and in order
(`Clause.conditions_of_ofFilterIn?`).
-/

namespace RecordQuery

namespace Filter

mutual

/-- A node and the nodes below it. -/
def nodes : Filter → List Filter
  | ⟨field, operator, value, logic, caseSensitive, filters⟩ =>
    ⟨field, operator, value, logic, caseSensitive, filters⟩ :: nodesOfAll filters

/-- The nodes of some filters. -/
def nodesOfAll : List Filter → List Filter
  | [] => []
  | f :: fs => nodes f ++ nodesOfAll fs

end

theorem nodesOfAll_eq (fs : List Filter) : nodesOfAll fs = fs.flatMap nodes := by
  induction fs with
  | nil => rfl
  | cons f fs ih => rw [nodesOfAll, ih, List.flatMap_cons]

theorem nodes_eq (f : Filter) : f.nodes = f :: f.filters.flatMap nodes := by
  cases f
  rw [nodes, nodesOfAll_eq]

/-- What is true of all nodes is true of the node itself and of all nodes below it. -/
theorem forall_mem_nodes {f : Filter} {P : Filter → Prop} :
    (∀ g ∈ f.nodes, P g) ↔ P f ∧ ∀ h ∈ f.filters, ∀ g ∈ h.nodes, P g := by
  rw [nodes_eq, List.forall_mem_cons, List.forall_mem_flatMap]

theorem maxDepth_le_iff {fs : List Filter} {n : Nat} :
    maxDepth fs ≤ n ↔ ∀ f ∈ fs, f.depth ≤ n := by
  induction fs with
  | nil => simp [maxDepth]
  | cons f fs ih => rw [maxDepth, Nat.max_le, ih, List.forall_mem_cons]

theorem depth_le_iff {f : Filter} {n : Nat} :
    f.depth ≤ n ↔ ∃ m, n = m + 1 ∧ ∀ g ∈ f.filters, g.depth ≤ m := by
  cases f with
  | mk field operator value logic caseSensitive filters =>
    simp only [depth, ← maxDepth_le_iff]
    constructor
    · intro h
      exact ⟨n - 1, by omega, by omega⟩
    · rintro ⟨m, rfl, h⟩
      omega

/-- The comparison that a node makes itself, if it makes one by an operator that is known. -/
def ownCondition? (f : Filter) : Option Condition :=
  if f.hasComparison then
    (Operator.ofText? f.operator).map fun operator =>
      ⟨Text.trim f.field, operator, f.value, f.caseSensitive⟩
  else none

theorem ownCondition?_eq_some {f : Filter} {c : Condition} :
    f.ownCondition? = some c ↔ f.Compares ∧ ∃ operator,
      Operator.ofText? f.operator = some operator ∧
        c = ⟨Text.trim f.field, operator, f.value, f.caseSensitive⟩ := by
  rw [← hasComparison_iff, ownCondition?]
  split <;> simp_all [eq_comm (a := c)]

theorem ownCondition?_of_condition? {f : Filter} {own : Option Condition}
    (h : f.condition? = .ok own) : f.ownCondition? = own := by
  rcases condition?_eq_ok.1 h with ⟨hc, rfl⟩ | ⟨hc, operator, ho, -, rfl⟩
  · simp [ownCondition?, hc]
  · simp [ownCondition?, hc, ho]

end Filter

namespace Clause

mutual

/-- The comparisons of a clause, its own before those of its children. -/
def conditions : Clause → List Condition
  | .leaf c => [c]
  | .group _ children => conditionsOfAll children
  | .both c _ children => c :: conditionsOfAll children

/-- The comparisons of some clauses. -/
def conditionsOfAll : List Clause → List Condition
  | [] => []
  | c :: cs => conditions c ++ conditionsOfAll cs

end

theorem conditionsOfAll_eq (cs : List Clause) : conditionsOfAll cs = cs.flatMap conditions := by
  induction cs with
  | nil => rfl
  | cons c cs ih => rw [conditionsOfAll, ih, List.flatMap_cons]

theorem conditions_of_combine {own : Option Condition} {logic : Option String}
    {children : List Clause} {c : Option Clause} (h : combine own logic children = .ok c) :
    c.toList.flatMap conditions = own.toList ++ children.flatMap conditions := by
  rcases combine_eq_ok.1 h with ⟨rfl, rfl⟩ | ⟨-, l, -, rfl⟩
  · cases own <;> rfl
  · cases own <;> simp [conditions, conditionsOfAll_eq]

/-- The comparisons of a filter's clause are those of the filter's nodes, in their order. -/
theorem conditions_of_ofFilterIn? {f : Filter} : ∀ {room : Nat} {c : Option Clause},
    ofFilterIn? room f = .ok c →
      c.toList.flatMap conditions = f.nodes.filterMap Filter.ownCondition? := by
  induction f using Filter.induction with
  | node f ih =>
    intro room c h
    obtain ⟨inner, own, children, rfl, hown, hchildren, hc⟩ := ofFilterIn?_eq_ok.1 h
    obtain ⟨parts, hparts, rfl⟩ := ofFiltersIn_eq_ok.1 hchildren
    have hbelow : (parts.flatMap Option.toList).flatMap conditions =
        (f.filters.flatMap Filter.nodes).filterMap Filter.ownCondition? := by
      generalize f.filters = fs at ih hparts
      clear h hc hchildren
      induction hparts with
      | nil => rfl
      | cons hg _ ihs =>
        rw [List.flatMap_cons, List.flatMap_append, List.flatMap_cons, List.filterMap_append,
          ih _ List.mem_cons_self hg, ihs fun g hg => ih g (List.mem_cons_of_mem _ hg)]
    rw [conditions_of_combine hc, hbelow, Filter.nodes_eq,
      ← Filter.ownCondition?_of_condition? hown]
    cases ho : f.ownCondition? <;> simp [ho]

end Clause

end RecordQuery
