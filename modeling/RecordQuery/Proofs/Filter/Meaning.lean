import RecordQuery.Proofs.Filter.Tree
import RecordQuery.Proofs.Text.Blank
import RecordQuery.Proofs.Text.Search
import RecordQuery.Sample

/-!
# What a filter means

`Filter.Meets s r f` says when a record `r` meets a submitted filter `f`, by recursion on the node
as it was submitted and without any clause or formula: the node's own comparison holds, if it makes
one, and so do the children that are not neutral, put together as the logic of the node says. A
filter that is made ready accepts exactly the records that meet it (`Predicate.accepts_iff_meets`).

The proof follows the two passes. A clause has a meaning of its own (`Clause.Meets`), which
validation keeps (`Clause.ofFilterIn?_meets`) and which the formula of the clause computes
(`Formula.ofClause_meets`).
-/

namespace RecordQuery

variable {α : Type}

/-! ## The meaning of a comparison -/

/-- What an operator asks of a value, given the reader of operands and the text of the operand. -/
def Operator.Asks (operand? : String → Option Value) (raw : String) (v : Value) : Operator → Prop
  | .eq => ∃ w, operand? raw = some w ∧ v.compare? w = some .eq
  | .neq => ∃ w, operand? raw = some w ∧ v.compare? w ≠ some .eq
  | .lt => ∃ w, operand? raw = some w ∧ v.compare? w = some .lt
  | .lte => ∃ w, operand? raw = some w ∧ (v.compare? w = some .lt ∨ v.compare? w = some .eq)
  | .gt => ∃ w, operand? raw = some w ∧ v.compare? w = some .gt
  | .gte => ∃ w, operand? raw = some w ∧ (v.compare? w = some .gt ∨ v.compare? w = some .eq)
  | .contains => ∃ n t, operand? raw = some (.text n) ∧ v = .text t ∧ n.toList <:+: t.toList
  | .startsWith => ∃ n t, operand? raw = some (.text n) ∧ v = .text t ∧ n.toList <+: t.toList
  | .endsWith => ∃ n t, operand? raw = some (.text n) ∧ v = .text t ∧ n.toList <:+ t.toList
  | .isNull => v = .null
  | .isNotNull => v ≠ .null
  | .among => ∃ part ∈ Condition.segments raw, ∃ w, operand? part = some w ∧
      v.compare? w = some .eq
  | .between => ∃ low high lower upper, Condition.segments raw = [low, high] ∧
      operand? low = some lower ∧ operand? high = some upper ∧
      (v.compare? lower = some .gt ∨ v.compare? lower = some .eq) ∧
      (v.compare? upper = some .lt ∨ v.compare? upper = some .eq)

/-- A value as a comparison looks at it: texts of text fields in lower case unless case counts. -/
def Condition.view (c : Condition) (kind : Kind) (v : Value) : Value :=
  if kind = .text ∧ c.caseSensitive = false then v.foldCase else v

/-- An operand as a comparison looks at it, if it reads as a value of the kind. -/
def Condition.operand? (c : Condition) (kind : Kind) (raw : String) : Option Value :=
  (Value.ofText? kind raw).map (c.view kind)

/-- The condition names a field, and the operator accepts the value of that field. -/
def Condition.Meets (s : Schema α) (r : α) (c : Condition) : Prop :=
  ∃ field, s.get? c.field = some field ∧
    c.operator.Asks (c.operand? field.kind) (c.value.getD "") (c.view field.kind (field.read r))

/-! ## The meaning of a filter -/

namespace Filter

/-- The node compares a field itself. -/
def Compares (f : Filter) : Prop := Text.trim f.field ≠ "" ∧ Text.trim f.operator ≠ ""

/-- The record meets the comparison that the node makes itself. -/
def MeetsOwn (s : Schema α) (r : α) (f : Filter) : Prop :=
  ∃ operator, Operator.ofText? f.operator = some operator ∧
    Condition.Meets s r ⟨Text.trim f.field, operator, f.value, f.caseSensitive⟩

/-- Neither the node nor anything below it compares a field. -/
def Neutral (f : Filter) : Prop := ¬ f.Compares ∧ ∀ g, (h : g ∈ f.filters) → g.Neutral
termination_by f
decreasing_by
  have := List.sizeOf_lt_of_mem h
  cases f; simp at *; omega

/-- The logic of the node is `and`, blank or absent. -/
def JoinsByAnd (f : Filter) : Prop :=
  ∀ l, f.logic = some l → Text.trim l = "" ∨ Text.sameIgnoringCase (Text.trim l) "and" = true

/-- The logic of the node is `or`. -/
def JoinsByOr (f : Filter) : Prop :=
  ∃ l, f.logic = some l ∧ Text.sameIgnoringCase (Text.trim l) "or" = true

/-- The record meets the comparison of the node, if it makes one, and, if some child is not neutral,
all or one of those children, as the logic of the node says. -/
def Meets (s : Schema α) (r : α) (f : Filter) : Prop :=
  (f.Compares → f.MeetsOwn s r) ∧
  ((∃ g ∈ f.filters, ¬ g.Neutral) →
    (f.JoinsByAnd → ∀ g, (h : g ∈ f.filters) → ¬ g.Neutral → g.Meets s r) ∧
    (f.JoinsByOr → ∃ g, ∃ _ : g ∈ f.filters, ¬ g.Neutral ∧ g.Meets s r))
termination_by f
decreasing_by
  all_goals
    have := List.sizeOf_lt_of_mem ‹_ ∈ _›
    cases f; simp at *; omega

end Filter

/-- The record meets a clause. -/
def Clause.Meets (s : Schema α) (r : α) : Clause → Prop
  | .leaf c => c.Meets s r
  | .group .and cs => ∀ c, (h : c ∈ cs) → c.Meets s r
  | .group .or cs => ∃ c, ∃ _ : c ∈ cs, c.Meets s r
  | .both own .and cs => own.Meets s r ∧ ∀ c, (h : c ∈ cs) → c.Meets s r
  | .both own .or cs => own.Meets s r ∧ ∃ c, ∃ _ : c ∈ cs, c.Meets s r

/-! ## Comparisons -/

theorem Condition.view_eq (c : Condition) (kind : Kind) (v : Value) :
    c.view kind v = if c.foldsCase kind then v.foldCase else v := by
  simp [view, foldsCase]

theorem Condition.view_null (c : Condition) (kind : Kind) : c.view kind .null = .null := by
  unfold view
  split <;> rfl

/-- An operand is read by the kind and then looked at as the field's value is. -/
theorem Condition.operand_eq_ok {c : Condition} {kind : Kind} {raw : String} {w : Value} :
    c.operand kind raw = .ok w ↔ c.operand? kind raw = some w := by
  unfold operand operand?
  cases Value.ofText? kind raw <;> simp [view_eq]

theorem Condition.operand?_text (c : Condition) (raw : String) :
    c.operand? .text raw = some (.text (c.needle .text raw)) := by
  simp only [operand?, Value.ofText?, Option.map_some, view_eq, needle]
  split <;> rfl

theorem Value.isTextWith_iff {p : List Char → Bool} {v : Value} :
    v.isTextWith p = true ↔ ∃ t, v = .text t ∧ p t.toList = true := by
  cases v <;> simp [isTextWith]

/-- The operands of `in` are one of each part between commas. -/
theorem Test.among_holds {c : Condition} {kind : Kind} {raws : List String} {ws : List Value}
    (h : raws.mapM (c.operand kind) = .ok ws) (v : Value) :
    (Test.among ws).holds v = true ↔
      ∃ raw ∈ raws, ∃ w, c.operand? kind raw = some w ∧ v.compare? w = some .eq := by
  simp only [holds, List.any_eq_true, Value.isEqual, beq_iff_eq]
  rw [Except.mapM_eq_ok] at h
  induction h with
  | nil => simp
  | cons hw _ ih =>
    rw [Condition.operand_eq_ok] at hw
    simp only [List.mem_cons, exists_eq_or_imp, ih, hw, Option.some.injEq, exists_eq_left']

/-- A test passes the values that its operator accepts. -/
theorem Test.ofCondition_asks {kind : Kind} {c : Condition} {t : Test}
    (h : Test.ofCondition kind c = .ok t) (v : Value) :
    t.holds v = true ↔ c.operator.Asks (c.operand? kind) (c.value.getD "") v := by
  unfold Test.ofCondition at h
  split at h
  · simp at h
  rename_i hkind
  cases ho : c.operator with
  | eq | neq | lt | lte | gt | gte =>
    simp only [ho, Except.map_eq_ok, Condition.operand_eq_ok] at h
    obtain ⟨w, hw, rfl⟩ := h
    simp [Operator.Asks, hw, holds, Value.isEqual, Value.isLess, Value.isGreater]
  | contains | startsWith | endsWith =>
    have hk : kind = .text := by simpa [ho, Operator.isTextOnly] using hkind
    subst hk
    simp only [ho, Except.pure_eq_ok] at h
    subst h
    simp [Operator.Asks, holds, Condition.operand?_text, Value.isTextWith_iff, Text.occursIn_iff]
  | isNull | isNotNull =>
    simp only [ho, Except.pure_eq_ok] at h
    subst h
    cases v <;> simp [Operator.Asks, holds, Value.isNull]
  | among =>
    simp only [ho, Except.map_eq_ok] at h
    obtain ⟨ws, hws, rfl⟩ := h
    exact among_holds hws v
  | between =>
    simp only [ho] at h
    split at h
    · rename_i low high hparts
      simp only [Except.bind_eq_ok, Except.pure_eq_ok, Condition.operand_eq_ok] at h
      obtain ⟨lower, hlower, upper, hupper, rfl⟩ := h
      simp only [holds, Value.isEqual, Value.isLess, Value.isGreater, Bool.and_eq_true,
        Bool.or_eq_true, beq_iff_eq]
      constructor
      · rintro ⟨hlow, hhigh⟩
        exact ⟨low, high, lower, upper, hparts, hlower, hupper, hlow, hhigh⟩
      · rintro ⟨_, _, _, _, hparts', hlower', hupper', hlow, hhigh⟩
        obtain ⟨rfl, rfl⟩ : low = _ ∧ high = _ := by simpa [hparts] using hparts'
        rw [hlower, Option.some.injEq] at hlower'
        rw [hupper, Option.some.injEq] at hupper'
        exact ⟨hlower' ▸ hlow, hupper' ▸ hhigh⟩
    · simp at h

theorem Formula.ofCondition_meets {s : Schema α} {c : Condition} {f : Formula α}
    (h : ofCondition s c = .ok f) (r : α) : f.holds r = true ↔ c.Meets s r := by
  obtain ⟨field, test, hfield, htest, rfl⟩ := ofCondition_eq_ok.1 h
  rw [holds, Comparison.holds, ← Condition.view_eq, Test.ofCondition_asks htest]
  simp [Condition.Meets, hfield]

/-- Nothing but being different and being absent is true of `null`. -/
theorem Operator.asks_null {operand? : String → Option Value} {raw : String} {o : Operator}
    (h : o.Asks operand? raw .null) : o = .neq ∨ o = .isNull := by
  cases o <;> simp_all [Asks, Value.compare?]

/-! ## Resolution keeps the meaning -/

/-- The formula of a clause holds of the records that meet the clause. -/
theorem Formula.ofClause_meets {s : Schema α} (r : α) {c : Clause} :
    ∀ {f : Formula α}, ofClause s c = .ok f → (f.holds r = true ↔ c.Meets s r) := by
  -- what is known of the children, said of all and of one of them
  have children : ∀ {cs : List Clause} {fs : List (Formula α)}, ofClauses s cs = .ok fs →
      (∀ c ∈ cs, ∀ {f : Formula α}, ofClause s c = .ok f → (f.holds r = true ↔ c.Meets s r)) →
      ((∀ f ∈ fs, f.holds r = true) ↔ ∀ c ∈ cs, c.Meets s r) ∧
      ((∃ f ∈ fs, f.holds r = true) ↔ ∃ c ∈ cs, c.Meets s r) := by
    intro cs fs h ih
    rw [ofClauses_eq_ok] at h
    induction h with
    | nil => simp
    | cons hf _ ihs =>
      have hc := ih _ List.mem_cons_self hf
      have hcs := ihs fun c hc => ih c (List.mem_cons_of_mem _ hc)
      simp only [List.forall_mem_cons, List.exists_mem_cons_iff, hc, hcs, and_self]
  induction c using Clause.induction with
  | leaf c =>
    intro f h
    rw [Clause.Meets, ofCondition_meets h r]
  | group l cs ih =>
    intro f h
    simp only [ofClause, Except.map_eq_ok] at h
    obtain ⟨fs, hfs, rfl⟩ := h
    obtain ⟨hall, hany⟩ := children hfs ih
    cases l with
    | and => rw [holds_and, hall, Clause.Meets]
    | or => simp only [holds_or, hany, Clause.Meets, exists_prop]
  | both own l cs ih =>
    intro f h
    simp only [ofClause, Except.bind_eq_ok, Except.pure_eq_ok] at h
    obtain ⟨o, ho, fs, hfs, rfl⟩ := h
    obtain ⟨hall, hany⟩ := children hfs ih
    have hboth : (Formula.all [o, combine l fs]).holds r = true ↔
        own.Meets s r ∧ (combine l fs).holds r = true := by
      simp [holds, holdsAll, ofCondition_meets ho r]
    cases l with
    | and => rw [hboth, holds_and, hall, Clause.Meets]
    | or => simp only [hboth, holds_or, hany, Clause.Meets, exists_prop]

/-! ## Validation keeps the meaning -/

theorem Filter.hasComparison_iff {f : Filter} : f.hasComparison = true ↔ f.Compares := by
  simp [hasComparison, Compares, ← Text.isBlankText_iff]

theorem Connective.ofLogic_eq_and {f : Filter} : ofLogic f.logic = .ok .and ↔ f.JoinsByAnd := by
  unfold ofLogic Filter.JoinsByAnd
  cases f.logic with
  | none => simp
  | some l =>
    simp only [Option.map_some, Option.some.injEq, forall_eq']
    split_ifs <;> simp_all

theorem Connective.ofLogic_eq_or {f : Filter} : ofLogic f.logic = .ok .or ↔ f.JoinsByOr := by
  unfold ofLogic Filter.JoinsByOr
  cases f.logic with
  | none => simp
  | some l =>
    simp only [Option.map_some, Option.some.injEq, exists_eq_left']
    -- no text is both `or` and one of the spellings of `and`
    have hne : Text.sameIgnoringCase "" "or" = false ∧
        Text.sameIgnoringCase "and" "or" = false := by decide
    split_ifs with h1 h2 h3
    · simp [h1, hne.1]
    · have := Text.sameIgnoringCase_trans (Text.sameIgnoringCase_symm h2) (u := "or")
      simp_all
    · simp [h3]
    · simp [h3]

/-- The two ways to join exclude each other. -/
theorem Connective.joins_iff {f : Filter} {l : Connective} (h : ofLogic f.logic = .ok l) :
    (f.JoinsByAnd ↔ l = .and) ∧ (f.JoinsByOr ↔ l = .or) := by
  simp [← ofLogic_eq_and, ← ofLogic_eq_or, h]

theorem Filter.meets_iff {s : Schema α} {r : α} {f : Filter} : f.Meets s r ↔
    (f.Compares → f.MeetsOwn s r) ∧
    ((∃ g ∈ f.filters, ¬ g.Neutral) →
      (f.JoinsByAnd → ∀ g ∈ f.filters, ¬ g.Neutral → g.Meets s r) ∧
      (f.JoinsByOr → ∃ g ∈ f.filters, ¬ g.Neutral ∧ g.Meets s r)) := by
  rw [Meets]
  simp only [exists_prop]

/-- A neutral filter is met by every record. -/
theorem Filter.Neutral.meets {s : Schema α} {r : α} {f : Filter} (h : f.Neutral) :
    f.Meets s r := by
  rw [Neutral] at h
  rw [meets_iff]
  exact ⟨fun hc => absurd hc h.1, fun ⟨g, hg, hn⟩ => absurd (h.2 g hg) hn⟩

namespace Clause

theorem ofFiltersIn_nil {room : Nat} {fs : List Filter} {cs : List Clause}
    (h : ofFiltersIn room fs = .ok cs)
    (hneutral : ∀ g ∈ fs, ∀ {c : Option Clause}, ofFilterIn? room g = .ok c →
      (c = none ↔ g.Neutral)) : cs = [] ↔ ∀ g ∈ fs, g.Neutral := by
  obtain ⟨hsome, hmem⟩ := mem_ofFiltersIn h
  rw [List.eq_nil_iff_forall_not_mem]
  constructor
  · intro hno g hg
    obtain ⟨c, hc⟩ := hsome g hg
    rw [← hneutral g hg hc, Option.eq_none_iff_forall_ne_some]
    rintro c rfl
    exact hno c ((hmem c).2 ⟨g, hg, hc⟩)
  · intro hall c hc
    obtain ⟨g, hg, hgc⟩ := (hmem c).1 hc
    cases (hneutral g hg hgc).2 (hall g hg)

/-- Validation finds no clause exactly in neutral filters. -/
theorem ofFilterIn?_none {f : Filter} :
    ∀ {room : Nat} {c : Option Clause}, ofFilterIn? room f = .ok c → (c = none ↔ f.Neutral) := by
  induction f using Filter.induction with
  | node f ih =>
    intro room c h
    obtain ⟨inner, own, children, rfl, hown, hchildren, hc⟩ := ofFilterIn?_eq_ok.1 h
    have hnil := ofFiltersIn_nil hchildren fun g hg => ih g hg
    rw [Filter.Neutral, ← Filter.hasComparison_iff, ← hnil]
    rcases Filter.condition?_eq_ok.1 hown with ⟨hf, rfl⟩ | ⟨hf, o, -, -, rfl⟩ <;>
      rcases combine_eq_ok.1 hc with ⟨hcs, rfl⟩ | ⟨hcs, l, -, rfl⟩ <;> simp [hf, hcs]

/-- The clauses of children hold of the records that meet the children that are not neutral. -/
theorem ofFiltersIn_meets {s : Schema α} {r : α} {room : Nat} {fs : List Filter}
    {cs : List Clause} (h : ofFiltersIn room fs = .ok cs)
    (hmeets : ∀ g ∈ fs, ∀ {c : Clause}, ofFilterIn? room g = .ok (some c) →
      (c.Meets s r ↔ g.Meets s r)) :
    ((∀ c ∈ cs, c.Meets s r) ↔ ∀ g ∈ fs, ¬ g.Neutral → g.Meets s r) ∧
      ((∃ c ∈ cs, c.Meets s r) ↔ ∃ g ∈ fs, ¬ g.Neutral ∧ g.Meets s r) := by
  obtain ⟨hsome, hmem⟩ := mem_ofFiltersIn h
  -- the children that are not neutral are those with a clause
  have hclause : ∀ g ∈ fs, ¬ g.Neutral → ∃ c, ofFilterIn? room g = .ok (some c) := by
    intro g hg hn
    obtain ⟨c, hc⟩ := hsome g hg
    cases c with
    | none => exact absurd ((ofFilterIn?_none hc).1 rfl) hn
    | some c => exact ⟨c, hc⟩
  have hn : ∀ {g : Filter} {c : Clause}, ofFilterIn? room g = .ok (some c) → ¬ g.Neutral :=
    fun hc hneutral => by cases (ofFilterIn?_none hc).2 hneutral
  refine ⟨⟨fun hall g hg hng => ?_, fun hall c hc => ?_⟩,
    ⟨fun ⟨c, hc, hcm⟩ => ?_, fun ⟨g, hg, hng, hgm⟩ => ?_⟩⟩
  · obtain ⟨c, hc⟩ := hclause g hg hng
    exact (hmeets g hg hc).1 (hall c ((hmem c).2 ⟨g, hg, hc⟩))
  · obtain ⟨g, hg, hgc⟩ := (hmem c).1 hc
    exact (hmeets g hg hgc).2 (hall g hg (hn hgc))
  · obtain ⟨g, hg, hgc⟩ := (hmem c).1 hc
    exact ⟨g, hg, hn hgc, (hmeets g hg hgc).1 hcm⟩
  · obtain ⟨c, hc⟩ := hclause g hg hng
    exact ⟨c, (hmem c).2 ⟨g, hg, hc⟩, (hmeets g hg hc).2 hgm⟩

/-- The clause of a filter is met by the records that meet the filter. -/
theorem ofFilterIn?_meets {s : Schema α} {r : α} {f : Filter} :
    ∀ {room : Nat} {c : Clause}, ofFilterIn? room f = .ok (some c) →
      (c.Meets s r ↔ f.Meets s r) := by
  induction f using Filter.induction with
  | node f ih =>
    intro room c h
    obtain ⟨inner, own, children, rfl, hown, hchildren, hc⟩ := ofFilterIn?_eq_ok.1 h
    have hnil := ofFiltersIn_nil hchildren fun g _ => ofFilterIn?_none
    obtain ⟨hall, hany⟩ := ofFiltersIn_meets (s := s) (r := r) hchildren fun g hg => ih g hg
    rw [Filter.meets_iff, ← Filter.hasComparison_iff]
    rcases combine_eq_ok.1 hc with ⟨hcs, hleaf⟩ | ⟨hcs, l, hl, hjoined⟩
    · -- only the node's own comparison is left
      have hno : ¬ ∃ g ∈ f.filters, ¬ g.Neutral := by
        simpa using hnil.1 hcs
      rcases Filter.condition?_eq_ok.1 hown with ⟨_, rfl⟩ | ⟨hf, o, ho, -, rfl⟩
      · cases hleaf
      · cases hleaf
        simp [Clause.Meets, hf, hno, Filter.MeetsOwn, ho]
    · have hsome : ∃ g ∈ f.filters, ¬ g.Neutral := by
        simpa [hnil] using hcs
      obtain ⟨hand, hor⟩ := Connective.joins_iff hl
      rcases Filter.condition?_eq_ok.1 hown with ⟨hf, rfl⟩ | ⟨hf, o, ho, -, rfl⟩
      · cases hjoined
        cases l <;> simp [Clause.Meets, hf, hsome, hand, hor, hall, hany]
      · cases hjoined
        cases l <;> simp [Clause.Meets, hf, hsome, hand, hor, hall, hany, Filter.MeetsOwn, ho]

end Clause

/-! ## Filters made ready -/

/-- A filter that is made ready is the identity exactly if it is neutral, and accepts exactly the
records that meet it. Of a field that is `null` only `neq` and `isnull` can be true. -/
theorem Predicate.accepts_iff_meets {s : Schema α} {f : Filter} {p : Predicate α}
    (h : Predicate.ofFilter s f = .ok p) :
    (p.isIdentity = true ↔ f.Neutral) ∧ (∀ r, p.accepts r = true ↔ f.Meets s r) ∧
      ∀ (g : Filter) (field : Field α) (r : α), s.get? (Text.trim g.field) = some field →
        field.read r = .null → g.MeetsOwn s r →
        Operator.ofText? g.operator = some .neq ∨ Operator.ofText? g.operator = some .isNull := by
  refine ⟨?_, fun r => ?_, fun g field r hfield hnull ⟨o, ho, field', hfield', hasks⟩ => ?_⟩
  · rcases ofFilter_eq_ok.1 h with ⟨hc, rfl⟩ | ⟨c, φ, hc, -, rfl⟩
    · simp [always, isIdentity, ← Clause.ofFilterIn?_none hc]
    · simp [isIdentity, ← Clause.ofFilterIn?_none hc]
  · rcases ofFilter_eq_ok.1 h with ⟨hc, rfl⟩ | ⟨c, φ, hc, hφ, rfl⟩
    · simpa [always, accepts] using ((Clause.ofFilterIn?_none hc).1 rfl).meets
    · rw [← Clause.ofFilterIn?_meets hc]
      exact Formula.ofClause_meets r hφ
  · cases hfield.symm.trans hfield'
    rw [hnull, Condition.view_null] at hasks
    rcases Operator.asks_null hasks with rfl | rfl
    · exact .inl ho
    · exact .inr ho

/-- Adults called `ann`, in any case of letters, or without a score. -/
def sampleFilter : Filter :=
  ⟨" Age", "GTE ", some "18", some "or", false,
    [⟨"name", "contains", some "ANN", none, false, []⟩, .neutral,
      ⟨"score", "isnull", none, none, false, []⟩]⟩

theorem sampleFilter_meaning : ∃ p, Predicate.ofFilter Person.schema sampleFilter = .ok p ∧
    (p.isIdentity = true ↔ sampleFilter.Neutral) ∧
    (∀ r, p.accepts r = true ↔ sampleFilter.Meets Person.schema r) ∧
      ∀ (g : Filter) (field : Field Person) (r : Person),
        Person.schema.get? (Text.trim g.field) = some field →
        field.read r = .null → g.MeetsOwn Person.schema r →
        Operator.ofText? g.operator = some .neq ∨ Operator.ofText? g.operator = some .isNull :=
  ⟨_, rfl, Predicate.accepts_iff_meets rfl⟩

end RecordQuery
