import RecordQuery.Proofs.Filter.Fitting

/-!
# Operands between commas

`in` and `between` are ways to write other filters. With an operand of some segments, `in` comes to
the same as the segments compared by `eq` and joined by `or`, and `between` with two segments to the
same as `gte` the first and `lte` the second joined by `and` (`Predicate.ofFilter_segments`), for
every schema, whether the filter can be made ready or is refused.

A predicate is seen through `Predicate.view` only: whether it filters anything out and which records
it accepts. The formulas themselves differ.
-/

namespace RecordQuery

variable {α : Type}

/-! ## Segments -/

namespace Condition

/-- The segments of an operand: texts without a comma that give it when put together with commas. -/
def SplitsInto (raw : String) (parts : List String) : Prop :=
  parts ≠ [] ∧ (∀ part ∈ parts, ',' ∉ part.toList) ∧ raw = ",".intercalate parts

instance (raw : String) (parts : List String) : Decidable (SplitsInto raw parts) :=
  inferInstanceAs (Decidable (_ ∧ _ ∧ _))

theorem splitsInto_iff {raw : String} {parts : List String} :
    SplitsInto raw parts ↔ Text.split ',' raw.toList = parts.map String.toList := by
  have hcomma : ",".toList = [','] := rfl
  rw [Text.split_eq_iff, SplitsInto, ← String.toList_inj, String.toList_intercalate, hcomma]
  simp

theorem existsUnique_splitsInto (raw : String) : ∃! parts, SplitsInto raw parts := by
  refine ⟨(Text.split ',' raw.toList).map String.ofList, splitsInto_iff.2 ?_, fun parts h => ?_⟩
  · simp [Function.comp_def]
  · rw [splitsInto_iff.1 h]
    simp [Function.comp_def]

theorem segments_eq {raw : String} {parts : List String} (h : SplitsInto raw parts) :
    segments raw = parts.map Text.trim := by
  rw [segments, splitsInto_iff.1 h, List.map_map]
  rfl

end Condition

/-! ## Filters that look the same -/

/-- What can be seen of a predicate. -/
def Predicate.view (p : Predicate α) : Bool × (α → Bool) := (p.isIdentity, p.accepts)

namespace Filter

/-- The filters are refused for the same reason or give predicates that look the same. -/
def SameResult (s : Schema α) (f g : Filter) : Prop :=
  Predicate.view <$> Predicate.ofFilter s f = Predicate.view <$> Predicate.ofFilter s g

/-- The filters are both refused or give predicates that look the same. -/
def SameMatches (s : Schema α) (f g : Filter) : Prop :=
  (Predicate.view <$> Predicate.ofFilter s f).toOption =
    (Predicate.view <$> Predicate.ofFilter s g).toOption

/-- The node that compares the field of another one by an operator, in that one's way. -/
def sibling (f : Filter) (operator raw : String) : Filter :=
  ⟨f.field, operator, some raw, none, f.caseSensitive, []⟩

/-- The node has no children and makes a comparison, unless it names no field. -/
def Makes (f : Filter) (c : Condition) : Prop :=
  f.filters = [] ∧ f.condition? = .ok (if c.field = "" then none else some c)

theorem makes_of_operator {f : Filter} {o : Operator} {raw : String} (hfilters : f.filters = [])
    (ho : Operator.ofText? f.operator = some o) (hvalue : f.value = some raw) :
    f.Makes ⟨Text.trim f.field, o, some raw, f.caseSensitive⟩ := by
  have hblank : Operator.ofText? "" = none := by decide
  have hword : Text.trim f.operator ≠ "" := by
    intro h
    rw [Operator.ofText?, h] at ho
    exact absurd (hblank.symm.trans ho) (by simp)
  refine ⟨hfilters, condition?_eq_ok.2 ?_⟩
  by_cases hfield : Text.trim f.field = ""
  · left
    rw [← Bool.not_eq_true, hasComparison_iff]
    exact ⟨fun h => h.1 hfield, if_pos hfield⟩
  · right
    refine ⟨hasComparison_iff.2 ⟨hfield, hword⟩, o, ho, fun _ => ?_, ?_⟩
    · rw [hvalue]
      rfl
    · rw [hvalue]
      exact if_neg hfield

end Filter

namespace Clause

/-- Nodes without children leave their comparisons, or nothing if they name no field. -/
theorem ofFiltersIn_makes {room : Nat} {fs : List Filter} {cs : List Condition}
    (h : List.Forall₂ Filter.Makes fs cs) :
    ofFiltersIn (room + 1) fs = .ok ((cs.filter (·.field ≠ "")).map .leaf) := by
  induction h with
  | nil => rfl
  | @cons f c fs cs hf _ ih =>
    obtain ⟨hfilters, hown⟩ := hf
    have hclause : ofFilterIn? (room + 1) f =
        .ok ((if c.field = "" then none else some c).map .leaf) := by
      refine ofFilterIn?_eq_ok.2 ⟨room, _, [], rfl, hown, ?_, ?_⟩
      · rw [hfilters]
        rfl
      · split <;> rfl
    rw [ofFiltersIn, hclause, ih]
    by_cases hc : c.field = ""
    · simp [hc]
    · simp [hc]

theorem ofFilter?_group {fs : List Filter} {cs : List Condition} {logic : String}
    (h : List.Forall₂ Filter.Makes fs cs) : ofFilter? (.group logic fs) =
      combine none (some logic) ((cs.filter (·.field ≠ "")).map .leaf) := by
  have hown : (Filter.group logic fs).condition? = .ok none := rfl
  rw [Filter.group] at hown
  rw [ofFilter?, maxFilterDepth, Filter.group, ofFilterIn?, hown, ofFiltersIn_makes h]
  rfl

end Clause

theorem Formula.ofClauses_leaves {s : Schema α} (cs : List Condition) :
    ofClauses s (cs.map .leaf) = cs.mapM (ofCondition s) := by
  induction cs with
  | nil => rfl
  | cons c cs ih => rw [List.map_cons, ofClauses, ih, List.mapM_cons, ofClause]

namespace Predicate

variable {s : Schema α} {fs : List Filter} {cs : List Condition} {logic : String} {l : Connective}

/-- A group of nodes that name no field filters nothing out. -/
theorem ofFilter_group_neutral (h : List.Forall₂ Filter.Makes fs cs)
    (hcs : ∀ c ∈ cs, c.field = "") : ofFilter s (.group logic fs) = .ok always := by
  have hnone : cs.filter (·.field ≠ "") = [] := List.filter_eq_nil_iff.2 (by simpa using hcs)
  rw [ofFilter, Clause.ofFilter?_group h, hnone]
  rfl

/-- A group of nodes without children joins their comparisons. -/
theorem ofFilter_group (h : List.Forall₂ Filter.Makes fs cs) (hcs : ∀ c ∈ cs, c.field ≠ "")
    (hne : cs ≠ []) (hl : Connective.ofLogic (some logic) = .ok l) :
    ofFilter s (.group logic fs) =
      (fun φs => ⟨some (.combine l φs)⟩) <$> cs.mapM (Formula.ofCondition s) := by
  have hall : cs.filter (·.field ≠ "") = cs := List.filter_eq_self.2 (by simpa using hcs)
  have hclause : Clause.ofFilter? (.group logic fs) = .ok (some (.group l (cs.map .leaf))) := by
    rw [Clause.ofFilter?_group h, hall]
    refine Clause.combine_eq_ok.2 (.inr ⟨?_, l, hl, rfl⟩)
    simpa using hne
  rw [ofFilter, hclause, ← Formula.ofClauses_leaves]
  show (Formula.combine l <$> Formula.ofClauses s (cs.map .leaf)) >>= _ = _
  cases Formula.ofClauses s (cs.map .leaf) <;> rfl

/-- Of a node without children one sees what its comparison says of records. -/
theorem view_leaf {f : Filter} {c : Condition} (hf : f.Makes c) : view <$> ofFilter s f =
    if c.field = "" then .ok always.view
    else (fun accepts => (false, accepts)) <$> (fun φ r => φ.holds r) <$>
      Formula.ofCondition s c := by
  rw [ofFilter_leaf hf.1 hf.2]
  by_cases hblank : c.field = ""
  · rw [if_pos hblank, if_pos hblank]
    rfl
  · rw [if_neg hblank, if_neg hblank, Option.elim, Functor.map_map, Functor.map_map]
    rfl

/-- Of a group of nodes on one field one sees what their comparisons, joined, say of records. -/
theorem view_group {name : String} (h : List.Forall₂ Filter.Makes fs cs)
    (hfield : ∀ c ∈ cs, c.field = name) (hne : cs ≠ [])
    (hl : Connective.ofLogic (some logic) = .ok l) : view <$> ofFilter s (.group logic fs) =
    if name = "" then .ok always.view
    else (fun accepts => (false, accepts)) <$> (fun φs r => (Formula.combine l φs).holds r) <$>
      cs.mapM (Formula.ofCondition s) := by
  by_cases hblank : name = ""
  · rw [if_pos hblank, ofFilter_group_neutral h fun c hc => (hfield c hc).trans hblank]
    rfl
  · rw [if_neg hblank, ofFilter_group h (fun c hc => by rwa [hfield c hc]) hne hl,
      Functor.map_map, Functor.map_map]
    rfl

/-- A node without children and a group of such nodes on the same field look the same if the
comparisons of the group, joined, are refused as that of the node is and hold where it holds. -/
theorem sameResult_group {f : Filter} {c : Condition} (hf : f.Makes c)
    (h : List.Forall₂ Filter.Makes fs cs) (hfield : ∀ d ∈ cs, d.field = c.field) (hne : cs ≠ [])
    (hl : Connective.ofLogic (some logic) = .ok l)
    (hsame : (fun φ r => φ.holds r) <$> Formula.ofCondition s c =
      (fun φs r => (Formula.combine l φs).holds r) <$> cs.mapM (Formula.ofCondition s)) :
    f.SameResult s (.group logic fs) := by
  rw [Filter.SameResult, view_leaf hf, view_group h hfield hne hl, hsame]

end Predicate

/-! ## What the operators come to -/

/-- The comparison of the same field by another operator. -/
def Condition.sibling (c : Condition) (operator : Operator) (raw : String) : Condition :=
  { c with operator, value := some raw }

namespace Formula

variable {s : Schema α} {c : Condition} {raw : String}

theorem ofCondition_unknown (h : s.get? c.field = none) :
    ofCondition s c = .error (.fieldNotFound c.field s.title) := by
  rw [ofCondition, Schema.resolve, h]
  rfl

theorem ofCondition_known {field : Field α} (h : s.get? c.field = some field) : ofCondition s c =
    (fun t => .compare ⟨field.read, c.foldsCase field.kind, t⟩) <$>
      Test.ofCondition field.kind c := by
  rw [ofCondition, Schema.resolve, h]
  exact (map_eq_pure_bind (m := Except QueryError) _ _).symm

theorem sibling_unknown (h : s.get? c.field = none) (o : Operator) (raw : String) :
    ofCondition s (c.sibling o raw) = .error (.fieldNotFound c.field s.title) :=
  ofCondition_unknown h

/-- A comparison by an operator with one operand is refused only for this operand. -/
theorem sibling_known {field : Field α} (h : s.get? c.field = some field) {o : Operator}
    {test : Value → Test}
    (htest : Test.ofCondition field.kind (c.sibling o raw) = test <$> c.operand field.kind raw) :
    ofCondition s (c.sibling o raw) =
      (fun w => .compare ⟨field.read, c.foldsCase field.kind, test w⟩) <$>
        c.operand field.kind raw := by
  rw [ofCondition_known (c := c.sibling o raw) h, htest, Functor.map_map]
  rfl

theorem holdsAny_map {β : Type} {r : α} {xs : List β} {f : β → Formula α} :
    holdsAny r (xs.map f) = xs.any fun x => (f x).holds r := by
  induction xs with
  | nil => rfl
  | cons x xs ih => rw [List.map_cons, holdsAny, ih, List.any_cons]

/-- `in` is `eq` of one of the segments. -/
theorem ofCondition_among (hop : c.operator = .among) (hvalue : c.value = some raw) :
    (fun φ r => φ.holds r) <$> ofCondition s c =
      (fun φs r => (combine .or φs).holds r) <$>
        ((Condition.segments raw).map (c.sibling .eq)).mapM (ofCondition s) := by
  rw [List.mapM_map]
  cases hfield : s.get? c.field with
  | none =>
    -- the first of the segments, of which there is one, is refused for the field as well
    have hne : Condition.segments raw ≠ [] := by
      simp [Condition.segments, Text.split_ne_nil]
    obtain ⟨part, parts, hparts⟩ := List.exists_cons_of_ne_nil hne
    rw [hparts, List.mapM_cons, Function.comp_apply, ofCondition_unknown hfield,
      sibling_unknown hfield]
    rfl
  | some field =>
    have hamong : Test.ofCondition field.kind c =
        .among <$> (Condition.segments raw).mapM (c.operand field.kind) := by
      simp [Test.ofCondition, hop, hvalue, Operator.isTextOnly]
    have heq : ofCondition s ∘ c.sibling .eq = fun part =>
        (fun w => .compare ⟨field.read, c.foldsCase field.kind, .eq w⟩) <$>
          c.operand field.kind part :=
      funext fun part => sibling_known hfield rfl
    rw [ofCondition_known hfield, hamong, heq, Except.mapM_map, Functor.map_map, Functor.map_map,
      Functor.map_map]
    congr 1
    funext ws r
    rw [combine, holds, holds, holdsAny_map]
    rfl

/-- `between` is `gte` the first and `lte` the second of two segments. -/
theorem ofCondition_between {low high : String} (hop : c.operator = .between)
    (hvalue : c.value = some raw) (hparts : Condition.segments raw = [low, high]) :
    (fun φ r => φ.holds r) <$> ofCondition s c = (fun φs r => (combine .and φs).holds r) <$>
      [c.sibling .gte low, c.sibling .lte high].mapM (ofCondition s) := by
  rw [List.mapM_cons, List.mapM_cons, List.mapM_nil]
  cases hfield : s.get? c.field with
  | none =>
    rw [ofCondition_unknown hfield, sibling_unknown hfield]
    rfl
  | some field =>
    have hbetween : Test.ofCondition field.kind c = do
        let lower ← c.operand field.kind low
        let upper ← c.operand field.kind high
        return .between lower upper := by
      simp [Test.ofCondition, hop, hvalue, hparts, Operator.isTextOnly]
    rw [ofCondition_known hfield, hbetween, sibling_known (o := .gte) hfield rfl,
      sibling_known (o := .lte) hfield rfl]
    cases c.operand field.kind low with
    | error e => rfl
    | ok lower =>
      cases c.operand field.kind high with
      | error e => rfl
      | ok upper =>
        refine congrArg Except.ok (funext fun r => ?_)
        simp [combine, holds, holdsAll, Comparison.holds, Test.holds]

/-- `between` without exactly two segments is refused once its field is found. -/
theorem ofCondition_malformed (hop : c.operator = .between) (hvalue : c.value = some raw)
    (hparts : (Condition.segments raw).length ≠ 2) :
    ofCondition s c = (s.resolve c.field >>= fun _ =>
      throw (.malformedOperand c.field "between" raw)) := by
  have htest : ∀ kind : Kind, Test.ofCondition kind c =
      throw (.malformedOperand c.field "between" raw) := by
    intro kind
    simp only [Test.ofCondition, hop, hvalue, Operator.isTextOnly, Bool.false_and,
      Bool.false_eq_true, if_false, Option.getD_some]
    split
    · next low high h => exact absurd (congrArg List.length h) hparts
    · rfl
  rw [ofCondition]
  simp only [htest]
  rfl

end Formula

/-! ## The order of segments -/

namespace Condition

variable {s : Schema α} {c : Condition} {raw raw' : String}

theorem fits_among (hop : c.operator = .among) (hvalue : c.value = some raw)
    (hsegments : ∀ t, t ∈ segments raw ↔ t ∈ segments raw') :
    c.Fits s ↔ (c.sibling .among raw').Fits s := by
  simp [Fits, Operator.Fits, sibling, hop, hvalue, hsegments]

theorem meets_among (hop : c.operator = .among) (hvalue : c.value = some raw)
    (hsegments : ∀ t, t ∈ segments raw ↔ t ∈ segments raw') (r : α) :
    c.Meets s r ↔ (c.sibling .among raw').Meets s r := by
  rw [Meets, Meets, hop, hvalue]
  refine exists_congr fun field => and_congr_right fun _ => ?_
  show (∃ part ∈ segments raw, _) ↔ ∃ part ∈ segments raw', _
  simp only [hsegments]
  rfl

end Condition

/-- Conditions that fit alike and are met alike look the same but for the reasons of refusal. -/
theorem Formula.toOption_ofCondition {s : Schema α} {c d : Condition} (hfits : c.Fits s ↔ d.Fits s)
    (hmeets : ∀ r, c.Meets s r ↔ d.Meets s r) :
    ((fun φ r => φ.holds r) <$> ofCondition s c).toOption =
      ((fun φ r => φ.holds r) <$> ofCondition s d).toOption := by
  rw [← ofCondition_succeeds_iff, ← ofCondition_succeeds_iff] at hfits
  cases hc : ofCondition s c with
  | error e =>
    cases hd : ofCondition s d with
    | error e' => rfl
    | ok ψ =>
      obtain ⟨φ, hφ⟩ := hfits.2 ⟨ψ, hd⟩
      cases hc.symm.trans hφ
  | ok φ =>
    obtain ⟨ψ, hψ⟩ := hfits.1 ⟨φ, hc⟩
    rw [hψ]
    refine congrArg some (funext fun r => ?_)
    rw [Bool.eq_iff_iff, ofCondition_meets hc r, ofCondition_meets hψ r]
    exact hmeets r

/-- What `in` accepts depends on which segments there are, but not on their order and number. -/
theorem Filter.sameMatches_among {s : Schema α} {f : Filter} {raw raw' : String}
    (hfilters : f.filters = []) (ho : Operator.ofText? f.operator = some .among)
    (hvalue : f.value = some raw)
    (hsegments : ∀ t, t ∈ Condition.segments raw ↔ t ∈ Condition.segments raw') :
    f.SameMatches s { f with value := some raw' } := by
  have hf := makes_of_operator hfilters ho hvalue
  have hg := makes_of_operator (f := { f with value := some raw' }) hfilters ho rfl
  have hsame := Formula.toOption_ofCondition (s := s)
    (Condition.fits_among (c := ⟨Text.trim f.field, .among, some raw, f.caseSensitive⟩)
      rfl rfl hsegments)
    (Condition.meets_among rfl rfl hsegments)
  rw [SameMatches, Predicate.view_leaf hf, Predicate.view_leaf hg]
  by_cases hblank : Text.trim f.field = ""
  · rw [if_pos hblank, if_pos hblank]
  · rw [if_neg hblank, if_neg hblank, Except.toOption_map, hsame, ← Except.toOption_map]
    rfl

/-! ## The result -/

namespace Predicate

/-- Every operand has segments. A node without children that compares by `in` comes to the group
that joins `eq` of each trimmed segment by `or`, and accepts the same records for any operand with
the same trimmed segments. One that compares by `between` comes, if there are two segments, to the
group that joins `gte` the first and `lte` the second by `and`; otherwise it is refused for its
operand once its field is found. -/
theorem ofFilter_segments {s : Schema α} {f : Filter} {raw : String} (hfilters : f.filters = [])
    (hvalue : f.value = some raw) :
    (∃! parts, Condition.SplitsInto raw parts) ∧ ∀ parts, Condition.SplitsInto raw parts →
      (Operator.ofText? f.operator = some .among →
        f.SameResult s (.group "or" (parts.map fun part => f.sibling "eq" (Text.trim part))) ∧
        ∀ raw' parts', Condition.SplitsInto raw' parts' →
          (∀ t, t ∈ parts.map Text.trim ↔ t ∈ parts'.map Text.trim) →
          f.SameMatches s { f with value := some raw' }) ∧
      (Operator.ofText? f.operator = some .between →
        (∀ low high, parts = [low, high] → f.SameResult s
          (.group "and" [f.sibling "gte" (Text.trim low), f.sibling "lte" (Text.trim high)])) ∧
        (parts.length ≠ 2 → ofFilter s f =
          if Text.trim f.field = "" then .ok always
          else s.resolve (Text.trim f.field) >>= fun _ =>
            throw (.malformedOperand (Text.trim f.field) "between" raw))) := by
  refine ⟨Condition.existsUnique_splitsInto raw, fun parts hparts => ?_⟩
  have hsegments := Condition.segments_eq hparts
  have hmakes : ∀ {o : Operator}, Operator.ofText? f.operator = some o →
      f.Makes ⟨Text.trim f.field, o, some raw, f.caseSensitive⟩ :=
    fun ho => Filter.makes_of_operator hfilters ho hvalue
  have hsibling : ∀ {word : String} {o : Operator}, Operator.ofText? word = some o →
      ∀ operand, (f.sibling word operand).Makes
        ⟨Text.trim f.field, o, some operand, f.caseSensitive⟩ :=
    fun ho operand => Filter.makes_of_operator rfl ho rfl
  refine ⟨fun ho => ⟨?_, fun raw' parts' hparts' hsame => ?_⟩, fun ho => ⟨?_, fun hlength => ?_⟩⟩
  · have heq : Operator.ofText? "eq" = some .eq := by decide
    let eqs : List Condition := parts.map fun part =>
      ⟨Text.trim f.field, .eq, some (Text.trim part), f.caseSensitive⟩
    have heqs : List.Forall₂ Filter.Makes
        (parts.map fun part => f.sibling "eq" (Text.trim part)) eqs := by
      rw [List.forall₂_map_left_iff, List.forall₂_map_right_iff, List.forall₂_same]
      exact fun part _ => hsibling heq (Text.trim part)
    refine sameResult_group (l := .or) (hmakes ho) heqs ?_ ?_ rfl ?_
    · simp [eqs]
    · simpa [eqs] using hparts.1
    · rw [Formula.ofCondition_among rfl rfl, hsegments, List.map_map]
      rfl
  · refine Filter.sameMatches_among hfilters ho hvalue ?_
    rwa [hsegments, Condition.segments_eq hparts']
  · rintro low high rfl
    have hgte : Operator.ofText? "gte" = some .gte := by decide
    have hlte : Operator.ofText? "lte" = some .lte := by decide
    refine sameResult_group (l := .and) (hmakes ho)
      (.cons (hsibling hgte (Text.trim low)) (.cons (hsibling hlte (Text.trim high)) .nil))
      (by simp) (by simp) rfl ?_
    exact Formula.ofCondition_between rfl rfl hsegments
  · have hlength' : (Condition.segments raw).length ≠ 2 := by simpa [hsegments] using hlength
    rw [ofFilter_leaf hfilters (hmakes ho).2]
    by_cases hblank : Text.trim f.field = ""
    · rw [if_pos hblank, if_pos hblank]
      rfl
    · rw [if_neg hblank, if_neg hblank, Option.elim,
        Formula.ofCondition_malformed rfl rfl hlength']
      cases s.resolve (Text.trim f.field) <;> rfl

/-- People listed by name, with blanks, an empty segment and a repetition, and a range of ages with
three ends. -/
theorem ofFilter_segments_people : Filter.SameResult Person.schema
    ⟨"name", " IN ", some " Ann,, bob ,Ann", some "xor", false, []⟩
    (.group "or" [⟨"name", "eq", some "Ann", none, false, []⟩,
      ⟨"name", "eq", some "", none, false, []⟩, ⟨"name", "eq", some "bob", none, false, []⟩,
      ⟨"name", "eq", some "Ann", none, false, []⟩]) ∧
    ofFilter Person.schema ⟨" Age", "between", some "1,2,3", none, true, []⟩ =
      .error (.malformedOperand "Age" "between" "1,2,3") :=
  ⟨(((ofFilter_segments rfl rfl).2 [" Ann", "", " bob ", "Ann"] (by decide)).1 (by decide)).1,
    (((ofFilter_segments rfl rfl).2 ["1", "2", "3"] (by decide)).2 (by decide)).2 (by decide)⟩

end Predicate

end RecordQuery
