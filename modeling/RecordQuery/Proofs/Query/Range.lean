import RecordQuery.Proofs.Filter.Segments
import RecordQuery.Proofs.Query.RowOrder
import RecordQuery.Proofs.Value.Agreement

/-!
# Ranges in the order of rows

A filter for a range of a field and the order of the same field fit together: what lies below a
bound comes before what does not, and the records that a range filter accepts stand side by side in
the order (`RowOrder.ranges_contiguous`). Whole numbers and NaNs must not be mixed in the field for
this, as sorting does not tell these apart (`RowOrder.range_interrupted`).

That records stand side by side is said by `rows.filter p <:+: rows`: those that are accepted are,
in their order, one part of the list.
-/

namespace RecordQuery

variable {α : Type}

/-! ## Parts of lists -/

/-- Where no rejected element stands before an accepted one, the accepted ones come first. -/
theorem filter_front {p : α → Bool} {xs : List α}
    (h : xs.Pairwise fun a b => p b = true → p a = true) : xs.filter p <+: xs := by
  induction xs with
  | nil => exact List.nil_prefix
  | cons x xs ih =>
    obtain ⟨hx, hxs⟩ := List.pairwise_cons.1 h
    by_cases hp : p x = true
    · rw [List.filter_cons_of_pos hp]
      exact List.prefix_cons_inj x |>.2 (ih hxs)
    · have hnone : xs.filter p = [] := List.filter_eq_nil_iff.2 fun b hb hpb => hp (hx b hb hpb)
      rw [List.filter_cons_of_neg hp, hnone]
      exact List.nil_prefix

/-- Where no rejected element stands between two accepted ones, the accepted ones are one part. -/
theorem filter_part {p : α → Bool} {xs : List α}
    (h : ∀ a b c, [a, b, c].Sublist xs → p a = true → p c = true → p b = true) :
    xs.filter p <:+: xs := by
  induction xs with
  | nil => exact List.nil_infix
  | cons x xs ih =>
    by_cases hp : p x = true
    · have hrest : xs.Pairwise fun b c => p c = true → p b = true :=
        List.pairwise_iff_forall_sublist.2 fun hbc => h x _ _ (hbc.cons_cons x) hp
      rw [List.filter_cons_of_pos hp]
      exact (List.prefix_cons_inj x |>.2 (filter_front hrest)).isInfix
    · rw [List.filter_cons_of_neg hp]
      exact (ih fun a b c habc => h a b c (habc.cons x)).trans (List.suffix_cons x xs).isInfix

/-! ## Comparisons of one field -/

/-- The node that compares a field by an operator. -/
def Filter.comparing (name word raw : String) (sensitive : Bool) : Filter :=
  ⟨name, word, some raw, none, sensitive, []⟩

/-- The operators that ask for a range. -/
def Operator.IsRange (o : Operator) : Prop :=
  o = .lt ∨ o = .lte ∨ o = .gt ∨ o = .gte ∨ o = .between

theorem exists_of_rangeWord {word : String} (h : word ∈ ["lt", "lte", "gt", "gte", "between"]) :
    ∃ o, Operator.ofText? word = some o ∧ o.IsRange := by
  simp only [List.mem_cons, List.not_mem_nil, or_false] at h
  rcases h with rfl | rfl | rfl | rfl | rfl
  · exact ⟨.lt, by decide, .inl rfl⟩
  · exact ⟨.lte, by decide, .inr (.inl rfl)⟩
  · exact ⟨.gt, by decide, .inr (.inr (.inl rfl))⟩
  · exact ⟨.gte, by decide, .inr (.inr (.inr (.inl rfl)))⟩
  · exact ⟨.between, by decide, .inr (.inr (.inr (.inr rfl)))⟩

theorem Test.isRange_of_ofCondition {kind : Kind} {c : Condition} {t : Test}
    (ho : c.operator.IsRange) (h : Test.ofCondition kind c = .ok t) : t.IsRange := by
  unfold Test.ofCondition at h
  rcases ho with ho | ho | ho | ho | ho <;>
    simp only [ho, Operator.isTextOnly, Bool.false_and, Bool.false_eq_true, if_false,
      Except.map_eq_ok] at h
  · obtain ⟨w, -, rfl⟩ := h
    trivial
  · obtain ⟨w, -, rfl⟩ := h
    trivial
  · obtain ⟨w, -, rfl⟩ := h
    trivial
  · obtain ⟨w, -, rfl⟩ := h
    trivial
  · split at h
    · simp only [Except.bind_eq_ok, Except.pure_eq_ok] at h
      obtain ⟨lower, -, upper, -, rfl⟩ := h
      trivial
    · cases h

section

variable {s : Schema α} {name raw : String} {sensitive : Bool} {field : Field α}

/-- A comparison that does not fold the case of texts tests the values of the field. -/
theorem Predicate.accepts_of_comparing {word : String} {o : Operator} {p : Predicate α}
    (hname : Text.trim name ≠ "") (hfield : s.get? (Text.trim name) = some field)
    (hcase : field.kind = .text → sensitive = true) (ho : Operator.ofText? word = some o)
    (hp : ofFilter s (.comparing name word raw sensitive) = .ok p) :
    ∃ t, Test.ofCondition field.kind ⟨Text.trim name, o, some raw, sensitive⟩ = .ok t ∧
      ∀ r, p.accepts r = t.holds (field.read r) := by
  let c : Condition := ⟨Text.trim name, o, some raw, sensitive⟩
  have hown : (Filter.comparing name word raw sensitive).condition? = .ok (some c) := by
    rw [(Filter.makes_of_operator (f := .comparing name word raw sensitive) rfl ho rfl).2]
    exact congrArg Except.ok (if_neg hname)
  have hfold : c.foldsCase field.kind = false := by
    by_cases htext : field.kind = .text
    · simp [c, Condition.foldsCase, hcase htext]
    · simp [Condition.foldsCase, htext]
  rw [ofFilter_leaf rfl hown, Option.elim, Formula.ofCondition_known (c := c) hfield, hfold,
    Functor.map_map, Except.map_eq_ok] at hp
  obtain ⟨t, ht, rfl⟩ := hp
  exact ⟨t, ht, fun r => rfl⟩

/-- What lies on the two sides of a bound is sorted accordingly. -/
theorem Predicate.sortCompare_of_accepts {below above : String} {p q : Predicate α}
    (hname : Text.trim name ≠ "") (hfield : s.get? (Text.trim name) = some field)
    (hcase : field.kind = .text → sensitive = true)
    (hwords : (below = "lt" ∧ above = "gte") ∨ (below = "lte" ∧ above = "gt"))
    (hp : ofFilter s (.comparing name below raw sensitive) = .ok p)
    (hq : ofFilter s (.comparing name above raw sensitive) = .ok q) {a b : α}
    (ha : p.accepts a = true) (hb : q.accepts b = true) :
    Value.sortCompare (field.read a) (field.read b) = .lt := by
  have hlt : Operator.ofText? "lt" = some .lt := by decide
  have hgte : Operator.ofText? "gte" = some .gte := by decide
  have hlte : Operator.ofText? "lte" = some .lte := by decide
  have hgt : Operator.ofText? "gt" = some .gt := by decide
  rcases hwords with ⟨rfl, rfl⟩ | ⟨rfl, rfl⟩
  · obtain ⟨t, ht, hpt⟩ := accepts_of_comparing hname hfield hcase hlt hp
    obtain ⟨u, hu, hqu⟩ := accepts_of_comparing hname hfield hcase hgte hq
    obtain ⟨w, hw, rfl⟩ := Except.map_eq_ok.1 ht
    obtain ⟨w', hw', rfl⟩ := Except.map_eq_ok.1 hu
    -- both conditions read the operand in the same way
    obtain rfl : w = w' := Except.ok.inj (hw.symm.trans hw')
    rw [hpt] at ha
    rw [hqu] at hb
    exact Test.sortCompare_of_holds (.inl ⟨ha, hb⟩)
  · obtain ⟨t, ht, hpt⟩ := accepts_of_comparing hname hfield hcase hlte hp
    obtain ⟨u, hu, hqu⟩ := accepts_of_comparing hname hfield hcase hgt hq
    obtain ⟨w, hw, rfl⟩ := Except.map_eq_ok.1 ht
    obtain ⟨w', hw', rfl⟩ := Except.map_eq_ok.1 hu
    obtain rfl : w = w' := Except.ok.inj (hw.symm.trans hw')
    rw [hpt] at ha
    rw [hqu] at hb
    exact Test.sortCompare_of_holds (.inr ⟨ha, hb⟩)

/-- What lies between two values of a range lies in the range, whichever of the two comes first. -/
theorem Predicate.accepts_of_between {word : String} {o : Operator} {p : Predicate α}
    (hname : Text.trim name ≠ "") (hfield : s.get? (Text.trim name) = some field)
    (hcase : field.kind = .text → sensitive = true) (ho : Operator.ofText? word = some o)
    (hrange : o.IsRange) (hp : ofFilter s (.comparing name word raw sensitive) = .ok p)
    {d : Direction} {a b c : α} (ha : p.accepts a = true) (hc : p.accepts c = true)
    (hab : (OrderKey.compare ⟨field.read, d⟩ a b).isLE)
    (hbc : (OrderKey.compare ⟨field.read, d⟩ b c).isLE)
    (hblur : ¬ Value.Blurred (field.read a) (field.read b))
    (hblur' : ¬ Value.Blurred (field.read b) (field.read c)) : p.accepts b = true := by
  obtain ⟨t, ht, hpt⟩ := accepts_of_comparing hname hfield hcase ho hp
  have htest := Test.isRange_of_ofCondition hrange ht
  rw [hpt] at *
  cases d with
  | asc => exact htest.holds_of_between ha hc hab hbc hblur hblur'
  | desc =>
    rw [OrderKey.compare_eq] at hab hbc
    exact htest.holds_of_between hc ha hbc hab (mt Value.Blurred.symm hblur')
      (mt Value.Blurred.symm hblur)

/-! ## The order of one field -/

namespace RowOrder

/-- The order by one field. -/
def byField (field : Field α) (d : Direction) : RowOrder α := ⟨[⟨field.read, d⟩]⟩

theorem ofKeys_single (hfield : s.get? (Text.trim name) = some field) {direction : String}
    {d : Direction} (hd : Direction.ofText? direction = some d) :
    ofKeys s [⟨name, direction⟩] = .ok (byField field d) :=
  ofKeys_eq_ok.2 (.cons (keyOf_eq_ok.2 ⟨field, d, hfield, hd, rfl⟩) .nil)

theorem compare_byField (field : Field α) (d : Direction) (a b : α) :
    (byField field d).compare a b = OrderKey.compare ⟨field.read, d⟩ a b :=
  Ordering.then_eq

/-- Of rows in order a range filter accepts a part, unless a NaN meets a whole number. -/
theorem filter_part_of_ordered {word : String} {o : Operator} {p : Predicate α}
    (hname : Text.trim name ≠ "") (hfield : s.get? (Text.trim name) = some field)
    (hcase : field.kind = .text → sensitive = true) (ho : Operator.ofText? word = some o)
    (hrange : o.IsRange) (hp : Predicate.ofFilter s (.comparing name word raw sensitive) = .ok p)
    {d : Direction} {rows : List α}
    (hrows : rows.Pairwise fun a b => ((byField field d).compare a b).isLE)
    (hblur : ∀ a ∈ rows, ∀ b ∈ rows, ¬ Value.Blurred (field.read a) (field.read b)) :
    rows.filter p.accepts <:+: rows := by
  refine filter_part fun a b c habc ha hc => ?_
  have hpair := hrows.sublist habc
  simp only [compare_byField, List.pairwise_cons, List.mem_cons, List.not_mem_nil, or_false,
    forall_eq_or_imp, forall_eq] at hpair
  obtain ⟨⟨hab, -⟩, hbc, -⟩ := hpair
  have hmem {x : α} (hx : x ∈ [a, b, c]) : x ∈ rows := habc.subset hx
  exact Predicate.accepts_of_between hname hfield hcase ho hrange hp ha hc hab hbc
    (hblur a (hmem (by simp)) b (hmem (by simp))) (hblur b (hmem (by simp)) c (hmem (by simp)))

/-- A field of one kind does not mix NaNs with whole numbers, and it is sorted by its order. -/
theorem ordered_sort_byField (hfits : ∃ kind, ∀ r, (field.read r).Fits kind) (d : Direction)
    (rows : List α) :
    (((byField field d).sort rows).Pairwise fun a b => ((byField field d).compare a b).isLE) ∧
      ∀ a b, ¬ Value.Blurred (field.read a) (field.read b) := by
  have htyped : (byField field d).Typed := fun k hk => by
    rw [List.mem_singleton.1 hk]
    exact hfits
  refine ⟨(htyped.stablySorted_sort rows).ordered, fun a b => ?_⟩
  obtain ⟨kind, hkind⟩ := hfits
  exact Value.not_blurred_of_fits (hkind a) (hkind b)

/-- Filters and orders of a field that holds no texts, or whose texts are compared with regard to
case, fit together. A record on one side of a bound comes before one on the other side, and where
the order descends behind it. Of rows in either order a range filter accepts one part, unless the
field mixes NaNs with whole numbers; so it does of sorted rows if the field is of one kind. -/
theorem ranges_contiguous (hname : Text.trim name ≠ "")
    (hfield : s.get? (Text.trim name) = some field)
    (hcase : field.kind = .text → sensitive = true) :
    ∃ asc desc : RowOrder α, ofKeys s [⟨name, "asc"⟩] = .ok asc ∧
      ofKeys s [⟨name, "desc"⟩] = .ok desc ∧ ∀ raw : String,
      (∀ below above, (below = "lt" ∧ above = "gte") ∨ (below = "lte" ∧ above = "gt") →
        ∀ p q : Predicate α,
          Predicate.ofFilter s (.comparing name below raw sensitive) = .ok p →
          Predicate.ofFilter s (.comparing name above raw sensitive) = .ok q →
          ∀ a b, p.accepts a = true → q.accepts b = true →
            asc.compare a b = .lt ∧ desc.compare a b = .gt) ∧
      ∀ word ∈ ["lt", "lte", "gt", "gte", "between"], ∀ p : Predicate α,
        Predicate.ofFilter s (.comparing name word raw sensitive) = .ok p →
        ∀ o, o = asc ∨ o = desc → ∀ rows : List α,
          ((rows.Pairwise fun a b => (o.compare a b).isLE) →
            (∀ a ∈ rows, ∀ b ∈ rows, ¬ Value.Blurred (field.read a) (field.read b)) →
            rows.filter p.accepts <:+: rows) ∧
          ((∃ kind, ∀ r, (field.read r).Fits kind) →
            (o.sort rows).filter p.accepts <:+: o.sort rows) := by
  have hasc : Direction.ofText? "asc" = some .asc := by decide
  have hdesc : Direction.ofText? "desc" = some .desc := by decide
  refine ⟨byField field .asc, byField field .desc, ofKeys_single hfield hasc,
    ofKeys_single hfield hdesc, fun raw => ⟨fun below above hwords p q hp hq a b ha hb => ?_,
      fun word hword p hp o ho rows => ?_⟩⟩
  · have hlt := Predicate.sortCompare_of_accepts hname hfield hcase hwords hp hq ha hb
    rw [compare_byField, compare_byField, OrderKey.compare, OrderKey.compare, hlt]
    exact ⟨rfl, rfl⟩
  · obtain ⟨op, hop, hrange⟩ := exists_of_rangeWord hword
    obtain ⟨d, rfl⟩ : ∃ d, o = byField field d := ho.elim (⟨_, ·⟩) (⟨_, ·⟩)
    refine ⟨filter_part_of_ordered hname hfield hcase hop hrange hp, fun hfits => ?_⟩
    obtain ⟨hsorted, hblur⟩ := ordered_sort_byField hfits d rows
    exact filter_part_of_ordered hname hfield hcase hop hrange hp hsorted
      fun a _ b _ => hblur a b

end RowOrder

end

/-- People by falling score, of whom those with a high one are asked for. -/
theorem RowOrder.ranges_contiguous_scores : ∃ p desc,
    Predicate.ofFilter Person.schema (.comparing " Score" "gte" "88.5" false) = .ok p ∧
    ofKeys Person.schema [⟨" Score", "desc"⟩] = .ok desc ∧
      (desc.sort Person.people).filter p.accepts <:+: desc.sort Person.people := by
  obtain ⟨p, hp⟩ : ∃ p, Predicate.ofFilter Person.schema
      (.comparing " Score" "gte" "88.5" false) = .ok p := ⟨_, rfl⟩
  obtain ⟨field, hfield, hkind⟩ : ∃ field, Person.schema.get? (Text.trim " Score") = some field ∧
      field.kind = .float := ⟨_, rfl, rfl⟩
  have htyped := Person.schema_typed field (Schema.mem_of_get? hfield)
  obtain ⟨asc, desc, -, hdesc, hranges⟩ := ranges_contiguous (by decide) hfield
    (fun htext => absurd (hkind.symm.trans htext) (by decide))
  have hpart := (hranges "88.5").2 "gte" (by decide) p hp desc (.inr rfl) Person.people
  exact ⟨p, desc, hp, hdesc, hpart.2 ⟨_, htyped⟩⟩

/-- Numbers as records. -/
def sampleNumbers : Schema Value := .ofFields "number" [⟨"n", .int, id⟩]

/-- Two whole numbers with a NaN between them, which sorting does not tell from them, are in order.
A filter for what is at least one accepts the whole numbers only. -/
theorem RowOrder.range_interrupted : ¬ ∀ (α : Type) (s : Schema α) (name raw : String)
    (sensitive : Bool) (field : Field α), Text.trim name ≠ "" →
    s.get? (Text.trim name) = some field → (field.kind = .text → sensitive = true) →
    ∀ word ∈ ["lt", "lte", "gt", "gte", "between"], ∀ (p : Predicate α) (asc : RowOrder α),
    Predicate.ofFilter s (.comparing name word raw sensitive) = .ok p →
    ofKeys s [⟨name, "asc"⟩] = .ok asc → ∀ rows : List α,
      (asc.sort rows).filter p.accepts <:+: asc.sort rows := by
  intro h
  let rows : List Value := [.int 1, .float ⟨0x7ff8000000000000⟩, .int 1]
  obtain ⟨p, hp, haccepted⟩ : ∃ p,
      Predicate.ofFilter sampleNumbers (.comparing "n" "gte" "1" false) = .ok p ∧
        rows.filter p.accepts = [.int 1, .int 1] := ⟨_, rfl, by decide +kernel⟩
  have hasc : ofKeys sampleNumbers [⟨"n", "asc"⟩] = .ok (byField ⟨"n", .int, id⟩ .asc) := rfl
  have hsorted : (byField ⟨"n", .int, id⟩ .asc).sort rows = rows := by
    rw [sort_eq_mergeSort]
    exact List.mergeSort_of_pairwise (by decide +kernel)
  have hpart := h Value sampleNumbers "n" "1" false _ (by decide) rfl (by decide) "gte" (by decide)
    p _ hp hasc rows
  rw [hsorted, haccepted] at hpart
  exact absurd hpart (by decide +kernel)

end RecordQuery
