import RecordQuery.Proofs.Filter.CaseFolding
import RecordQuery.Proofs.Query.Operand
import RecordQuery.Proofs.Query.RoundTrip
import RecordQuery.Proofs.Value.Order
import RecordQuery.Record.Inference

/-!
# Searching a record by its own value

The scalar that a record holds under a key can be submitted as the operand of a filter. Record and
filter read it in different ways: the record converts the scalar itself, and the filter takes it as
a text (`Json.operand`) and reads that as a value of the field's kind. Both come to the same value
for every kind but text (`Value.ofText?_operand`), for doubles because a written double is read
back.

A text field has the scalar as a document writes it, which for some numbers is not how an operand
writes them. So a record is found by its own value unless the field is a text and the value is such
a number (`Record.accepts_ownValue_iff`).
-/

namespace RecordQuery

open Json (Tree)

/-! ## Values -/

/-- What a record reads from a scalar as a kind other than text, if it is of that kind, is read from
the operand that the scalar is taken as. -/
theorem Value.ofText?_operand {kind : Kind} {v : Json} (hv : v.IsScalar)
    (hnull : Record.convert kind v ≠ .null) (htext : kind ≠ .text) :
    ofText? kind v.operand = some (Record.convert kind v) := by
  cases v with
  | null | array | object => cases hv
  | string s =>
    have hconvert : Record.convert kind (.string s) = (ofText? kind s).getD .null := rfl
    rw [hconvert] at hnull ⊢
    show ofText? kind s = _
    cases hs : ofText? kind s with
    | none => exact absurd (by rw [hs]; rfl) hnull
    | some w => rfl
  | bool b =>
    cases kind with
    | bool => cases b <;> decide +kernel
    | text => exact absurd rfl htext
    | int | float | date | datetime | uuid => exact absurd rfl hnull
  | number n =>
    have htrim : Text.trim (operandOfNumber n) = operandOfNumber n :=
      (Json.Number.plain_operand hv).trim_eq
    have hoperand : (Json.number n).operand = operandOfNumber n := rfl
    cases kind with
    | int =>
      have hconvert : Record.convert .int (.number n) = (n.int64?.map Value.int).getD .null := rfl
      rw [hconvert] at hnull ⊢
      cases hn : n.int64? with
      | none => exact absurd (by rw [hn]; rfl) hnull
      | some i =>
        simp only [ofText?, hoperand, htrim, Json.Number.integer?_operand hn]
        rfl
    | float =>
      simp only [ofText?, hoperand, htrim, Json.Number.binary64?_operand hv]
      rfl
    | text => exact absurd rfl htext
    | bool | date | datetime | uuid => exact absurd rfl hnull

/-- A text field has a scalar as it is written in a document, without quotes. Where this is not the
operand that the scalar is taken as, the two differ in lower case as well. -/
theorem Record.convert_text {v : Json} (hv : v.IsScalar) : ∃ t, convert .text v = .text t ∧
    (t = v.operand ↔
      ∀ n, v = .number n → n.int64? = none → operandOfNumber n = n.text) ∧
    (t ≠ v.operand → Text.lowercase t ≠ Text.lowercase v.operand) := by
  cases v with
  | null | array | object => cases hv
  | string s => exact ⟨s, rfl, iff_of_true rfl nofun, fun h => absurd rfl h⟩
  | bool b => exact ⟨_, rfl, iff_of_true rfl nofun, fun h => absurd rfl h⟩
  | number n =>
    refine ⟨n.text, rfl, ?_, ?_⟩
    · show n.text = operandOfNumber n ↔ _
      cases hn : n.int64? with
      | some i => simp [Json.Number.operand_eq_text hn, hn]
      | none => simp [hn, eq_comm]
    · show n.text ≠ operandOfNumber n → Text.lowercase n.text ≠ Text.lowercase (operandOfNumber n)
      rw [(Json.Number.plain_text hv).lowercase_eq, (Json.Number.plain_operand hv).lowercase_eq]
      exact id

/-! ## Filters -/

/-- The document of a filter that asks for the records with a value under a key; whether case counts
may be left open. -/
def ownFilter (key : String) (v : Json) (sensitive : Option Bool) : Json :=
  .object ([("field", .string key), ("operator", .string "eq"), ("value", v)] ++
    (sensitive.map fun b => ("caseSensitive", Json.bool b)).toList)

theorem Filter.ofTree_ownFilter {v : Json} (hv : v.IsScalar) (key : String)
    (sensitive : Option Bool) : ofTree (Tree.ofJson (ownFilter key v sensitive)) =
      .ok ⟨key, "eq", some v.operand, none, sensitive.getD false, []⟩ := by
  obtain ⟨hfield, hoperator, -, -, hcase⟩ := puts_scalar
  have hvalue : ∀ node rest, ofMembers node (.member ⟨.ok "value", 0, 0⟩ 0 (Tree.ofJson v) 0 rest) =
      ofMembers { node with value := some v.operand } rest := by
    intro node rest
    rw [ofMembers]
    show (operandOfTree 0 (Tree.ofJson v) >>= fun s => ofMembers { node with value := s } rest) = _
    rw [Json.operandOfTree_ofJson hv]
    rfl
  have hfirst : ∀ rest, ofMembers neutral
      (.member ⟨.ok "field", 0, 0⟩ 0 (.string key 0) 0
        (.member ⟨.ok "operator", 0, 0⟩ 0 (.string "eq" 0) 0
          (.member ⟨.ok "value", 0, 0⟩ 0 (Tree.ofJson v) 0 rest))) =
      ofMembers ⟨key, "eq", some v.operand, none, false, []⟩ rest := by
    intro rest
    refine (hfield key rfl .string).trans ?_
    show ofMembers _ (.member ⟨.ok "operator", 0, 0⟩ 0 (.string "eq" 0) 0 _) = _
    refine (hoperator "eq" rfl .string).trans ?_
    exact hvalue _ rest
  cases sensitive with
  | none => exact hfirst (.done 0)
  | some b =>
    refine (hfirst (.member ⟨.ok "caseSensitive", 0, 0⟩ 0 (.bool b 0) 0 (.done 0))).trans ?_
    exact hcase b rfl .bool

theorem Filter.condition?_ownFilter {key : String} (hkey : Text.trim key = key) (hblank : key ≠ "")
    (raw : String) (sensitive : Bool) :
    condition? ⟨key, "eq", some raw, none, sensitive, []⟩ =
      .ok (some ⟨key, .eq, some raw, sensitive⟩) := by
  have hoperator : Operator.ofText? "eq" = some .eq := by decide
  have hword : Text.trim "eq" ≠ "" := by decide
  have hcompares : hasComparison ⟨key, "eq", some raw, none, sensitive, []⟩ = true :=
    hasComparison_iff.2 ⟨by rwa [hkey], hword⟩
  refine condition?_eq_ok.2 (.inr ⟨hcompares, .eq, hoperator, fun _ => rfl, ?_⟩)
  rw [hkey]

/-! ## Comparing -/

namespace Condition

variable {c : Condition}

theorem view_text (t : String) : c.view .text (.text t) = .text (c.needle .text t) := by
  rw [view_eq, needle]
  split <;> rfl

theorem view_of_ne_text {kind : Kind} (h : kind ≠ .text) (v : Value) : c.view kind v = v :=
  if_neg fun h' => h h'.1

/-- What `eq` asks of a record whose operand can be read. -/
theorem meets_eq_iff {α : Type} {s : Schema α} {field : Field α} {raw : String} {w : Value} {r : α}
    (hop : c.operator = .eq) (hfield : s.get? c.field = some field) (hraw : c.value = some raw)
    (hw : Value.ofText? field.kind raw = some w) :
    c.Meets s r ↔
      (c.view field.kind (field.read r)).compare? (c.view field.kind w) = some .eq := by
  unfold Meets
  simp [hop, hfield, hraw, operand?, hw, Operator.Asks]

/-- Two texts of which lower case forms differ compare as equal only if they are the same. -/
theorem compare?_view_text_iff {t u : String}
    (h : t ≠ u → Text.lowercase t ≠ Text.lowercase u) :
    (c.view .text (.text t)).compare? (c.view .text (.text u)) = some .eq ↔ t = u := by
  rw [view_text, view_text, Value.compare?_text_eq_iff, Value.text.injEq, needle, needle]
  split
  · exact ⟨fun heq => by_contra fun hne => h hne heq, congrArg Text.lowercase⟩
  · exact Iff.rfl

end Condition

/-- The filter that asks for a record's own value, read as a kind to something that compares, is
made ready for a schema that reads the key as this kind. It accepts the record unless the kind is
text and the value is a number that documents and operands write differently. -/
theorem Record.accepts_ownValue_iff {s : Schema Record} {field : Field Record} {key : String}
    {r : Record} {v : Json} (hv : v.IsScalar) (hmember : r.get? key = some v)
    (hkey : Text.trim key = key) (hblank : key ≠ "") (hfield : s.get? key = some field)
    (hread : ∀ r : Record, field.read r = r.read key field.kind)
    (hnull : r.read key field.kind ≠ .null)
    (hnan : ∀ x, r.read key field.kind = .float x → x.isNaN = false) (sensitive : Option Bool) :
    ∃ node p, Filter.ofTree (Tree.ofJson (ownFilter key v sensitive)) = .ok node ∧
      Predicate.ofFilter s node = .ok p ∧
      (p.accepts r = true ↔
        (field.kind = .text →
          ∀ n, v = .number n → n.int64? = none → operandOfNumber n = n.text)) := by
  let c : Condition := ⟨key, .eq, some v.operand, sensitive.getD false⟩
  have hvalue : r.read key field.kind = convert field.kind v := by
    rw [read, hmember]
  rw [hvalue] at hnull hnan
  obtain ⟨w, hw⟩ : ∃ w, Value.ofText? field.kind v.operand = some w := by
    by_cases htext : field.kind = .text
    · rw [htext]
      exact Value.readable_text _
    · exact ⟨_, Value.ofText?_operand hv hnull htext⟩
  obtain ⟨φ, hφ⟩ : ∃ φ, Formula.ofCondition s c = .ok φ :=
    Formula.ofCondition_succeeds_iff.2 ⟨field, hfield, w, hw⟩
  refine ⟨_, ⟨some φ⟩, Filter.ofTree_ownFilter hv key sensitive,
    Predicate.ofFilter_single rfl (Filter.condition?_ownFilter hkey hblank _ _) hφ, ?_⟩
  show φ.holds r = true ↔ _
  rw [Formula.ofCondition_meets hφ r, Condition.meets_eq_iff (c := c) rfl hfield rfl hw, hread,
    hvalue]
  by_cases htext : field.kind = .text
  · obtain ⟨t, ht, hsame, hfold⟩ := convert_text hv
    rw [htext] at hw ⊢
    cases hw
    rw [ht, Condition.compare?_view_text_iff hfold, hsame, forall_prop_of_true rfl]
  · rw [Value.ofText?_operand hv hnull htext] at hw
    cases hw
    rw [Condition.view_of_ne_text htext]
    exact iff_of_true (Value.compare?_self hnull hnan) fun h => absurd h htext

theorem Record.accepts_ownValue_tenth : ∃ node p,
    Filter.ofTree (Tree.ofJson (ownFilter "share" (.number (.float ⟨0x3FB999999999999A⟩)) none)) =
      .ok node ∧
    Predicate.ofFilter (Schema.ofFields title [field "share" .text]) node = .ok p ∧
      p.accepts ⟨[("share", .number (.float ⟨0x3FB999999999999A⟩))]⟩ = true := by
  obtain ⟨node, p, hnode, hp, haccepts⟩ := accepts_ownValue_iff
    (s := Schema.ofFields title [field "share" .text]) (v := .number (.float ⟨0x3FB999999999999A⟩))
    (show Binary64.isFinite ⟨0x3FB999999999999A⟩ = true by decide)
    (show get? ⟨[("share", .number (.float ⟨0x3FB999999999999A⟩))]⟩ "share" = _ from rfl)
    (by decide) (by decide) rfl (fun _ => rfl) (by decide +kernel) (fun x hx => nomatch hx) none
  refine ⟨node, p, hnode, hp, haccepts.2 fun _ n hn _ => ?_⟩
  cases hn
  decide +kernel

/-- A text field has the greatest whole number of 64 bits with all its digits, and as an operand it
is rounded to a double. -/
theorem Record.ownValue_not_accepted : ¬ ∀ (s : Schema Record) (field : Field Record)
    (key : String) (r : Record) (v : Json), v.IsScalar → r.get? key = some v →
    Text.trim key = key → key ≠ "" → s.get? key = some field →
    (∀ r : Record, field.read r = r.read key field.kind) → r.read key field.kind ≠ .null →
    (∀ x, r.read key field.kind = .float x → x.isNaN = false) → ∀ sensitive : Option Bool,
    ∃ node p, Filter.ofTree (Tree.ofJson (ownFilter key v sensitive)) = .ok node ∧
      Predicate.ofFilter s node = .ok p ∧ p.accepts r = true := by
  intro h
  let v : Json := .int 18446744073709551615
  let s : Schema Record := .ofFields title [field "id" .text]
  obtain ⟨node, p, hnode, hp, haccepts⟩ := h s (field "id" .text) "id" ⟨[("id", v)]⟩ v trivial rfl
    (by decide) (by decide) rfl (fun _ => rfl) (by decide +kernel) (fun x hx => nomatch hx) none
  have hscalar : v.IsScalar := trivial
  cases (Filter.ofTree_ownFilter hscalar "id" none).symm.trans hnode
  have hrefused : (Predicate.ofFilter s ⟨"id", "eq", some v.operand, none, false, []⟩).toOption.map
      (·.accepts ⟨[("id", v)]⟩) = some false := by
    decide +kernel
  have hp' : Predicate.ofFilter s ⟨"id", "eq", some v.operand, none, false, []⟩ = .ok p := hp
  rw [hp'] at hrefused
  exact absurd ((Option.some.inj hrefused).symm.trans haccepts) (by decide)

end RecordQuery
