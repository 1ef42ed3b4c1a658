import RecordQuery.Proofs.Filter.Fitting
import RecordQuery.Proofs.Text.Lowercase

/-!
# Conditions without regard to case

A condition on a text field that disregards case looks at the lower case forms of the field and of
the operand. A record that meets a condition with regard to case meets it without as long as the
sigmas of the operand keep their forms. For `eq` and `in`, which compare whole texts, they always
do. For the operators that look for a part of a text it depends on what stands around that part
(`Formula.holds_folded`).
-/

namespace RecordQuery

variable {α : Type}

namespace Condition

/-- A condition with regard to case. -/
def exact (c : Condition) : Condition := { c with caseSensitive := true }

/-- A condition without regard to case. -/
def folded (c : Condition) : Condition := { c with caseSensitive := false }

/-- What a condition asks of a text field. -/
theorem meets_text_iff {s : Schema α} {c : Condition} {field : Field α} {raw : String} {r : α}
    (hfield : s.get? c.field = some field) (hkind : field.kind = .text)
    (hraw : c.value = some raw) :
    c.Meets s r ↔ c.operator.Asks (fun raw => some (.text (c.needle .text raw))) raw
      (c.view .text (field.read r)) := by
  have hoperand : c.operand? .text = fun raw => some (.text (c.needle .text raw)) :=
    funext c.operand?_text
  unfold Meets
  simp [hfield, hkind, hraw, hoperand]

theorem meets_exact_iff {s : Schema α} {c : Condition} {field : Field α} {raw : String} {r : α}
    (hfield : s.get? c.field = some field) (hkind : field.kind = .text)
    (hraw : c.value = some raw) :
    c.exact.Meets s r ↔
      c.operator.Asks (fun raw => some (.text raw)) raw (field.read r) := by
  rw [meets_text_iff (c := c.exact) hfield hkind hraw]
  simp [needle, foldsCase, view, exact]

theorem meets_folded_iff {s : Schema α} {c : Condition} {field : Field α} {raw : String} {r : α}
    (hfield : s.get? c.field = some field) (hkind : field.kind = .text)
    (hraw : c.value = some raw) :
    c.folded.Meets s r ↔
      c.operator.Asks (fun raw => some (.text (Text.lowercase raw))) raw
        (field.read r).foldCase := by
  rw [meets_text_iff (c := c.folded) hfield hkind hraw]
  simp [needle, foldsCase, view, folded]

end Condition

theorem Value.compare?_text_eq_iff {v : Value} {t : String} :
    v.compare? (.text t) = some .eq ↔ v = .text t := by
  cases v <;> simp [compare?]

theorem Text.toList_lowercase (s : String) : (lowercase s).toList = lowerAfter [] s.toList := by
  simp [lowercase]

namespace Operator

/-- The operators that look for a text. -/
def SeeksText (o : Operator) : Prop :=
  o = .eq ∨ o = .among ∨ o = .contains ∨ o = .startsWith ∨ o = .endsWith

/-- What these operators ask of a text, given the form in which operands are looked for. -/
def FindsIn (form : String → String) (raw t : String) : Operator → Prop
  | .eq => t = form raw
  | .among => ∃ part ∈ Condition.segments raw, t = form part
  | .contains => (form raw).toList <:+: t.toList
  | .startsWith => (form raw).toList <+: t.toList
  | .endsWith => (form raw).toList <:+ t.toList
  | _ => False

theorem asks_among_text {form : String → String} {raw : String} {v : Value} :
    Asks (fun raw => some (.text (form raw))) raw v .among ↔
      ∃ part ∈ Condition.segments raw, v = .text (form part) := by
  simp [Asks, Value.compare?_text_eq_iff]

namespace SeeksText

variable {o : Operator} {form : String → String} {raw t : String}

/-- Only texts pass these operators. -/
theorem exists_text (ho : o.SeeksText) {v : Value}
    (h : o.Asks (fun raw => some (.text (form raw))) raw v) : ∃ t, v = .text t := by
  rcases ho with rfl | rfl | rfl | rfl | rfl
  · obtain ⟨w, hw, heq⟩ := h
    cases hw
    exact ⟨_, Value.compare?_text_eq_iff.1 heq⟩
  · obtain ⟨part, -, hv⟩ := asks_among_text.1 h
    exact ⟨_, hv⟩
  all_goals
    obtain ⟨n, t, -, hv, -⟩ := h
    exact ⟨t, hv⟩

theorem asks_iff (ho : o.SeeksText) :
    o.Asks (fun raw => some (.text (form raw))) raw (.text t) ↔ o.FindsIn form raw t := by
  rcases ho with rfl | rfl | rfl | rfl | rfl
  · simp [Asks, FindsIn, Value.compare?_text_eq_iff]
  · simp [asks_among_text, FindsIn]
  all_goals simp [Asks, FindsIn]

/-- Where sigmas do not matter, what is found in a text is found in lower case as well. -/
theorem findsIn_lowercase (ho : o.SeeksText) (h : o.FindsIn id raw t)
    (hsigma : o = .eq ∨ o = .among ∨ 'Σ' ∉ raw.toList) :
    o.FindsIn Text.lowercase raw (Text.lowercase t) := by
  have keep : o ≠ .eq → o ≠ .among → ∀ before after,
      Text.SigmasKeep before raw.toList after := by
    intro heq hamong before after
    rcases hsigma with rfl | rfl | hsigma
    · exact absurd rfl heq
    · exact absurd rfl hamong
    · exact Text.sigmasKeep_of_notMem hsigma
  rcases ho with rfl | rfl | rfl | rfl | rfl
  · exact congrArg Text.lowercase h
  · obtain ⟨part, hpart, ht⟩ := h
    exact ⟨part, hpart, congrArg Text.lowercase ht⟩
  · obtain ⟨front, rest, heq⟩ := h
    show (Text.lowercase raw).toList <:+: (Text.lowercase t).toList
    rw [Text.toList_lowercase, Text.toList_lowercase, ← heq, List.append_assoc]
    exact Text.lower_infix (keep (by decide) (by decide) _ _)
  · obtain ⟨rest, heq⟩ := h
    show (Text.lowercase raw).toList <+: (Text.lowercase t).toList
    rw [Text.toList_lowercase, Text.toList_lowercase, ← heq]
    exact Text.lower_prefix_iff.2 (keep (by decide) (by decide) _ _)
  · obtain ⟨front, heq⟩ := h
    show (Text.lowercase raw).toList <:+ (Text.lowercase t).toList
    rw [Text.toList_lowercase, Text.toList_lowercase, ← heq]
    exact Text.lower_suffix_iff.2 (keep (by decide) (by decide) _ _)

end SeeksText

end Operator

/-! ## Meeting a condition in lower case -/

/-- A record that meets a condition on a text field with regard to case has a text there, and the
condition fits without regard to case as well. The record meets it then, if the operator is `eq` or
`in` or the operand has no capital sigma. Otherwise it does where the operand stands in the text
with its sigmas keeping their forms, and at the front and at the end of the text only there. -/
theorem Formula.holds_folded {s : Schema α} {c : Condition} {field : Field α}
    (hfield : s.get? c.field = some field) (hkind : field.kind = .text)
    (ho : c.operator.SeeksText) {raw : String} (hraw : c.value = some raw) {φ : Formula α}
    (hφ : ofCondition s c.exact = .ok φ) {r : α} (hr : φ.holds r = true) :
    ∃ t ψ, field.read r = .text t ∧ ofCondition s c.folded = .ok ψ ∧
      (c.operator = .eq ∨ c.operator = .among ∨ 'Σ' ∉ raw.toList → ψ.holds r = true) ∧
      ∀ front rest, t.toList = front ++ (raw.toList ++ rest) →
        (c.operator = .contains → Text.SigmasKeep front.reverse raw.toList rest →
          ψ.holds r = true) ∧
        (c.operator = .startsWith → front = [] →
          (ψ.holds r = true ↔ Text.SigmasKeep [] raw.toList rest)) ∧
        (c.operator = .endsWith → rest = [] →
          (ψ.holds r = true ↔ Text.SigmasKeep front.reverse raw.toList [])) := by
  have hfits : c.exact.Fits s := ofCondition_succeeds_iff.1 ⟨φ, hφ⟩
  obtain ⟨ψ, hψ⟩ : ∃ ψ, ofCondition s c.folded = .ok ψ := ofCondition_succeeds_iff.2 hfits
  have hexact := (Condition.meets_exact_iff hfield hkind hraw).1 ((ofCondition_meets hφ r).1 hr)
  obtain ⟨t, ht⟩ := ho.exists_text hexact
  have hfolded : ψ.holds r = true ↔
      c.operator.FindsIn Text.lowercase raw (Text.lowercase t) := by
    rw [ofCondition_meets hψ r, Condition.meets_folded_iff hfield hkind hraw, ht]
    exact ho.asks_iff
  rw [ht, ho.asks_iff] at hexact
  refine ⟨t, ψ, ht, hψ, fun hsigma => hfolded.2 (ho.findsIn_lowercase hexact hsigma), ?_⟩
  intro front rest heq
  refine ⟨fun hop hkeep => ?_, fun hop hfront => ?_, fun hop hrest => ?_⟩
  · rw [hfolded, hop, Operator.FindsIn, Text.toList_lowercase, Text.toList_lowercase, heq]
    exact Text.lower_infix hkeep
  · rw [hfolded, hop, Operator.FindsIn, Text.toList_lowercase, Text.toList_lowercase, heq, hfront]
    exact Text.lower_prefix_iff
  · rw [hfolded, hop, Operator.FindsIn, Text.toList_lowercase, Text.toList_lowercase, heq, hrest,
      List.append_nil]
    exact Text.lower_suffix_iff

/-- Words as records. -/
def sampleWords : Schema String := .ofFields "word" [⟨"word", .text, .text⟩]

theorem Formula.holds_folded_sampleWords : ∃ ψ,
    ofCondition sampleWords ⟨"word", .endsWith, some "ΟΣ", false⟩ = .ok ψ ∧
      ψ.holds "ΛΟΓΟΣ" = true := by
  obtain ⟨t, ψ, ht, hψ, -, hparts⟩ := holds_folded
    (show sampleWords.get? "word" = some ⟨"word", .text, .text⟩ from rfl) rfl
    (show Operator.endsWith.SeeksText from .inr (.inr (.inr (.inr rfl)))) rfl
    (show ofCondition sampleWords (Condition.exact ⟨"word", .endsWith, some "ΟΣ", false⟩) = _
      from rfl)
    (show Formula.holds "ΛΟΓΟΣ" _ = true by decide +kernel)
  cases ht
  refine ⟨ψ, hψ, ((hparts "ΛΟΓ".toList [] rfl).2.2 rfl rfl).2 ?_⟩
  -- the last sigma ends a word in both
  rintro (_ | ⟨c, _ | ⟨d, front⟩⟩) rest h
  · exact absurd (List.cons.inj h).1 (by decide)
  · obtain ⟨rfl, h⟩ := List.cons.inj h
    cases h
    decide +kernel
  · exact absurd (congrArg List.length h) (by simp)

/-- In lower case `ΑΣ` ends in another letter than the part of `ΑΣΑ` that it is. -/
theorem Formula.folding_loses_match : ¬ ∀ (α : Type) (s : Schema α) (c : Condition)
    (field : Field α) (raw : String) (φ : Formula α) (r : α), s.get? c.field = some field →
    field.kind = .text → c.operator.SeeksText → c.value = some raw →
    ofCondition s c.exact = .ok φ → φ.holds r = true →
      ∃ ψ, ofCondition s c.folded = .ok ψ ∧ ψ.holds r = true := by
  intro h
  obtain ⟨ψ, hψ, hr⟩ := h String sampleWords ⟨"word", .contains, some "ΑΣ", true⟩ _ _ _ "ΑΣΑ"
    rfl rfl (.inr (.inr (.inl rfl))) rfl rfl (by decide +kernel)
  cases hψ
  exact absurd hr (by decide +kernel)

end RecordQuery
