import RecordQuery.Proofs.Number.Writing
import RecordQuery.Query.Wire

/-!
# Scalars as operands

A filter takes the scalar that is its operand as a text (`Json.operand`). Numbers are written for
this in a form of their own, and what is written is read back: a whole number of 64 bits as itself,
and any number as the double nearest to it (`Json.Number.integer?_operand`,
`Json.Number.binary64?_operand`).

Documents write numbers in another form. Both forms of a whole number of 64 bits with a sign are the
same (`Json.Number.operand_eq_text`), and neither has blanks or capitals.
-/

namespace RecordQuery

open Json (Tree)

namespace Json

/-- A text, a truth value or a number; the doubles of a document are finite. -/
def IsScalar : Json → Prop
  | .bool _ | .string _ | .number (.int _) => True
  | .number (.float x) => x.isFinite = true
  | _ => False

/-- The text that a scalar is taken as. -/
def operand : Json → String
  | .bool b => if b then "true" else "false"
  | .number n => operandOfNumber n
  | .string s => s
  | _ => ""

theorem operandOfTree_ofJson {v : Json} (hv : v.IsScalar) (settled : Nat) :
    operandOfTree settled (Tree.ofJson v) = .ok (some v.operand) := by
  cases v with
  | bool b => rfl
  | number n => rfl
  | string s => rfl
  | null | array | object => cases hv

end Json

/-- A double that is written as an operand is read back, be it infinite or not. -/
theorem Number.binary64?_operandLayout {x : Binary64} (hx : x.isNaN = false) :
    Number.binary64? (operandLayout.write x).toList = some x := by
  cases hfinite : x.isFinite with
  | true => exact binary64?_write operandLayout hfinite
  | false =>
    have hmagnitude := Binary64.magnitude_of_not_isFinite hx hfinite
    have hread : ∀ negative : Bool, Number.binary64? ((if negative then ['-'] else []) ++
        operandLayout.infinity.toList) =
          some (Binary64.ofMagnitude negative Binary64.infinite) := by
      decide +kernel
    rw [Decimal.Layout.write, hx, hfinite]
    simp only [Bool.false_eq_true, if_false, Bool.not_false, if_true, String.toList_ofList]
    rw [hread, ← hmagnitude, Binary64.ofMagnitude_magnitude]

namespace Json.Number

theorem isNaN_toBinary64 {n : Number} (hn : (Json.number n).IsScalar) :
    n.toBinary64.isNaN = false := by
  cases n with
  | int i => exact Binary64.isNaN_ofInt i
  | float x => exact Binary64.isNaN_eq_false_of_isFinite hn

theorem plain_operand {n : Number} (hn : (Json.number n).IsScalar) :
    Text.Plain (operandOfNumber n).toList := by
  unfold operandOfNumber
  split
  · exact Number.plain_toString _
  · exact Number.plain_write _ (isNaN_toBinary64 hn) (by decide)

theorem plain_text {n : Number} (hn : (Json.number n).IsScalar) : Text.Plain n.text.toList := by
  cases n with
  | int i => exact Number.plain_toString i
  | float x =>
    exact Number.plain_write _ (Binary64.isNaN_eq_false_of_isFinite hn) (by decide)

theorem int64?_eq_some {n : Number} {i : Int64} (h : n.int64? = some i) : n = .int i.toInt := by
  cases n with
  | float x => cases h
  | int k =>
    simp only [int64?, Option.ite_none_right_eq_some, Option.some.injEq] at h
    obtain ⟨⟨hlow, hhigh⟩, rfl⟩ := h
    rw [Int64.toInt_ofInt_of_le hlow hhigh]

/-- An operand that stands for a whole number of 64 bits is this number. -/
theorem integer?_operand {n : Number} {i : Int64} (h : n.int64? = some i) :
    Number.integer? (operandOfNumber n).toList = some i := by
  unfold operandOfNumber
  rw [h]
  exact Number.integer?_toString i

/-- An operand that stands for a number is the double nearest to the number. -/
theorem binary64?_operand {n : Number} (hn : (Json.number n).IsScalar) :
    Number.binary64? (operandOfNumber n).toList = some n.toBinary64 := by
  unfold operandOfNumber
  cases h : n.int64? with
  | some i =>
    obtain rfl := int64?_eq_some h
    exact Number.binary64?_toString (Number.isInt64_toInt i)
  | none => exact Number.binary64?_operandLayout (isNaN_toBinary64 hn)

/-- Whole numbers of 64 bits with a sign are written alike in documents and as operands. -/
theorem operand_eq_text {n : Number} {i : Int64} (h : n.int64? = some i) :
    operandOfNumber n = n.text := by
  obtain rfl := int64?_eq_some h
  unfold operandOfNumber
  rw [h]
  rfl

end Json.Number

end RecordQuery
