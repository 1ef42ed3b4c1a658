import RecordQuery.Query.Clause
import RecordQuery.Schema
import RecordQuery.Text.Search

/-!
# Tests of values

A `Test` is an operator with its operands, read as values of the field's kind; `Test.holds` applies
it to a value. What does not compare is not equal, and `null` compares with nothing.

`Test.ofCondition` checks a condition against a field: operators for texts need a text field, and
every operand must read as a value of the field's kind. The operands of `in` and `between` are
separated by commas, blanks around them not counting.
-/

namespace RecordQuery

/-- An operator with its operands. -/
inductive Test where
  | eq (operand : Value)
  | neq (operand : Value)
  | lt (operand : Value)
  | lte (operand : Value)
  | gt (operand : Value)
  | gte (operand : Value)
  | contains (needle : String)
  | startsWith (needle : String)
  | endsWith (needle : String)
  | isNull
  | isNotNull
  | among (operands : List Value)
  | between (lower upper : Value)

namespace Value

/-- Whether two values compare as equal. -/
def isEqual (v w : Value) : Bool := compare? v w == some .eq

/-- Whether the first value compares as less. -/
def isLess (v w : Value) : Bool := compare? v w == some .lt

/-- Whether the first value compares as greater. -/
def isGreater (v w : Value) : Bool := compare? v w == some .gt

/-- Whether the value is a text with a property. -/
def isTextWith (p : List Char → Bool) : Value → Bool
  | .text s => p s.toList
  | _ => false

end Value

namespace Test

/-- Whether a value passes a test. -/
def holds (v : Value) : Test → Bool
  | .eq w => v.isEqual w
  | .neq w => !v.isEqual w
  | .lt w => v.isLess w
  | .lte w => v.isLess w || v.isEqual w
  | .gt w => v.isGreater w
  | .gte w => v.isGreater w || v.isEqual w
  | .contains s => v.isTextWith fun cs => Text.occursIn s.toList cs
  | .startsWith s => v.isTextWith fun cs => s.toList.isPrefixOf cs
  | .endsWith s => v.isTextWith fun cs => s.toList.isSuffixOf cs
  | .isNull => v.isNull
  | .isNotNull => !v.isNull
  | .among ws => ws.any fun w => v.isEqual w
  | .between low high => (v.isGreater low || v.isEqual low) && (v.isLess high || v.isEqual high)

end Test

namespace Condition

/-- Whether a condition on a field of some kind looks at texts in lower case. -/
def foldsCase (c : Condition) (kind : Kind) : Bool := kind = .text && !c.caseSensitive

/-- A text that an operator for texts looks for. -/
def needle (c : Condition) (kind : Kind) (raw : String) : String :=
  if c.foldsCase kind then Text.lowercase raw else raw

/-- An operand as a value of the field's kind. -/
def operand (c : Condition) (kind : Kind) (raw : String) : Except QueryError Value :=
  match Value.ofText? kind raw with
  | some v => pure (if c.foldsCase kind then v.foldCase else v)
  | none => throw (.invalidValue c.field raw kind)

/-- The operands between commas. -/
def segments (raw : String) : List String :=
  (Text.split ',' raw.toList).map fun cs => String.ofList (Text.trimChars cs)

end Condition

/-- The test of a condition on a field of some kind. -/
def Test.ofCondition (kind : Kind) (c : Condition) : Except QueryError Test :=
  if c.operator.isTextOnly && kind ≠ .text then
    throw (.incompatibleOperator c.field c.operator.name kind)
  else
    -- Only operators without operands come without a text.
    let raw := c.value.getD ""
    match c.operator with
    | .eq => Test.eq <$> c.operand kind raw
    | .neq => Test.neq <$> c.operand kind raw
    | .lt => Test.lt <$> c.operand kind raw
    | .lte => Test.lte <$> c.operand kind raw
    | .gt => Test.gt <$> c.operand kind raw
    | .gte => Test.gte <$> c.operand kind raw
    | .contains => pure (.contains (c.needle kind raw))
    | .startsWith => pure (.startsWith (c.needle kind raw))
    | .endsWith => pure (.endsWith (c.needle kind raw))
    | .isNull => pure .isNull
    | .isNotNull => pure .isNotNull
    | .among => Test.among <$> (Condition.segments raw).mapM (c.operand kind)
    | .between =>
      match Condition.segments raw with
      | [low, high] => do
        let low ← c.operand kind low
        let high ← c.operand kind high
        return .between low high
      | _ => throw (.malformedOperand c.field c.operator.name raw)

end RecordQuery
