import RecordQuery.Kind

/-!
# Refused queries

A `QueryError` is a reason to refuse a filter, a sort key, a query or a page request. It names what
the caller has to mend. `QueryError.code` is stable and meant for programs, `QueryError.message` for
people.
-/

namespace RecordQuery

/-- Why a query is refused. -/
inductive QueryError where
  | fieldNotFound (field record : String)
  | unsupportedOperator (operator : String)
  | incompatibleOperator (field operator : String) (kind : Kind)
  | invalidDirection (field direction : String)
  | invalidValue (field value : String) (expected : Kind)
  | malformedOperand (field operator value : String)
  | missingValue (field operator : String)
  | invalidLogic (logic : String)
  | filterTooDeep (max : Nat)
  | tooManySortKeys (max count : Nat)
  | queryTooLarge (max : Nat)
  | invalidJson (message : String)
  | invalidPage (message : String)
  deriving DecidableEq

namespace QueryError

/-- The stable code of an error. -/
def code : QueryError → String
  | .fieldNotFound .. => "FIELD_NOT_FOUND"
  | .unsupportedOperator .. => "UNSUPPORTED_OPERATOR"
  | .incompatibleOperator .. => "INCOMPATIBLE_OPERATOR"
  | .invalidDirection .. => "INVALID_DIRECTION"
  | .invalidValue .. => "INVALID_VALUE"
  | .malformedOperand .. => "MALFORMED_OPERAND"
  | .missingValue .. => "MISSING_VALUE"
  | .invalidLogic .. => "INVALID_LOGIC"
  | .filterTooDeep .. => "FILTER_TOO_DEEP"
  | .tooManySortKeys .. => "TOO_MANY_SORT_KEYS"
  | .queryTooLarge .. => "QUERY_JSON_TOO_LARGE"
  | .invalidJson .. => "INVALID_QUERY_JSON"
  | .invalidPage .. => "INVALID_PAGE"

/-- The wording of an error. -/
def message : QueryError → String
  | .fieldNotFound field record => "Field '" ++ field ++ "' not found on type " ++ record
  | .unsupportedOperator operator => "Operator '" ++ operator ++ "' is not supported"
  | .incompatibleOperator field operator kind =>
    "Operator '" ++ operator ++ "' cannot be applied to " ++ kind.name ++ " field '" ++ field ++ "'"
  | .invalidDirection field direction =>
    "Invalid sort direction '" ++ direction ++ "' for field '" ++ field
      ++ "'. Must be 'asc' or 'desc'"
  | .invalidValue field value expected =>
    "Value '" ++ value ++ "' for field '" ++ field ++ "' cannot be converted to " ++ expected.name
  | .malformedOperand field operator value =>
    "Operator '" ++ operator ++ "' on field '" ++ field
      ++ "' requires exactly 2 comma-separated values, got '" ++ value ++ "'"
  | .missingValue field operator =>
    "Operator '" ++ operator ++ "' on field '" ++ field ++ "' requires a value"
  | .invalidLogic logic => "Invalid logic '" ++ logic ++ "'. Must be 'and' or 'or'"
  | .filterTooDeep max => "Filter nesting exceeds maximum depth of " ++ toString max
  | .tooManySortKeys max count =>
    "Maximum " ++ toString max ++ " sort keys allowed, got " ++ toString count
  | .queryTooLarge max => "Query JSON exceeds maximum size of " ++ toString max ++ " bytes"
  | .invalidJson message => "Invalid query JSON: " ++ message
  | .invalidPage message => "Invalid page request: " ++ message

end QueryError

end RecordQuery
