import RecordQuery.Query.Filter

/-!
# Operators, connectives and directions

The words of queries and what they mean. They are read without blanks around them and without regard
to the case of letters.
-/

namespace RecordQuery

/-- How a field is compared with an operand. -/
inductive Operator where
  | eq
  | neq
  | lt
  | lte
  | gt
  | gte
  | contains
  | startsWith
  | endsWith
  | isNull
  | isNotNull
  | among
  | between
  deriving DecidableEq

namespace Operator

/-- All operators. -/
def all : List Operator :=
  [.eq, .neq, .lt, .lte, .gt, .gte, .contains, .startsWith, .endsWith, .isNull, .isNotNull, .among,
   .between]

/-- The word for an operator. -/
def name : Operator → String
  | .eq => "eq"
  | .neq => "neq"
  | .lt => "lt"
  | .lte => "lte"
  | .gt => "gt"
  | .gte => "gte"
  | .contains => "contains"
  | .startsWith => "startswith"
  | .endsWith => "endswith"
  | .isNull => "isnull"
  | .isNotNull => "isnotnull"
  | .among => "in"
  | .between => "between"

/-- Whether an operator has an operand. -/
def requiresValue : Operator → Bool
  | .isNull | .isNotNull => false
  | _ => true

/-- Whether an operator applies to text fields only. -/
def isTextOnly : Operator → Bool
  | .contains | .startsWith | .endsWith => true
  | _ => false

/-- The operator of a word. -/
def ofText? (s : String) : Option Operator :=
  all.find? fun o => Text.sameIgnoringCase o.name (Text.trim s)

/-- The operator of a word. -/
def ofText (s : String) : Except QueryError Operator :=
  match ofText? s with
  | some o => pure o
  | none => throw (.unsupportedOperator s)

end Operator

/-- How the children of a node are combined. -/
inductive Connective where
  | and
  | or
  deriving DecidableEq

namespace Connective

/-- The word for a connective. -/
def name : Connective → String
  | .and => "and"
  | .or => "or"

/-- The connective of a word; `and` where there is none or a blank one. -/
def ofLogic (logic : Option String) : Except QueryError Connective :=
  match logic.map Text.trim with
  | none => pure .and
  | some l =>
    if l = "" then pure .and
    else if Text.sameIgnoringCase l "and" then pure .and
    else if Text.sameIgnoringCase l "or" then pure .or
    else throw (.invalidLogic l)

end Connective

/-- Which way a sort key sorts. -/
inductive Direction where
  | asc
  | desc
  deriving DecidableEq

namespace Direction

/-- The word for a direction. -/
def name : Direction → String
  | .asc => "asc"
  | .desc => "desc"

/-- The direction of a word. -/
def ofText? (s : String) : Option Direction :=
  if Text.sameIgnoringCase (Text.trim s) "asc" then some .asc
  else if Text.sameIgnoringCase (Text.trim s) "desc" then some .desc
  else none

/-- The direction of a sort key. -/
def ofKey (key : SortKey) : Except QueryError Direction :=
  match ofText? key.direction with
  | some d => pure d
  | none => throw (.invalidDirection key.field key.direction)

end Direction

end RecordQuery
