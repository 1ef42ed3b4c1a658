import RecordQuery.Json.Decoder
import RecordQuery.Query.Filter

/-!
# Queries as JSON

`Query.ofTree` and `Filter.ofTree` read submitted queries. Members are found by their names in any
case of ASCII letters, and some have a second name; when a member comes again the last one counts,
and members of other names are passed over. An operand is a text, a truth value or a number, which
is taken as the text that it would be written as.

`Query.toJson` writes a query, and `Query.canonicalKey` is the same text for queries that differ in
nothing but spelling.
-/

namespace RecordQuery

open Json (Fault Tree Items Members)

/-- The members of a filter node. -/
inductive Filter.Part where
  | field
  | operator
  | value
  | logic
  | caseSensitive
  | filters

/-- The member of a filter node with a name. -/
def Filter.Part.ofName? (name : String) : Option Filter.Part :=
  match Text.asciiFold name with
  | "field" => some .field
  | "operator" | "op" => some .operator
  | "value" => some .value
  | "logic" => some .logic
  | "casesensitive" => some .caseSensitive
  | "filters" | "children" => some .filters
  | _ => none

/-- A number as an operand never has a power, and no point when it is whole. -/
def operandLayout : Decimal.Layout where
  plainFrom := 0
  plainBelow := none
  pointZero := false
  tie := .up
  nan := "NaN"
  infinity := "inf"

/-- The operand that a number is taken as. -/
def operandOfNumber (n : Json.Number) : String :=
  match n.int64? with
  | some i => toString i
  | none => operandLayout.write n.toBinary64

/-- The operand of a node; `settled` is the offset of the fault of a value that can be none. -/
def operandOfTree (settled : Nat) : Tree → Except Fault (Option String)
  | .null _ => pure none
  | .string s _ => pure (some s)
  | .bool b _ => pure (some (if b then "true" else "false"))
  | .number n _ => pure (some (operandOfNumber n))
  | t => do
    let _ ← t.toJson
    throw ⟨.noVariant "WireScalar", settled⟩

namespace Filter

mutual

/-- The node that an object stands for. -/
def ofTree : Tree → Except Fault Filter
  | .object _ members => ofMembers neutral members
  | .deep start true _ => throw (Tree.tooDeep start)
  | t => throw (t.mismatch "a filter object")

/-- A node with members put into it. -/
def ofMembers (node : Filter) : Members → Except Fault Filter
  | .done _ => pure node
  | .member name _ value settled rest => do
    match Part.ofName? (← name.text) with
    | some .field =>
      let s ← value.asOption Tree.asString
      ofMembers { node with field := s.getD "" } rest
    | some .operator =>
      let s ← value.asOption Tree.asString
      ofMembers { node with operator := s.getD "" } rest
    | some .value =>
      let s ← operandOfTree settled value
      ofMembers { node with value := s } rest
    | some .logic =>
      let s ← value.asOption Tree.asString
      ofMembers { node with logic := s } rest
    | some .caseSensitive =>
      let b ← value.asOption Tree.asBool
      ofMembers { node with caseSensitive := b.getD false } rest
    | some .filters =>
      let fs ← childrenOfTree value
      ofMembers { node with filters := fs } rest
    | none =>
      value.skip
      ofMembers node rest
  | .fault reading _ => throw reading

/-- The children that an array stands for; `null` stands for none. -/
def childrenOfTree : Tree → Except Fault (List Filter)
  | .null _ => pure []
  | .array _ items => ofItems items
  | .deep start false _ => throw (Tree.tooDeep start)
  | t => throw (t.mismatch "a sequence")

/-- The nodes that items stand for. -/
def ofItems : Items → Except Fault (List Filter)
  | .done _ => pure []
  | .item _ value rest => do
    let f ← ofTree value
    let fs ← ofItems rest
    return f :: fs
  | .fault reading _ => throw reading

end

/-- A member that is written only when it is there. -/
def optional (name : String) : Option String → List (String × Json)
  | none => []
  | some s => [(name, .string s)]

mutual

/-- The object of a node. -/
def toJson : Filter → Json
  | ⟨field, operator, value, logic, caseSensitive, filters⟩ =>
    .object <|
      [("field", .string field), ("operator", .string operator)] ++ optional "value" value
        ++ optional "logic" logic ++ [("caseSensitive", .bool caseSensitive)]
        ++ (match filters with
          | [] => []
          | f :: fs => [("filters", .array (toJson f :: toJsons fs))])

/-- The objects of nodes. -/
def toJsons : List Filter → List Json
  | [] => []
  | f :: fs => toJson f :: toJsons fs

end

end Filter

namespace SortKey

/-- A key under construction, with members put into it, and the offset behind its end. -/
def ofMembers (field direction : Option String) : Members → Except Fault SortKey
  | .done stop =>
    match field with
    | some f => pure ⟨f, direction.getD ""⟩
    | none => throw ⟨.missingField "field", stop⟩
  | .member name _ value _ rest => do
    match Text.asciiFold (← name.text) with
    | "field" => ofMembers (some (← value.asString)) direction rest
    | "dir" | "direction" => ofMembers field (← value.asOption Tree.asString) rest
    | _ =>
      value.skip
      ofMembers field direction rest
  | .fault reading _ => throw reading

/-- The key that an object stands for. -/
def ofTree : Tree → Except Fault SortKey
  | .object _ members => ofMembers none none members
  | .deep start true _ => throw (Tree.tooDeep start)
  | t => throw (t.mismatch "a sort object")

/-- The object of a key. -/
def toJson (k : SortKey) : Json :=
  .object [("field", .string k.field), ("dir", .string k.direction)]

end SortKey

namespace Query

/-- A query with members put into it. -/
def ofMembers (q : Query) : Members → Except Fault Query
  | .done _ => pure q
  | .member name _ value _ rest => do
    match Text.asciiFold (← name.text) with
    | "filter" => ofMembers { q with filter := ← value.asOption Filter.ofTree } rest
    | "sort" =>
      let keys ← value.asOption (Tree.asList SortKey.ofTree)
      ofMembers { q with sort := keys.getD [] } rest
    | _ =>
      value.skip
      ofMembers q rest
  | .fault reading _ => throw reading

/-- The query that an object stands for. -/
def ofTree : Tree → Except Fault Query
  | .object _ members => ofMembers neutral members
  | .deep start true _ => throw (Tree.tooDeep start)
  | t => throw (t.mismatch "a dynamic query object")

/-- The object of a query. -/
def toJson (q : Query) : Json :=
  .object <|
    (match q.filter with
      | none => []
      | some f => [("filter", f.toJson)])
    ++ (match q.sort with
      | [] => []
      | keys => [("sort", .array (keys.map SortKey.toJson))])

/-- The text of a query. -/
def text (q : Query) : String := q.toJson.text

/-- The text that queries share when they differ in nothing but spelling. -/
def canonicalKey (q : Query) : String := q.normalize.text

end Query

end RecordQuery
