import RecordQuery.Json.Basic
import RecordQuery.Number.Decimal

/-!
# Writing JSON

`Json.text` writes a document without blanks and `Json.pretty` with one member or item a line,
indented by two spaces a level. Texts escape the quote, the backslash and the control characters,
and nothing else.
-/

namespace RecordQuery.Json

/-- A number of a document has at least one digit after the point, and a power with its sign below
`0.00001` and from `10000000000000000` on. -/
def layout : Decimal.Layout where
  plainFrom := -5
  plainBelow := some 16
  pointZero := true
  tie := .even
  nan := "null"
  infinity := "null"

/-- The written form of a number. -/
def Number.text : Number → String
  | .int i => toString i
  | .float x => layout.write x

/-- The four digits of a control character's code. -/
def controlCode (c : Char) : List Char :=
  ['0', '0', Nat.digitChar (c.toNat / 16), Nat.digitChar (c.toNat % 16)]

/-- One character inside a text. -/
def escape (c : Char) : List Char :=
  if c = '"' then ['\\', '"']
  else if c = '\\' then ['\\', '\\']
  else if c = '\x08' then ['\\', 'b']
  else if c = '\t' then ['\\', 't']
  else if c = '\n' then ['\\', 'n']
  else if c = '\x0c' then ['\\', 'f']
  else if c = '\r' then ['\\', 'r']
  else if c.toNat < 0x20 then '\\' :: 'u' :: controlCode c
  else [c]

/-- A text between quotes. -/
def quote (s : String) : String := String.ofList ('"' :: s.toList.flatMap escape ++ ['"'])

mutual

/-- A document without blanks. -/
def text : Json → String
  | .null => "null"
  | .bool b => if b then "true" else "false"
  | .number n => n.text
  | .string s => quote s
  | .array [] => "[]"
  | .array (item :: items) => "[" ++ text item ++ itemsText items ++ "]"
  | .object [] => "\x7b\x7d"
  | .object ((name, value) :: members) =>
    "\x7b" ++ quote name ++ ":" ++ text value ++ membersText members ++ "\x7d"

/-- Items with a comma before each. -/
def itemsText : List Json → String
  | [] => ""
  | item :: items => "," ++ text item ++ itemsText items

/-- Members with a comma before each. -/
def membersText : List (String × Json) → String
  | [] => ""
  | (name, value) :: members => "," ++ quote name ++ ":" ++ text value ++ membersText members

end

/-- A new line at a level of indentation. -/
def newline (level : Nat) : String := String.ofList ('\n' :: List.replicate (2 * level) ' ')

mutual

/-- A document at a level of indentation. -/
def prettyAt (level : Nat) : Json → String
  | .null => "null"
  | .bool b => if b then "true" else "false"
  | .number n => n.text
  | .string s => quote s
  | .array [] => "[]"
  | .array (item :: items) =>
    "[" ++ newline (level + 1) ++ prettyAt (level + 1) item ++ prettyItems (level + 1) items
      ++ newline level ++ "]"
  | .object [] => "\x7b\x7d"
  | .object ((name, value) :: members) =>
    "\x7b" ++ newline (level + 1) ++ quote name ++ ": " ++ prettyAt (level + 1) value
      ++ prettyMembers (level + 1) members ++ newline level ++ "\x7d"

/-- Items of a level with a comma before each. -/
def prettyItems (level : Nat) : List Json → String
  | [] => ""
  | item :: items => "," ++ newline level ++ prettyAt level item ++ prettyItems level items

/-- Members of a level with a comma before each. -/
def prettyMembers (level : Nat) : List (String × Json) → String
  | [] => ""
  | (name, value) :: members =>
    "," ++ newline level ++ quote name ++ ": " ++ prettyAt level value
      ++ prettyMembers level members

end

/-- A document with one member or item a line. -/
def pretty (j : Json) : String := prettyAt 0 j

end RecordQuery.Json
