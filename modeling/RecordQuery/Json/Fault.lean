import RecordQuery.Json.Printer
import RecordQuery.Text.Quoted

/-!
# Faults of JSON texts

A `Json.Fault` says why a text could not be read as what was wanted, and where: after how many of
its bytes. `Fault.message` is the wording of the cause alone, and `Fault.messageIn` adds the line
and the column in a text, the column being the number of bytes of that line up to the place.
-/

namespace RecordQuery.Json

/-- What stands where something else was wanted. -/
inductive Found where
  | null
  | bool (value : Bool)
  | number (value : Number)
  | string (value : String)
  | sequence
  | map

/-- Why a text could not be read. -/
inductive Cause where
  | endInValue
  | endInString
  | endInList
  | endInObject
  | expectedColon
  | expectedListCommaOrEnd
  | expectedObjectCommaOrEnd
  | expectedWord
  | expectedValue
  | invalidEscape
  | invalidNumber
  | numberOutOfRange
  | invalidCodePoint
  | controlCharacter
  | keyNotString
  | loneSurrogate
  | trailingComma
  | trailingCharacters
  | endOfEscape
  | tooDeep
  | invalidType (found : Found) (expected : String)
  | invalidValue (found : Found) (expected : String)
  | invalidLength (length : Nat) (expected : String)
  | unknownVariant (name : String) (expected : List String)
  | missingField (name : String)
  | duplicateField (name : String)
  | noVariant (name : String)

/-- A cause and the number of bytes before its place. -/
structure Fault where
  cause : Cause
  offset : Nat

/-- What was found, in the words of messages. -/
def Found.message : Found → String
  | .null => "null"
  | .bool b => "boolean \x60" ++ (if b then "true" else "false") ++ "\x60"
  | .number (.int i) => "integer \x60" ++ toString i ++ "\x60"
  | .number (.float x) => "floating point \x60" ++ layout.write x ++ "\x60"
  | .string s => "string " ++ Text.quoted s
  | .sequence => "sequence"
  | .map => "map"

/-- Names between backquotes with commas between them. -/
def listed (names : List String) : String :=
  ", ".intercalate (names.map fun n => "\x60" ++ n ++ "\x60")

/-- The wording of a cause. -/
def Cause.message : Cause → String
  | .endInValue => "EOF while parsing a value"
  | .endInString => "EOF while parsing a string"
  | .endInList => "EOF while parsing a list"
  | .endInObject => "EOF while parsing an object"
  | .expectedColon => "expected \x60:\x60"
  | .expectedListCommaOrEnd => "expected \x60,\x60 or \x60]\x60"
  | .expectedObjectCommaOrEnd => "expected \x60,\x60 or \x60\x7d\x60"
  | .expectedWord => "expected ident"
  | .expectedValue => "expected value"
  | .invalidEscape => "invalid escape"
  | .invalidNumber => "invalid number"
  | .numberOutOfRange => "number out of range"
  | .invalidCodePoint => "invalid unicode code point"
  | .controlCharacter => "control character (\\u0000-\\u001F) found while parsing a string"
  | .keyNotString => "key must be a string"
  | .loneSurrogate => "lone leading surrogate in hex escape"
  | .trailingComma => "trailing comma"
  | .trailingCharacters => "trailing characters"
  | .endOfEscape => "unexpected end of hex escape"
  | .tooDeep => "recursion limit exceeded"
  | .invalidType found expected => "invalid type: " ++ found.message ++ ", expected " ++ expected
  | .invalidValue found expected => "invalid value: " ++ found.message ++ ", expected " ++ expected
  | .invalidLength n expected => "invalid length " ++ toString n ++ ", expected " ++ expected
  | .unknownVariant name expected =>
    "unknown variant \x60" ++ name ++ "\x60, expected one of " ++ listed expected
  | .missingField name => "missing field \x60" ++ name ++ "\x60"
  | .duplicateField name => "duplicate field \x60" ++ name ++ "\x60"
  | .noVariant name => "data did not match any variant of untagged enum " ++ name

/-- The wording of a fault without its place. -/
def Fault.message (f : Fault) : String := f.cause.message

/-- The line, from one, and the column after some bytes. -/
def place (bytes : List UInt8) : Nat × Nat :=
  bytes.foldl (fun p b => if b = 10 then (p.1 + 1, 0) else (p.1, p.2 + 1)) (1, 0)

/-- The wording of a fault with its line and column in a text. -/
def Fault.messageIn (bytes : List UInt8) (f : Fault) : String :=
  let (line, column) := place (bytes.take f.offset)
  f.message ++ " at line " ++ toString line ++ " column " ++ toString column

end RecordQuery.Json
